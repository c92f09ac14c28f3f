import MavlinkLogService.Recording.VideoRecorder

/-! The processes of the recorder and the threads that wait for the stopped ones, on a kernel that reuses the pids of
processes that have been waited for. -/

namespace MavlinkLogService.Recording

open Library

inductive Signal
  | int
  | kill
  deriving DecidableEq, Repr

/-- A process that has not been waited for. The kernel knows it by its pid; `serial` counts the processes spawned. -/
structure Child where
  pid : ℤ
  serial : ℕ
  zombie : Bool := false
  deriving DecidableEq, Repr

/-- The detached thread of `stop`: it holds the pid alone, and `serial` tells which process was meant. -/
structure Watcher where
  child : ℤ
  serial : ℕ
  polls : ℕ := 0
  killed : Bool := false
  deriving DecidableEq, Repr

/-- A call of `kill`, for the process `meant`; the signal went to the process `hit`, if the pid was that of a child
at all. -/
structure Kill where
  signal : Signal
  meant : ℕ
  hit : Option ℕ
  deriving DecidableEq, Repr

def Child.key (c : Child) : ℤ × ℕ := (c.pid, c.serial)

def Watcher.key (w : Watcher) : ℤ × ℕ := (w.child, w.serial)

def findChild (children : List Child) (pid : ℤ) : Option Child := children.find? fun c => c.pid == pid

def waitpid (children : List Child) (pid : ℤ) : Waited :=
  match findChild children pid with
  | none => .noChild
  | some c => if c.zombie then .exited else .running

def reap (children : List Child) (pid : ℤ) : List Child := children.filter fun c => c.pid != pid

structure Processes where
  recorder : VideoRecorder := {}
  current : ℕ := 0
  children : List Child := []
  watchers : List Watcher := []
  spawned : ℕ := 0
  kills : List Kill := []
  deriving DecidableEq, Repr

inductive ProcessEvent
  | exit (pid : ℤ)
  | start (env : StartEnv)
  | stop (media : Media)
  | snapshot (env : SnapshotEnv)
  | watch (i : ℕ)
  deriving DecidableEq, Repr

namespace Processes

def waited (s : Processes) : List Child :=
  if 0 < s.recorder.pid ∧ waitpid s.children s.recorder.pid = .exited then reap s.children s.recorder.pid
  else s.children

def kill (s : Processes) (signal : Signal) (pid : ℤ) (meant : ℕ) : Processes :=
  { s with kills := s.kills ++ [⟨signal, meant, (findChild s.children pid).map Child.serial⟩] }

def exit (s : Processes) (pid : ℤ) : Option Processes :=
  match findChild s.children pid with
  | none => none
  | some c =>
    if c.zombie then none
    else some { s with children := s.children.map fun c => if c.pid = pid then { c with zombie := true } else c }

def start (settings : RecordingSettings) (s : Processes) (env : StartEnv) : Option Processes :=
  let (result, r) := s.recorder.start settings (waitpid s.children) env
  let children := if settings.enabled then s.waited else s.children
  if result ≠ .started then some { s with recorder := r, children := children }
  -- the pid of a process that has not been waited for is taken
  else if (findChild children env.child).isSome then none
  else some { s with
    recorder := r
    current := s.spawned
    children := ⟨env.child, s.spawned, false⟩ :: children
    spawned := s.spawned + 1 }

def stop (s : Processes) (media : Media) : Processes :=
  let (stopped, r) := s.recorder.stop (waitpid s.children) media
  let s' := { s with recorder := r, children := s.waited }
  if stopped then
    { s'.kill .int s.recorder.pid s.current with watchers := s.watchers ++ [⟨s.recorder.pid, s.current, 0, false⟩] }
  else s'

def snapshot (settings : RecordingSettings) (s : Processes) (env : SnapshotEnv) : Processes :=
  { s with recorder := (s.recorder.snapshot settings (waitpid s.children) env).2, children := s.waited }

/-- Twenty polls, a `SIGKILL`, and a wait that blocks until the process is gone. -/
def watch (s : Processes) (i : ℕ) : Option Processes :=
  match s.watchers[i]? with
  | none => none
  | some w =>
    if w.polls < 20 then
      if waitpid s.children w.child = .exited then
        some { s with children := reap s.children w.child, watchers := s.watchers.eraseIdx i }
      else some { s with watchers := s.watchers.set i { w with polls := w.polls + 1 } }
    else if !w.killed then
      some { s.kill .kill w.child w.serial with watchers := s.watchers.set i { w with killed := true } }
    else
      match waitpid s.children w.child with
      | .running => none
      | .exited => some { s with children := reap s.children w.child, watchers := s.watchers.eraseIdx i }
      | _ => some { s with watchers := s.watchers.eraseIdx i }

def step (settings : RecordingSettings) (s : Processes) : ProcessEvent → Option Processes
  | .exit pid => s.exit pid
  | .start env => s.start settings env
  | .stop media => some (s.stop media)
  | .snapshot env => some (s.snapshot settings env)
  | .watch i => s.watch i

def owners (s : Processes) : List (ℤ × ℕ) :=
  (if 0 < s.recorder.pid then [(s.recorder.pid, s.current)] else []) ++ s.watchers.map Watcher.key

end Processes

structure Owned (s : Processes) : Prop where
  owners : (s.children.map Child.key).Perm s.owners
  pids : (s.children.map Child.pid).Nodup
  hits : ∀ k ∈ s.kills, k.hit = some k.meant

section Table

variable {children : List Child} {c : Child} {pid : ℤ} {serial : ℕ} {owners : List (ℤ × ℕ)}

lemma findChild_mem (h : (children.map Child.pid).Nodup) (hc : c ∈ children) : findChild children c.pid = some c := by
  rw [findChild, List.find?_eq_some_iff_append]
  obtain ⟨before, after, rfl⟩ := List.append_of_mem hc
  refine ⟨by simp, before, after, rfl, fun d hd => ?_⟩
  rw [List.map_append, List.map_cons, List.nodup_append] at h
  simpa using h.2.2 _ (List.mem_map_of_mem hd) c.pid List.mem_cons_self

lemma findChild_owned (hp : (children.map Child.key).Perm owners) (h : (children.map Child.pid).Nodup)
    (ho : (pid, serial) ∈ owners) : ∃ c ∈ children, c.key = (pid, serial) ∧ findChild children pid = some c := by
  obtain ⟨c, hc, hkey⟩ := List.mem_map.mp (hp.mem_iff.mpr ho)
  have hpid : c.pid = pid := congrArg Prod.fst hkey
  exact ⟨c, hc, hkey, hpid ▸ findChild_mem h hc⟩

lemma reap_owned (hp : (children.map Child.key).Perm ((pid, serial) :: owners)) (h : (children.map Child.pid).Nodup) :
    ((reap children pid).map Child.key).Perm owners ∧ ((reap children pid).map Child.pid).Nodup := by
  obtain ⟨c, hc, hkey, _⟩ := findChild_owned hp h List.mem_cons_self
  have hpid : c.pid = pid := congrArg Prod.fst hkey
  have hsplit : children.Perm (c :: children.erase c) := List.perm_cons_erase hc
  have hnodup : (c.pid :: (children.erase c).map Child.pid).Nodup := (hsplit.map Child.pid).nodup_iff.mp h
  have hrest : reap (c :: children.erase c) pid = children.erase c := by
    rw [reap, List.filter_cons_of_neg (by simp [hpid]), List.filter_eq_self]
    intro d hd
    have hne := (List.nodup_cons.mp hnodup).1
    simp only [bne_iff_ne, ne_eq]
    rintro heq
    exact hne (hpid.trans heq.symm ▸ List.mem_map_of_mem hd)
  have hreap : (reap children pid).Perm (children.erase c) := hrest ▸ hsplit.filter _
  refine ⟨?_, (hreap.map Child.pid).nodup_iff.mpr (List.nodup_cons.mp hnodup).2⟩
  have hkeys : (c.key :: (children.erase c).map Child.key).Perm ((pid, serial) :: owners) :=
    (hsplit.map Child.key).symm.trans hp
  rw [hkey] at hkeys
  exact (hreap.map Child.key).trans hkeys.cons_inv

end Table

section Steps

variable {settings : RecordingSettings} {r : VideoRecorder} {s s' : Processes}

lemma reapIfExited_pid (r : VideoRecorder) (wait : ℤ → Waited) (media : Media) :
    (r.reapIfExited wait media).pid =
      if 0 < r.pid ∧ (wait r.pid = .exited ∨ wait r.pid = .noChild) then -1 else r.pid := by
  rw [VideoRecorder.reapIfExited]
  by_cases hpid : r.pid ≤ 0
  · rw [if_pos hpid, if_neg (fun h => absurd h.1 (not_lt.mpr hpid))]
  · rw [if_neg hpid]
    by_cases hw : wait r.pid = .exited ∨ wait r.pid = .noChild
    · simp only [if_pos hw, clearSync_pid, if_pos (And.intro (not_le.mp hpid) hw)]
    · rw [if_neg hw, if_neg (fun h => hw h.2)]

lemma start_pid (r : VideoRecorder) (wait : ℤ → Waited) (env : StartEnv) (henabled : settings.enabled = true) :
    (r.start settings wait env).1 ≠ .started ∧
        (r.start settings wait env).2 = r.reapIfExited wait env.mediaAtReap ∨
      (r.start settings wait env).1 = .started ∧ (r.reapIfExited wait env.mediaAtReap).pid ≤ 0 ∧
        0 < env.child ∧ (r.start settings wait env).2.pid = env.child := by
  simp only [VideoRecorder.start, henabled]
  generalize r.reapIfExited wait env.mediaAtReap = r'
  by_cases hpid : 0 < r'.pid
  · simp [hpid]
  by_cases hmedia : checkMediaWritable env.media = true
  · by_cases hspawn : env.rc ≠ 0 ∨ env.child ≤ 0
    · simp [hpid, hmedia, hspawn]
    · right
      have hchild : 0 < env.child := not_le.mp fun h => hspawn (Or.inr h)
      by_cases hsync : 0 < settings.fsyncIntervalSec
      · simp [hpid, hmedia, hspawn, hsync, hchild, not_lt.mp hpid]
      · simp [hpid, hmedia, hspawn, hsync, hchild, not_lt.mp hpid]
  · simp [hpid, hmedia]

lemma owners_idle (h : ¬ 0 < s.recorder.pid) : s.owners = s.watchers.map Watcher.key := by
  rw [Processes.owners, if_neg h, List.nil_append]

lemma owners_busy (h : 0 < s.recorder.pid) :
    s.owners = (s.recorder.pid, s.current) :: s.watchers.map Watcher.key := by
  rw [Processes.owners, if_pos h, List.singleton_append]

lemma Owned.waitpid {pid : ℤ} {serial : ℕ} (h : Owned s) (ho : (pid, serial) ∈ s.owners) :
    (findChild s.children pid).map Child.serial = some serial ∧
      (waitpid s.children pid = .exited ∨ waitpid s.children pid = .running) := by
  obtain ⟨c, _, hkey, hfind⟩ := findChild_owned h.owners h.pids ho
  constructor
  · rw [hfind, Option.map_some]
    exact congrArg (fun k => some k.2) hkey
  · simp only [Recording.waitpid, hfind]
    cases c.zombie
    · exact Or.inr rfl
    · exact Or.inl rfl

lemma Owned.waited {media : Media} (h : Owned s)
    (hr : r.pid = (s.recorder.reapIfExited (Recording.waitpid s.children) media).pid) :
    Owned { s with recorder := r, children := s.waited } := by
  rw [reapIfExited_pid] at hr
  by_cases hpid : 0 < s.recorder.pid
  · have howners := h.owners
    rw [owners_busy hpid] at howners
    rcases (h.waitpid (owners_busy hpid ▸ List.mem_cons_self)).2 with hexited | hrunning
    · rw [if_pos ⟨hpid, Or.inl hexited⟩] at hr
      obtain ⟨hkeys, hpids⟩ := reap_owned howners h.pids
      rw [Processes.waited, if_pos ⟨hpid, hexited⟩]
      exact ⟨by rw [owners_idle (by simp [hr])]; exact hkeys, hpids, h.hits⟩
    · rw [if_neg (by simp [hrunning])] at hr
      rw [Processes.waited, if_neg (by simp [hrunning])]
      exact ⟨by rw [owners_busy (hr ▸ hpid)]; exact hr ▸ howners, h.pids, h.hits⟩
  · have howners := h.owners
    rw [owners_idle hpid] at howners
    rw [if_neg (fun hw => hpid hw.1)] at hr
    rw [Processes.waited, if_neg (fun hw => hpid hw.1)]
    exact ⟨by rw [owners_idle (hr ▸ hpid)]; exact howners, h.pids, h.hits⟩

lemma Owned.kill {pid : ℤ} {serial : ℕ} (h : Owned s) (signal : Signal) (ho : (pid, serial) ∈ s.owners) :
    Owned (s.kill signal pid serial) := by
  refine ⟨h.owners, h.pids, fun k hk => ?_⟩
  rcases List.mem_append.mp hk with hk | hk
  · exact h.hits k hk
  · obtain rfl := List.mem_singleton.mp hk
    exact (h.waitpid ho).1

lemma Owned.exit {pid : ℤ} (h : Owned s) (hs : s.exit pid = some s') : Owned s' := by
  rw [Processes.exit] at hs
  split at hs
  · cases hs
  · split_ifs at hs
    obtain rfl := Option.some.inj hs
    have hkey : Child.key ∘ (fun c => if c.pid = pid then { c with zombie := true } else c) = Child.key := by
      funext c
      rw [Function.comp_apply]
      split <;> rfl
    have hpid : Child.pid ∘ (fun c => if c.pid = pid then { c with zombie := true } else c) = Child.pid := by
      funext c
      rw [Function.comp_apply]
      split <;> rfl
    refine ⟨?_, ?_, h.hits⟩
    · rw [List.map_map, hkey]
      exact h.owners
    · rw [List.map_map, hpid]
      exact h.pids

lemma Owned.start {env : StartEnv} (h : Owned s) (hs : s.start settings env = some s') : Owned s' := by
  cases henabled : settings.enabled with
  | false =>
    simp only [Processes.start, VideoRecorder.start, henabled] at hs
    obtain rfl := Option.some.inj hs
    exact h
  | true =>
    simp only [Processes.start, henabled, if_true] at hs
    rcases start_pid s.recorder (Recording.waitpid s.children) env henabled with
      ⟨hresult, hr⟩ | ⟨hresult, hidle, hchild, hr⟩
    · rw [if_pos hresult] at hs
      obtain rfl := Option.some.inj hs
      exact h.waited (congrArg VideoRecorder.pid hr)
    · rw [if_neg (not_not.mpr hresult)] at hs
      split_ifs at hs with htaken
      obtain rfl := Option.some.inj hs
      have hw := h.waited (r := s.recorder.reapIfExited (Recording.waitpid s.children) env.mediaAtReap) rfl
      have howners := hw.owners
      rw [owners_idle (not_lt.mpr hidle)] at howners
      refine ⟨?_, ?_, hw.hits⟩
      · rw [owners_busy (hr.symm ▸ hchild), hr]
        exact howners.cons _
      · refine List.nodup_cons.mpr ⟨fun hmem => htaken ?_, hw.pids⟩
        obtain ⟨c, hc, heq⟩ := List.mem_map.mp hmem
        have hfind := findChild_mem hw.pids hc
        rw [heq] at hfind
        exact Option.isSome_of_eq_some hfind

lemma Owned.stop {media : Media} (h : Owned s) : Owned (s.stop media) := by
  have hw := h.waited (r := s.recorder.reapIfExited (Recording.waitpid s.children) media) rfl
  simp only [Processes.stop, VideoRecorder.stop]
  by_cases hpid : (s.recorder.reapIfExited (Recording.waitpid s.children) media).pid ≤ 0
  · simp only [hpid, if_true]
    exact hw
  · have hbusy := not_le.mp hpid
    have hsame : (s.recorder.reapIfExited (Recording.waitpid s.children) media).pid = s.recorder.pid := by
      rw [reapIfExited_pid] at hbusy ⊢
      split_ifs at hbusy ⊢
      · omega
      · rfl
    have howners := hw.owners
    rw [owners_busy hbusy, hsame] at howners
    have hkill := hw.kill .int (show (s.recorder.pid, s.current) ∈ _ by
      rw [owners_busy hbusy, hsame]
      exact List.mem_cons_self)
    simp only [hpid, if_false, if_true]
    refine ⟨?_, hw.pids, hkill.hits⟩
    -- the recorder hands its process over to the new watcher
    rw [owners_idle (by simp [Processes.kill])]
    simp only [List.map_append, List.map_cons, List.map_nil]
    exact howners.trans (List.perm_append_singleton _ _).symm

lemma owners_watcher {i : ℕ} {w : Watcher} (hw : s.watchers[i]? = some w) :
    s.owners.Perm (w.key :: { s with watchers := s.watchers.eraseIdx i }.owners) := by
  obtain ⟨hi, rfl⟩ := List.getElem?_eq_some_iff.mp hw
  have hsplit := (List.getElem_cons_eraseIdx_perm hi).symm.map Watcher.key
  rw [Processes.owners, Processes.owners]
  exact (hsplit.append_left _).trans List.perm_middle

lemma Owned.set {i : ℕ} {w w' : Watcher} (h : Owned s) (hw : s.watchers[i]? = some w) (hkey : w'.key = w.key) :
    Owned { s with watchers := s.watchers.set i w' } := by
  obtain ⟨hi, rfl⟩ := List.getElem?_eq_some_iff.mp hw
  have hset : (s.watchers.set i w').map Watcher.key = s.watchers.map Watcher.key := by
    have hself := List.set_getElem_self (show i < (s.watchers.map Watcher.key).length by simpa using hi)
    rwa [List.getElem_map, ← hkey, ← List.map_set] at hself
  refine ⟨?_, h.pids, h.hits⟩
  rw [Processes.owners, hset]
  exact h.owners

lemma Owned.watch {i : ℕ} (h : Owned s) (hs : s.watch i = some s') : Owned s' := by
  rw [Processes.watch] at hs
  split at hs
  · cases hs
  rename_i w hw
  have hsplit := h.owners.trans (owners_watcher hw)
  have hmem : (w.child, w.serial) ∈ s.owners := (owners_watcher hw).mem_iff.mpr List.mem_cons_self
  have hreaped : Owned { s with children := reap s.children w.child, watchers := s.watchers.eraseIdx i } :=
    ⟨(reap_owned hsplit h.pids).1, (reap_owned hsplit h.pids).2, h.hits⟩
  split_ifs at hs with hpolls hexited hkilled
  · exact Option.some.inj hs ▸ hreaped
  · exact Option.some.inj hs ▸ h.set hw rfl
  · exact Option.some.inj hs ▸ (h.kill .kill hmem).set hw rfl
  · rcases (h.waitpid hmem).2 with hwait | hwait
    · rw [hwait] at hs
      exact Option.some.inj hs ▸ hreaped
    · rw [hwait] at hs
      cases hs

lemma Owned.step {e : ProcessEvent} (h : Owned s) (hs : s.step settings e = some s') : Owned s' := by
  cases e with
  | exit pid => exact h.exit hs
  | start env => exact h.start hs
  | stop media => exact Option.some.inj hs ▸ h.stop
  | snapshot env => exact Option.some.inj hs ▸ h.waited rfl
  | watch i => exact h.watch hs

lemma owned_empty : Owned {} := ⟨List.Perm.refl [], List.nodup_nil, fun _ hk => absurd hk List.not_mem_nil⟩

lemma Owned.run {ts : List (Transition Processes ProcessEvent)} (h : Run (Processes.step settings) {} ts s) :
    Owned s :=
  Run.invariant (fun _ => True) Owned owned_empty (fun _ _ _ hi hs _ => hi.step hs) h (fun _ _ => trivial)

end Steps

theorem signals_reach_their_process (settings : RecordingSettings) (ts : List (Transition Processes ProcessEvent))
    (s : Processes) (h : Run (Processes.step settings) {} ts s) :
    (∀ k ∈ s.kills, k.hit = some k.meant) ∧
      (∀ c ∈ s.children, s.owners.count c.key = 1) ∧
      (∀ o ∈ s.owners, ∃ c ∈ s.children, c.key = o) ∧
      (s.recorder.pid ≤ 0 → s.watchers = [] → s.children = []) := by
  have ho := Owned.run h
  have hkeys : (s.children.map Child.key).Nodup := List.Nodup.of_map Prod.fst (by rw [List.map_map]; exact ho.pids)
  refine ⟨ho.hits, fun c hc => ?_, fun o hmem => ?_, fun hidle hdone => ?_⟩
  · rw [← ho.owners.count_eq]
    exact List.count_eq_one_of_mem hkeys (List.mem_map_of_mem hc)
  · exact List.mem_map.mp (ho.owners.mem_iff.mpr hmem)
  · have howners := ho.owners
    rw [owners_idle (not_lt.mpr hidle), hdone] at howners
    exact List.map_eq_nil_iff.mp howners.eq_nil

def reuse : List ProcessEvent :=
  let media : Media := ⟨true, true, true, true⟩
  [.start ⟨media, media, 0, 7, 0⟩, .stop media, .exit 7, .watch 0, .start ⟨media, media, 0, 7, 9⟩, .stop media] ++
    List.replicate 21 (.watch 0)

theorem signals_reach_their_process_reuse :
    ∃ x, Run.exec (Processes.step { enabled := true }) {} reuse = some x ∧
      x.2.kills.map Kill.meant = [0, 1, 1] ∧ x.2.kills.map Kill.hit = [some 0, some 1, some 1] := by
  refine exists_of_any (fun x => x.2.kills.map Kill.meant = [0, 1, 1]) (by decide +kernel)
    fun x hx hmeant => ⟨hmeant, ?_⟩
  have hhits := (signals_reach_their_process { enabled := true } x.1 x.2 (Run.of_exec hx)).1
  calc x.2.kills.map Kill.hit = x.2.kills.map (some ∘ Kill.meant) := List.map_congr_left hhits
    _ = [some 0, some 1, some 1] := by rw [← List.map_map, hmeant]; rfl

end MavlinkLogService.Recording
