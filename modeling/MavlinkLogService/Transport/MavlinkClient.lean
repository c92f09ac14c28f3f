import MavlinkLogService.Library.Runs
import MavlinkLogService.Transport.UdpTransport

/-! The client's two threads, one atomic action at a time: the main thread, which connects and disconnects, and the
thread that reads the transport. -/

namespace MavlinkLogService.Transport

open Library

inductive Disconnecting
  | stopping
  | dropping
  | closing
  | joining
  deriving DecidableEq, Repr

inductive Main
  | idle
  | disconnecting (next : Disconnecting) (connecting : Bool)
  | opening
  | marking
  | starting
  | spawning
  deriving DecidableEq, Repr

/-- Where `rxLoop` is. A call of `recvfrom` goes on with the socket it was made on; `disconnecting` is a call of
`disconnect` by the message handler. -/
inductive RxLoop
  | test
  | reading
  | receiving (socket : ℕ)
  | failed
  | closing
  | parsing
  | stamping
  | handling
  | checking
  | disconnecting (next : Disconnecting)
  | finished
  deriving DecidableEq, Repr

structure RxThread where
  connection : ℕ
  loop : RxLoop := .test
  deriving DecidableEq, Repr

/-- `rxThread` is `none` while `rx_thread_` is not joinable, and `terminated` says that `std::terminate` has been
called. Connections are counted, also as the names of their sockets; `source` is the socket of the datagram in the
receive buffer, and `bytes` are the bytes the parser was given, each with the connection of the thread that read it and
the socket it came from. -/
structure MavlinkClient where
  connected : Bool := false
  running : Bool := false
  transport : UdpTransport := {}
  lastHeartbeat : ℤ := 0
  rxThread : Option RxThread := none
  main : Main := .idle
  terminated : Bool := false
  connections : ℕ := 0
  source : ℕ := 0
  bytes : List (ℕ × ℕ) := []

inductive ClientEvent
  | connect
  | disconnect
  | main (env : ConnectEnv)
  | rx
  | receive (reception : Reception)
  | parse (complete : Bool)
  | stamp (now : ℤ)
  | handle
  | check (now : ℤ) (lost : Bool)

namespace MavlinkClient

def isConnected (c : MavlinkClient) : Bool := c.connected && c.transport.connected

/-- Time points are in nanoseconds. -/
def heartbeatFresh (heartbeatTimeoutSec : ℤ) (c : MavlinkClient) (now : ℤ) : Bool :=
  decide (now - c.lastHeartbeat ≤ heartbeatTimeoutSec * 1000000000)

def disconnectAction (c : MavlinkClient) : Disconnecting → MavlinkClient
  | .stopping => { c with running := false }
  | .dropping => { c with connected := false }
  | .closing => { c with transport := c.transport.disconnect }
  | .joining => c

def Disconnecting.next : Disconnecting → Disconnecting
  | .stopping => .dropping
  | .dropping => .closing
  | .closing => .joining
  | .joining => .joining

def joinAction (c : MavlinkClient) : Option MavlinkClient :=
  match c.rxThread with
  | none => some c
  | some rx => if rx.loop = .finished then some { c with rxThread := none } else none

def mainAction (c : MavlinkClient) (env : ConnectEnv) : Option MavlinkClient :=
  match c.main with
  | .idle => none
  | .disconnecting .joining connecting =>
    c.joinAction.map fun c => { c with main := if connecting then .opening else .idle }
  | .disconnecting next connecting =>
    some { c.disconnectAction next with main := .disconnecting (Disconnecting.next next) connecting }
  | .opening =>
    match c.transport.connect env with
    | (true, t) => some { c with transport := t, connections := c.connections + 1, main := .marking }
    | (false, t) => some { c with transport := t, main := .idle }
  | .marking => some { c with connected := true, main := .starting }
  | .starting => some { c with running := true, main := .spawning }
  | .spawning =>
    -- a thread object that is joinable must not be assigned to
    if c.rxThread.isSome then some { c with terminated := true }
    else some { c with rxThread := some { connection := c.connections }, main := .idle }

def goTo (c : MavlinkClient) (rx : RxThread) (loop : RxLoop) : MavlinkClient :=
  { c with rxThread := some { rx with loop := loop } }

def takeByte (c : MavlinkClient) (rx : RxThread) : MavlinkClient :=
  { c.goTo rx .parsing with
    transport := c.transport.nextByte.2
    bytes := c.bytes ++ [(rx.connection, c.source)] }

def rxAction (c : MavlinkClient) (rx : RxThread) : Option MavlinkClient :=
  match rx.loop with
  | .test => some (c.goTo rx (if c.running then .reading else .finished))
  | .reading =>
    if !c.transport.connected || !c.transport.socketOpen then some (c.goTo rx .failed)
    else if c.transport.rxBufferLen ≤ c.transport.rxBufferPos then some (c.goTo rx (.receiving c.connections))
    else some (c.takeByte rx)
  | .failed => some (c.goTo rx (if c.running then .closing else .finished))
  | .closing => some { c.goTo rx .finished with connected := false }
  -- a thread that joins itself: `std::system_error`, which nothing catches
  | .disconnecting .joining => some { c with terminated := true }
  | .disconnecting next => some ((c.disconnectAction next).goTo rx (.disconnecting (Disconnecting.next next)))
  | _ => none

def receiveAction (c : MavlinkClient) (rx : RxThread) (reception : Reception) : Option MavlinkClient :=
  match rx.loop with
  | .receiving socket =>
    match c.transport.refillRxBuffer [reception] with
    | none => none
    | some (false, t, _) => some { c.goTo rx .failed with transport := t }
    | some (true, t, _) => some (takeByte { c with transport := t, source := socket } rx)
  | _ => none

/-- `lost` says that the service, told that the link is stale, drops the connection. -/
def checkAction (heartbeatTimeoutSec : ℤ) (c : MavlinkClient) (rx : RxThread) (now : ℤ) (lost : Bool) :
    Option MavlinkClient :=
  if rx.loop = .checking then
    if !c.heartbeatFresh heartbeatTimeoutSec now && lost then some (c.goTo rx (.disconnecting .stopping))
    else some (c.goTo rx .test)
  else none

def threadAction (heartbeatTimeoutSec : ℤ) (c : MavlinkClient) (rx : RxThread) : ClientEvent → Option MavlinkClient
  | .rx => c.rxAction rx
  | .receive reception => c.receiveAction rx reception
  | .parse complete => if rx.loop = .parsing then some (c.goTo rx (if complete then .stamping else .test)) else none
  | .stamp now => if rx.loop = .stamping then some { c.goTo rx .handling with lastHeartbeat := now } else none
  | .handle => if rx.loop = .handling then some (c.goTo rx .checking) else none
  | .check now lost => c.checkAction heartbeatTimeoutSec rx now lost
  | _ => none

def step (heartbeatTimeoutSec : ℤ) (c : MavlinkClient) (e : ClientEvent) : Option MavlinkClient :=
  if c.terminated then none
  else
    match e with
    | .connect => if c.main = .idle then some { c with main := .disconnecting .stopping true } else none
    | .disconnect => if c.main = .idle then some { c with main := .disconnecting .stopping false } else none
    | .main env => c.mainAction env
    | e => c.rxThread.bind fun rx => c.threadAction heartbeatTimeoutSec rx e

end MavlinkClient

def Resting (c : MavlinkClient) : Prop :=
  (c.running = false → c.rxThread = none ∧ c.connected = false ∧ c.transport.connected = false) ∧
    (c.running = true → ∃ rx, c.rxThread = some rx ∧ (rx.loop = .finished → c.connected = false))

def UdpTransport.Drained (t : UdpTransport) : Prop := t.rxBufferLen ≤ t.rxBufferPos

def Main.Holds (c : MavlinkClient) : Main → Prop
  | .idle => Resting c
  | .disconnecting .stopping _ => Resting c
  | .disconnecting .dropping _ => c.running = false
  | .disconnecting .closing _ => c.running = false ∧ c.connected = false
  | .disconnecting .joining _ => c.running = false ∧ c.connected = false ∧ c.transport.connected = false
  | .opening => c.running = false ∧ c.connected = false ∧ c.rxThread = none
  | .marking => c.running = false ∧ c.rxThread = none ∧ c.transport.Drained
  | .starting => c.rxThread = none ∧ c.transport.Drained
  | .spawning => c.running = true ∧ c.rxThread = none ∧ c.transport.Drained

structure Reads (c : MavlinkClient) (rx : RxThread) : Prop where
  connection : rx.connection = c.connections
  socket : ∀ socket, rx.loop = .receiving socket → socket = c.connections
  stays : ∀ next, rx.loop ≠ .disconnecting next
  buffer : c.transport.Drained ∨ c.source = c.connections

structure Sound (c : MavlinkClient) : Prop where
  alive : c.terminated = false
  main : c.main.Holds c
  reads : ∀ rx, c.rxThread = some rx → Reads c rx
  bytes : ∀ b ∈ c.bytes, b.2 = b.1

section Steps

open MavlinkClient

variable {heartbeatTimeoutSec : ℤ} {c c' : MavlinkClient} {rx : RxThread}

structure Effect (c c' : MavlinkClient) (rx' : RxThread) : Prop where
  main : c'.main = c.main
  running : c'.running = c.running
  connected : c.connected = false → c'.connected = false
  transport : c.transport.connected = false → c'.transport.connected = false
  thread : c'.rxThread = some rx'
  finished : rx'.loop = .finished → c.running = true → c'.connected = false

lemma Effect.holds {rx' : RxThread} (h : Effect c c' rx') (hrx : c.rxThread = some rx) (hmain : c.main.Holds c) :
    c'.main.Holds c' := by
  have hresting : Resting c → Resting c' := by
    intro hr
    refine ⟨fun hstopped => ?_, fun hrun => ⟨rx', h.thread, fun hf => h.finished hf (h.running ▸ hrun)⟩⟩
    obtain ⟨hnone, _⟩ := hr.1 (h.running ▸ hstopped)
    rw [hrx] at hnone
    cases hnone
  rw [h.main]
  cases hm : c.main with
  | idle => exact hresting (by simpa [hm, Main.Holds] using hmain)
  | disconnecting next connecting =>
    rw [hm] at hmain
    cases next with
    | stopping => exact hresting hmain
    | dropping => exact h.running.trans hmain
    | closing => exact ⟨h.running.trans hmain.1, h.connected hmain.2⟩
    | joining => exact ⟨h.running.trans hmain.1, h.connected hmain.2.1, h.transport hmain.2.2⟩
  | opening =>
    rw [hm] at hmain
    exact absurd (hrx.symm.trans hmain.2.2) (Option.some_ne_none rx)
  | marking =>
    rw [hm] at hmain
    exact absurd (hrx.symm.trans hmain.2.1) (Option.some_ne_none rx)
  | starting =>
    rw [hm] at hmain
    exact absurd (hrx.symm.trans hmain.1) (Option.some_ne_none rx)
  | spawning =>
    rw [hm] at hmain
    exact absurd (hrx.symm.trans hmain.2.1) (Option.some_ne_none rx)

lemma Sound.of_effect (h : Sound c) (hrx : c.rxThread = some rx) (rx' : RxThread) (heffect : Effect c c' rx')
    (halive : c'.terminated = c.terminated) (hreads : Reads c' rx') (hbytes : ∀ b ∈ c'.bytes, b.2 = b.1) :
    Sound c' := by
  refine ⟨halive.trans h.alive, heffect.holds hrx h.main, fun rx'' hrx'' => ?_, hbytes⟩
  obtain rfl : rx' = rx'' := Option.some.inj (heffect.thread.symm.trans hrx'')
  exact hreads

lemma Sound.goTo {loop : RxLoop} (h : Sound c) (hrx : c.rxThread = some rx)
    (hsocket : ∀ socket, loop = .receiving socket → socket = c.connections)
    (hstays : ∀ next, loop ≠ .disconnecting next)
    (hfinished : loop = .finished → c.running = true → c.connected = false) : Sound (c.goTo rx loop) := by
  have hreads := h.reads rx hrx
  exact h.of_effect hrx { rx with loop := loop } ⟨rfl, rfl, id, id, rfl, hfinished⟩ rfl
    ⟨hreads.connection, hsocket, hstays, hreads.buffer⟩ h.bytes

lemma Sound.takeByte (h : Sound c) (hrx : c.rxThread = some rx) (hsource : c.source = c.connections) :
    Sound (c.takeByte rx) := by
  have hreads := h.reads rx hrx
  refine h.of_effect hrx { rx with loop := .parsing } ⟨rfl, rfl, id, id, rfl, by simp⟩ rfl
    ⟨hreads.connection, by simp, by simp, Or.inr hsource⟩ fun b hb => ?_
  rcases List.mem_append.mp hb with hb | hb
  · exact h.bytes b hb
  · rw [List.mem_singleton.mp hb, hreads.connection, hsource]

lemma Sound.rxAction (h : Sound c) (hrx : c.rxThread = some rx) (hs : c.rxAction rx = some c') : Sound c' := by
  have hreads := h.reads rx hrx
  rw [MavlinkClient.rxAction] at hs
  split at hs
  · obtain rfl := Option.some.inj hs
    split_ifs with hrun
    · exact h.goTo hrx (by simp) (by simp) (by simp)
    · exact h.goTo hrx (by simp) (by simp) fun _ hrun' => absurd hrun' hrun
  · split_ifs at hs with hclosed hdrained
    · exact Option.some.inj hs ▸ h.goTo hrx (by simp) (by simp) (by simp)
    · exact Option.some.inj hs ▸ h.goTo hrx (by simp) (by simp) (by simp)
    · exact Option.some.inj hs ▸ h.takeByte hrx (hreads.buffer.resolve_left hdrained)
  · obtain rfl := Option.some.inj hs
    split_ifs with hrun
    · exact h.goTo hrx (by simp) (by simp) (by simp)
    · exact h.goTo hrx (by simp) (by simp) fun _ hrun' => absurd hrun' hrun
  · obtain rfl := Option.some.inj hs
    exact h.of_effect hrx { rx with loop := .finished } ⟨rfl, rfl, fun _ => rfl, id, rfl, fun _ _ => rfl⟩ rfl
      ⟨hreads.connection, by simp, by simp, hreads.buffer⟩ h.bytes
  · rename_i hloop
    exact absurd hloop (hreads.stays _)
  · rename_i hloop
    exact absurd hloop (hreads.stays _)
  · cases hs

lemma refillRxBuffer_connected {t t' : UdpTransport} {reception : Reception} {ok : Bool} {rest : List Reception}
    (h : t.refillRxBuffer [reception] = some (ok, t', rest)) (hdown : t.connected = false) : t'.connected = false := by
  cases reception with
  | failure =>
    obtain ⟨_, rfl, _⟩ : false = ok ∧ _ = t' ∧ [] = rest := by simpa [UdpTransport.refillRxBuffer] using h
    rfl
  | datagram payload =>
    simp only [UdpTransport.refillRxBuffer] at h
    split_ifs at h
    · obtain ⟨_, rfl, _⟩ : false = ok ∧ _ = t' ∧ [] = rest := by simpa using h
      rfl
    · obtain ⟨_, rfl, _⟩ : true = ok ∧ _ = t' ∧ [] = rest := by simpa using h
      exact hdown

lemma refillRxBuffer_failed {t t' : UdpTransport} {reception : Reception} {rest : List Reception}
    (h : t.refillRxBuffer [reception] = some (false, t', rest)) (hdrained : t.Drained) : t'.Drained := by
  cases reception with
  | failure =>
    obtain ⟨rfl, _⟩ : _ = t' ∧ [] = rest := by simpa [UdpTransport.refillRxBuffer] using h
    exact hdrained
  | datagram payload =>
    simp only [UdpTransport.refillRxBuffer] at h
    split_ifs at h
    · obtain ⟨rfl, _⟩ : _ = t' ∧ [] = rest := by simpa using h
      exact hdrained
    · simp at h

lemma Sound.receiveAction {reception : Reception} (h : Sound c) (hrx : c.rxThread = some rx)
    (hs : c.receiveAction rx reception = some c') : Sound c' := by
  have hreads := h.reads rx hrx
  rw [MavlinkClient.receiveAction] at hs
  split at hs
  · rename_i socket hloop
    have hsocket := hreads.socket socket hloop
    split at hs
    · cases hs
    · rename_i t _ hrefill
      obtain rfl := Option.some.inj hs
      refine h.of_effect hrx { rx with loop := .failed }
        ⟨rfl, rfl, id, refillRxBuffer_connected hrefill, rfl, by simp⟩ rfl
        ⟨hreads.connection, by simp, by simp, hreads.buffer.imp_left (refillRxBuffer_failed hrefill)⟩ h.bytes
    · rename_i t _ hrefill
      obtain rfl := Option.some.inj hs
      refine Sound.takeByte (h.of_effect hrx rx
        ⟨rfl, rfl, id, refillRxBuffer_connected hrefill, hrx, ?_⟩ rfl
        ⟨hreads.connection, hreads.socket, hreads.stays, Or.inr hsocket⟩ h.bytes) hrx hsocket
      simp [hloop]
  · cases hs

def inTime (heartbeatTimeoutSec : ℤ) (t : Transition MavlinkClient ClientEvent) : Bool :=
  match t.event with
  | .check now _ => t.pre.heartbeatFresh heartbeatTimeoutSec now
  | _ => true

lemma Sound.threadAction {e : ClientEvent} (h : Sound c) (hrx : c.rxThread = some rx)
    (hs : c.threadAction heartbeatTimeoutSec rx e = some c') (htime : inTime heartbeatTimeoutSec ⟨c, e, c'⟩ = true) :
    Sound c' := by
  have hreads := h.reads rx hrx
  cases e with
  | connect => cases hs
  | disconnect => cases hs
  | main env => cases hs
  | rx => exact h.rxAction hrx hs
  | receive reception => exact h.receiveAction hrx hs
  | parse complete =>
    simp only [MavlinkClient.threadAction] at hs
    split_ifs at hs
    · exact Option.some.inj hs ▸ h.goTo hrx (by simp) (by simp) (by simp)
    · exact Option.some.inj hs ▸ h.goTo hrx (by simp) (by simp) (by simp)
  | stamp now =>
    simp only [MavlinkClient.threadAction] at hs
    split_ifs at hs
    obtain rfl := Option.some.inj hs
    exact h.of_effect hrx { rx with loop := .handling } ⟨rfl, rfl, id, id, rfl, by simp⟩ rfl
      ⟨hreads.connection, by simp, by simp, hreads.buffer⟩ h.bytes
  | handle =>
    simp only [MavlinkClient.threadAction] at hs
    split_ifs at hs
    exact Option.some.inj hs ▸ h.goTo hrx (by simp) (by simp) (by simp)
  | check now lost =>
    have hfresh : c.heartbeatFresh heartbeatTimeoutSec now = true := htime
    simp only [MavlinkClient.threadAction, checkAction, hfresh, Bool.not_true, Bool.false_and,
      Bool.false_eq_true, if_false] at hs
    split_ifs at hs
    exact Option.some.inj hs ▸ h.goTo hrx (by simp) (by simp) (by simp)

lemma Sound.of_main (h : Sound c) (halive : c'.terminated = c.terminated) (hmain : c'.main.Holds c')
    (hthread : c'.rxThread = c.rxThread) (hconnections : c'.connections = c.connections)
    (hsource : c'.source = c.source) (hdrained : c.transport.Drained → c'.transport.Drained)
    (hbytes : c'.bytes = c.bytes) : Sound c' := by
  refine ⟨halive.trans h.alive, hmain, fun rx hrx => ?_, hbytes ▸ h.bytes⟩
  have hreads := h.reads rx (hthread ▸ hrx)
  exact ⟨hreads.connection.trans hconnections.symm, fun socket hs => (hreads.socket socket hs).trans hconnections.symm,
    hreads.stays, by rw [hsource, hconnections]; exact hreads.buffer.imp_left hdrained⟩

lemma connect_failed {t t' : UdpTransport} {env : ConnectEnv} (h : t.connect env = (false, t')) :
    t'.connected = false := by
  simp only [UdpTransport.connect] at h
  split_ifs at h
  · exact (Prod.mk.inj h).2 ▸ rfl
  · exact (Prod.mk.inj h).2 ▸ rfl
  · exact (Prod.mk.inj h).2 ▸ rfl
  · exact (Prod.mk.inj h).2 ▸ rfl
  · simp at h

lemma joinAction_eq (hs : c.joinAction = some c') : c' = { c with rxThread := none } := by
  rw [joinAction] at hs
  split at hs
  · rename_i hnone
    rw [← Option.some.inj hs, ← hnone]
  · split_ifs at hs
    exact (Option.some.inj hs).symm

lemma Sound.mainAction {env : ConnectEnv} (h : Sound c) (hs : c.mainAction env = some c') : Sound c' := by
  have hmain := h.main
  cases hm : c.main with
  | idle =>
    rw [MavlinkClient.mainAction, hm] at hs
    cases hs
  | disconnecting next connecting =>
    rw [hm] at hmain
    cases next with
    | stopping =>
      simp only [MavlinkClient.mainAction, hm, disconnectAction, Disconnecting.next] at hs
      obtain rfl := Option.some.inj hs
      exact h.of_main rfl rfl rfl rfl rfl id rfl
    | dropping =>
      simp only [MavlinkClient.mainAction, hm, disconnectAction, Disconnecting.next] at hs
      obtain rfl := Option.some.inj hs
      exact h.of_main rfl ⟨hmain, rfl⟩ rfl rfl rfl id rfl
    | closing =>
      simp only [MavlinkClient.mainAction, hm, disconnectAction, Disconnecting.next] at hs
      obtain rfl := Option.some.inj hs
      exact h.of_main rfl ⟨hmain.1, hmain.2, rfl⟩ rfl rfl rfl (fun _ => le_rfl) rfl
    | joining =>
      simp only [MavlinkClient.mainAction, hm] at hs
      obtain ⟨c₁, hjoin, rfl⟩ := Option.map_eq_some_iff.mp hs
      obtain rfl := joinAction_eq hjoin
      obtain ⟨hstopped, hdropped, hclosed⟩ := hmain
      refine ⟨h.alive, ?_, fun rx hrx => absurd hrx.symm (Option.some_ne_none rx), h.bytes⟩
      cases connecting with
      | true => exact ⟨hstopped, hdropped, rfl⟩
      | false =>
        exact ⟨fun _ => ⟨rfl, hdropped, hclosed⟩, fun hrun => absurd hrun (by simp [hstopped])⟩
  | opening =>
    rw [hm] at hmain
    obtain ⟨hstopped, hdropped, hnone⟩ := hmain
    have hthread : ∀ rx, c.rxThread ≠ some rx := by simp [hnone]
    simp only [MavlinkClient.mainAction, hm] at hs
    split at hs
    · rename_i t hconnect
      obtain rfl := Option.some.inj hs
      have hdrained := UdpTransport.pending_eq_nil.mp (UdpTransport.connect_open hconnect).2
      exact ⟨h.alive, ⟨hstopped, hnone, hdrained⟩, fun rx hrx => absurd hrx (hthread rx), h.bytes⟩
    · rename_i t hconnect
      obtain rfl := Option.some.inj hs
      refine ⟨h.alive, ⟨fun _ => ⟨hnone, hdropped, connect_failed hconnect⟩, ?_⟩, fun rx hrx => absurd hrx (hthread rx),
        h.bytes⟩
      exact fun hrun => absurd hrun (by simp [hstopped])
  | marking =>
    rw [hm] at hmain
    simp only [MavlinkClient.mainAction, hm] at hs
    obtain rfl := Option.some.inj hs
    exact h.of_main rfl ⟨hmain.2.1, hmain.2.2⟩ rfl rfl rfl id rfl
  | starting =>
    rw [hm] at hmain
    simp only [MavlinkClient.mainAction, hm] at hs
    obtain rfl := Option.some.inj hs
    exact h.of_main rfl ⟨rfl, hmain.1, hmain.2⟩ rfl rfl rfl id rfl
  | spawning =>
    rw [hm] at hmain
    obtain ⟨hrun, hnone, hdrained⟩ := hmain
    simp only [MavlinkClient.mainAction, hm, hnone] at hs
    obtain rfl := Option.some.inj hs
    refine ⟨h.alive, ⟨fun hstopped => absurd (hrun.symm.trans hstopped) (by decide), fun _ => ⟨_, rfl, by simp⟩⟩,
      fun rx hrx => ?_, h.bytes⟩
    obtain rfl := Option.some.inj hrx
    exact ⟨rfl, by simp, by simp, Or.inl hdrained⟩

lemma Sound.step {e : ClientEvent} (h : Sound c) (hs : c.step heartbeatTimeoutSec e = some c')
    (htime : inTime heartbeatTimeoutSec ⟨c, e, c'⟩ = true) : Sound c' := by
  have hcall : ∀ connecting, c.main = .idle → Sound { c with main := .disconnecting .stopping connecting } := by
    intro connecting hidle
    have hmain := h.main
    rw [hidle] at hmain
    exact h.of_main rfl hmain rfl rfl rfl id rfl
  unfold MavlinkClient.step at hs
  rw [if_neg (by simp [h.alive])] at hs
  split at hs
  · split_ifs at hs with hidle
    exact Option.some.inj hs ▸ hcall true hidle
  · split_ifs at hs with hidle
    exact Option.some.inj hs ▸ hcall false hidle
  · exact h.mainAction hs
  · obtain ⟨rx, hrx, hs⟩ := Option.bind_eq_some_iff.mp hs
    exact h.threadAction hrx hs htime

lemma Sound.run {ts : List (Transition MavlinkClient ClientEvent)}
    (h : Run (MavlinkClient.step heartbeatTimeoutSec) {} ts c)
    (htime : ∀ t ∈ ts, inTime heartbeatTimeoutSec t = true) : Sound c := by
  refine Run.invariant (inTime heartbeatTimeoutSec · = true) Sound ?_ (fun _ _ _ hi hs ht => hi.step hs ht) h htime
  refine ⟨rfl, ⟨fun _ => ⟨rfl, rfl, rfl⟩, fun hrun => ?_⟩, fun rx hrx => ?_, fun b hb => absurd hb List.not_mem_nil⟩
  · cases hrun
  · cases hrx

end Steps

theorem client_threads_sound (heartbeatTimeoutSec : ℤ) (ts : List (Transition MavlinkClient ClientEvent))
    (c : MavlinkClient) (h : Run (MavlinkClient.step heartbeatTimeoutSec) {} ts c)
    (htime : ∀ t ∈ ts, inTime heartbeatTimeoutSec t = true) :
    c.terminated = false ∧
      (c.main = .idle → c.isConnected = true →
        ∃ rx, c.rxThread = some rx ∧ rx.loop ≠ .finished ∧ rx.connection = c.connections) ∧
      (c.main = .idle → c.running = false → c.rxThread = none ∧ c.isConnected = false) ∧
      (∀ t ∈ ts, t.event = .handle → ∃ rx, t.pre.rxThread = some rx ∧ rx.connection = t.pre.connections ∧
        (t.pre.main = .idle ∨ ∃ next connecting, t.pre.main = .disconnecting next connecting)) ∧
      ∀ b ∈ c.bytes, b.2 = b.1 := by
  have hc := Sound.run h htime
  refine ⟨hc.alive, fun hidle hup => ?_, fun hidle hstopped => ?_, fun t ht hevent => ?_, hc.bytes⟩
  · have hresting : Resting c := by simpa [hidle, Main.Holds] using hc.main
    rw [MavlinkClient.isConnected, Bool.and_eq_true] at hup
    have hrun : c.running = true := by
      by_contra hstopped
      have hdropped := (hresting.1 (by simpa using hstopped)).2.1
      rw [hup.1] at hdropped
      cases hdropped
    obtain ⟨rx, hrx, hfinished⟩ := hresting.2 hrun
    refine ⟨rx, hrx, fun hf => ?_, (hc.reads rx hrx).connection⟩
    rw [hup.1] at hfinished
    cases hfinished hf
  · have hresting : Resting c := by simpa [hidle, Main.Holds] using hc.main
    obtain ⟨hnone, hdropped, _⟩ := hresting.1 hstopped
    exact ⟨hnone, by rw [MavlinkClient.isConnected, hdropped, Bool.false_and]⟩
  · obtain ⟨before, after, hts⟩ := List.append_of_mem ht
    obtain ⟨hbefore, hstep⟩ := h.split hts
    have hpre := Sound.run hbefore fun u hu => htime u (hts ▸ List.mem_append_left _ hu)
    rw [hevent] at hstep
    unfold MavlinkClient.step at hstep
    rw [if_neg (by simp [hpre.alive])] at hstep
    obtain ⟨rx, hrx, _⟩ := Option.bind_eq_some_iff.mp hstep
    refine ⟨rx, hrx, (hpre.reads rx hrx).connection, ?_⟩
    have hmain := hpre.main
    cases hm : t.pre.main with
    | idle => exact Or.inl rfl
    | disconnecting next connecting => exact Or.inr ⟨next, connecting, rfl⟩
    | opening => exact absurd hrx (by simp [(hm ▸ hmain : Main.Holds _ .opening).2.2])
    | marking => exact absurd hrx (by simp [(hm ▸ hmain : Main.Holds _ .marking).2.1])
    | starting => exact absurd hrx (by simp [(hm ▸ hmain : Main.Holds _ .starting).1])
    | spawning => exact absurd hrx (by simp [(hm ▸ hmain : Main.Holds _ .spawning).2.1])

def bound : ConnectEnv := ⟨true, true, true, true, true⟩

def reconnection : List ClientEvent :=
  let connecting := .connect :: List.replicate 8 (.main bound)
  connecting ++ [.rx, .rx, .receive (.datagram [1, 2]), .parse true, .stamp 5, .handle, .check 6 true] ++
    [.disconnect, .main bound, .main bound, .rx, .main bound, .main bound] ++
    connecting ++ [.rx, .rx, .receive (.datagram [3])]

theorem client_threads_sound_reconnection :
    ∃ x, Run.exec (MavlinkClient.step 5) {} reconnection = some x ∧ x.2.bytes.map Prod.fst = [1, 2] ∧
      x.2.terminated = false ∧ ∀ b ∈ x.2.bytes, b.2 = b.1 := by
  refine exists_of_any (fun x => x.2.bytes.map Prod.fst = [1, 2] ∧ ∀ t ∈ x.1, inTime 5 t = true) (by decide +kernel) ?_
  rintro x hx ⟨hbytes, htime⟩
  obtain ⟨halive, _, _, _, hsources⟩ := client_threads_sound 5 x.1 x.2 (Run.of_exec hx) htime
  exact ⟨hbytes, halive, hsources⟩

-- a handler that finds its own message stale has its thread join itself
example : ∃ x, Run.exec (MavlinkClient.step 0) {} (.connect :: List.replicate 8 (.main bound) ++
    [.rx, .rx, .receive (.datagram [1]), .parse true, .stamp 5, .handle, .check 6 true, .rx, .rx, .rx, .rx]) = some x ∧
      x.2.terminated = true :=
  exists_of_any (fun x => x.2.terminated = true) (by decide +kernel) fun _ _ hdead => hdead

end MavlinkLogService.Transport
