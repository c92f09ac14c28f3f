import Mathlib.Tactic

/-! The UDP transport: a receive buffer that turns datagrams into a stream of bytes. -/

namespace MavlinkLogService.Transport

def kMaxDatagramSize : ℕ := 2048

inductive Reception
  | datagram (payload : List UInt8)
  | failure
  deriving DecidableEq, Repr

structure UdpTransport where
  connected : Bool := false
  socketOpen : Bool := false
  rxBuffer : List UInt8 := List.replicate kMaxDatagramSize 0
  rxBufferLen : ℕ := 0
  rxBufferPos : ℕ := 0
  sized : rxBuffer.length = kMaxDatagramSize := by simp
  room : rxBufferLen ≤ kMaxDatagramSize := by simp

structure ConnectEnv where
  remoteResolved : Bool
  socketCreated : Bool
  bindRequested : Bool
  bindResolved : Bool
  bound : Bool

inductive Answer
  | byte (b : UInt8)
  | closed
  | waiting
  deriving DecidableEq, Repr

def Answer.delivered : Answer → Option UInt8
  | .byte b => some b
  | _ => none

namespace UdpTransport

def disconnect (t : UdpTransport) : UdpTransport :=
  { t with connected := false, socketOpen := false, rxBufferLen := 0, rxBufferPos := 0, room := Nat.zero_le _ }

def connect (t : UdpTransport) (env : ConnectEnv) : Bool × UdpTransport :=
  let t := t.disconnect
  if !env.remoteResolved then (false, t)
  else if !env.socketCreated then (false, t)
  else if env.bindRequested && !env.bindResolved then (false, t)
  else if env.bindRequested && !env.bound then (false, t)
  else
    (true, { t with rxBufferLen := 0, rxBufferPos := 0, room := Nat.zero_le _, socketOpen := true, connected := true })

/-- The bytes of the datagram, cut to the size of the buffer, replace the first ones of the buffer. -/
def recvfrom (t : UdpTransport) (payload : List UInt8) : UdpTransport :=
  let received := payload.take kMaxDatagramSize
  { t with
    rxBuffer := received ++ t.rxBuffer.drop received.length
    sized := by
      have hle : received.length ≤ kMaxDatagramSize := List.length_take_le _ _
      rw [List.length_append, List.length_drop, t.sized]
      omega }

/-- The last component is what the socket still holds; without a datagram the call does not return. -/
def refillRxBuffer (t : UdpTransport) : List Reception → Option (Bool × UdpTransport × List Reception)
  | [] => none
  | .failure :: rest => some (false, { t with connected := false }, rest)
  | .datagram payload :: rest =>
    let n := (payload.take kMaxDatagramSize).length
    let t := t.recvfrom payload
    if n = 0 then some (false, { t with connected := false }, rest)
    else some (true, { t with rxBufferLen := n, rxBufferPos := 0, room := List.length_take_le _ _ }, rest)

def nextByte (t : UdpTransport) : Answer × UdpTransport :=
  (.byte (t.rxBuffer.getD t.rxBufferPos 0), { t with rxBufferPos := t.rxBufferPos + 1 })

def readByte (t : UdpTransport) (incoming : List Reception) : Answer × UdpTransport × List Reception :=
  if !t.connected || !t.socketOpen then (.closed, t, incoming)
  else if t.rxBufferLen ≤ t.rxBufferPos then
    match t.refillRxBuffer incoming with
    | none => (.waiting, t, incoming)
    | some (false, t, rest) => (.closed, t, rest)
    | some (true, t, rest) => (t.nextByte.1, t.nextByte.2, rest)
  else (t.nextByte.1, t.nextByte.2, incoming)

def readBytes : ℕ → UdpTransport → List Reception → List Answer
  | 0, _, _ => []
  | n + 1, t, incoming =>
    let read := t.readByte incoming
    read.1 :: readBytes n read.2.1 read.2.2

structure Open (t : UdpTransport) : Prop where
  connected : t.connected = true
  socketOpen : t.socketOpen = true

def pending (t : UdpTransport) : List UInt8 := (t.rxBuffer.take t.rxBufferLen).drop t.rxBufferPos

end UdpTransport

def deliverable : List Reception → List UInt8
  | .datagram (b :: bs) :: rest => b :: bs ++ deliverable rest
  | _ => []

def Fits (incoming : List Reception) : Prop :=
  ∀ payload, .datagram payload ∈ incoming → payload.length ≤ kMaxDatagramSize

namespace UdpTransport

variable {t : UdpTransport} {incoming : List Reception} {b : UInt8} {bs : List UInt8}

lemma connect_open {env : ConnectEnv} {t' : UdpTransport} (h : t.connect env = (true, t')) :
    t'.Open ∧ t'.pending = [] := by
  simp only [connect] at h
  split_ifs at h
  · cases h
  · cases h
  · cases h
  · cases h
  · obtain ⟨_, rfl⟩ := Prod.mk.inj h
    exact ⟨⟨rfl, rfl⟩, by simp [pending]⟩

lemma nextByte_pending (h : t.pending = b :: bs) :
    t.nextByte.1 = .byte b ∧ t.nextByte.2.pending = bs := by
  have hlt : t.rxBufferPos < (t.rxBuffer.take t.rxBufferLen).length := by
    by_contra hge
    rw [pending, List.drop_eq_nil_of_le (not_lt.mp hge)] at h
    cases h
  rw [pending, List.drop_eq_getElem_cons hlt] at h
  obtain ⟨hb, hbs⟩ := List.cons.inj h
  refine ⟨?_, hbs⟩
  have hlt' : t.rxBufferPos < t.rxBuffer.length := hlt.trans_le (by simp)
  simp [nextByte, List.getD_eq_getElem?_getD, List.getElem?_eq_getElem hlt', ← hb]

lemma pending_eq_nil : t.pending = [] ↔ t.rxBufferLen ≤ t.rxBufferPos := by
  have hroom := t.room
  rw [pending, List.drop_eq_nil_iff, List.length_take, t.sized, min_eq_left hroom]

lemma refillRxBuffer_datagram (h : t.Open) (rest : List Reception) (hsize : (b :: bs).length ≤ kMaxDatagramSize) :
    ∃ t', t.refillRxBuffer (.datagram (b :: bs) :: rest) = some (true, t', rest) ∧ t'.Open ∧
      t'.pending = b :: bs := by
  have hwhole : (b :: bs).take kMaxDatagramSize = b :: bs := List.take_of_length_le hsize
  have hpos : (b :: bs).length ≠ 0 := by simp
  simp only [refillRxBuffer, recvfrom, hwhole, if_neg hpos]
  refine ⟨_, rfl, ⟨h.connected, h.socketOpen⟩, ?_⟩
  simp [pending]

lemma readByte_delivers (h : t.Open) (hfits : Fits incoming) (hnext : t.pending ++ deliverable incoming = b :: bs) :
    ∃ t' rest, t.readByte incoming = (.byte b, t', rest) ∧ t'.Open ∧ Fits rest ∧
      t'.pending ++ deliverable rest = bs := by
  have hopen : (!t.connected || !t.socketOpen) = false := by simp [h.connected, h.socketOpen]
  have hstays : ∀ {t : UdpTransport}, t.Open → t.nextByte.2.Open := fun h => ⟨h.connected, h.socketOpen⟩
  rw [readByte, hopen, if_neg Bool.false_ne_true]
  cases hp : t.pending with
  | cons b' bs' =>
    rw [hp, List.cons_append] at hnext
    obtain ⟨rfl, rfl⟩ := List.cons.inj hnext
    obtain ⟨hbyte, hrest⟩ := nextByte_pending hp
    have hleft : ¬ t.rxBufferLen ≤ t.rxBufferPos := by
      rw [← pending_eq_nil, hp]
      exact List.cons_ne_nil _ _
    rw [if_neg hleft]
    exact ⟨_, _, by rw [hbyte], hstays h, hfits, by rw [hrest]⟩
  | nil =>
    rw [if_pos (pending_eq_nil.mp hp)]
    rw [hp, List.nil_append] at hnext
    match incoming, hnext with
    | .datagram (c :: cs) :: rest, hnext =>
      rw [deliverable, List.cons_append] at hnext
      obtain ⟨rfl, rfl⟩ := List.cons.inj hnext
      obtain ⟨t', hrefill, hopen', hp'⟩ := refillRxBuffer_datagram h rest (hfits _ List.mem_cons_self)
      obtain ⟨hbyte, hrest⟩ := nextByte_pending hp'
      simp only [hrefill]
      exact ⟨_, _, by rw [hbyte], hstays hopen', fun payload hm => hfits payload (List.mem_cons_of_mem _ hm),
        by rw [hrest]⟩

lemma readByte_exhausted (h : t.Open) (hnone : t.pending ++ deliverable incoming = []) :
    t.readByte incoming = (.waiting, t, incoming) ∨
      ∃ t' rest, t.readByte incoming = (.closed, t', rest) ∧ t'.connected = false := by
  obtain ⟨hp, hd⟩ := List.append_eq_nil_iff.mp hnone
  have hopen : (!t.connected || !t.socketOpen) = false := by simp [h.connected, h.socketOpen]
  rw [readByte, hopen, if_neg Bool.false_ne_true, if_pos (pending_eq_nil.mp hp)]
  match incoming, hd with
  | [], _ => exact Or.inl rfl
  | .failure :: rest, _ => exact Or.inr ⟨_, rest, rfl, rfl⟩
  | .datagram [] :: rest, _ => exact Or.inr ⟨_, rest, rfl, rfl⟩

variable (incoming) in
lemma readBytes_closed (h : t.connected = false) (n : ℕ) : t.readBytes n incoming = List.replicate n .closed := by
  induction n with
  | zero => rfl
  | succ n ih =>
    have hclosed : t.readByte incoming = (.closed, t, incoming) := by
      rw [readByte, h]
      rfl
    rw [readBytes, hclosed, List.replicate_succ, ← ih]

lemma readBytes_delivers (n : ℕ) (h : t.Open) (hfits : Fits incoming) :
    (t.readBytes n incoming).filterMap Answer.delivered = (t.pending ++ deliverable incoming).take n ∧
      ∀ i, (t.readBytes n incoming)[i]? = some .closed →
        ((t.readBytes n incoming).take i).filterMap Answer.delivered = t.pending ++ deliverable incoming := by
  induction n generalizing t incoming with
  | zero => simp [readBytes]
  | succ n ih =>
    cases hnext : t.pending ++ deliverable incoming with
    | cons b bs =>
      obtain ⟨t', rest, hread, hopen, hfits', hrest⟩ := readByte_delivers h hfits hnext
      obtain ⟨hbytes, hclosed⟩ := ih hopen hfits'
      rw [hrest] at hbytes hclosed
      rw [readBytes, hread]
      refine ⟨by simp [Answer.delivered, hbytes], fun i hi => ?_⟩
      cases i with
      | zero => simp at hi
      | succ i => simpa [Answer.delivered] using hclosed i hi
    | nil =>
      rcases readByte_exhausted h hnext with hread | ⟨t', rest, hread, hdown⟩
      · obtain ⟨hbytes, hclosed⟩ := ih h hfits
        rw [hnext] at hbytes hclosed
        rw [readBytes, hread]
        refine ⟨by simpa [Answer.delivered] using hbytes, fun i hi => ?_⟩
        cases i with
        | zero => simp at hi
        | succ i => simpa [Answer.delivered] using hclosed i hi
      · rw [readBytes, hread, readBytes_closed _ hdown]
        have hnone : (Answer.closed :: List.replicate n Answer.closed).filterMap Answer.delivered = [] := by
          simp [Answer.delivered]
        refine ⟨by simpa using hnone, fun i _ => ?_⟩
        exact List.sublist_nil.mp (hnone ▸ (List.take_sublist i _).filterMap _)

end UdpTransport

structure DeliversStream (t : UdpTransport) (payloads : List (List UInt8)) (incoming : List Reception) : Prop where
  bytes : ∀ n, (t.readBytes n incoming).filterMap Answer.delivered = payloads.flatten.take n
  closes : ∀ n i, (t.readBytes n incoming)[i]? = some .closed →
    ((t.readBytes n incoming).take i).filterMap Answer.delivered = payloads.flatten

def EmptiesTrail (payloads : List (List UInt8)) : Prop :=
  ∀ before after, payloads = before ++ [] :: after → after.flatten = []

lemma deliverable_eq_iff (payloads : List (List UInt8)) {ending : List Reception} (hend : deliverable ending = []) :
    deliverable (payloads.map .datagram ++ ending) = payloads.flatten ↔ EmptiesTrail payloads := by
  induction payloads with
  | nil => simpa [EmptiesTrail] using hend
  | cons payload payloads ih =>
    cases payload with
    | nil =>
      rw [List.flatten_cons, List.nil_append, List.map_cons, List.cons_append, deliverable, eq_comm]
      · refine ⟨fun h before after heq => ?_, fun h => h [] payloads rfl⟩
        cases before with
        | nil => rwa [← (List.cons.inj heq).2]
        | cons c before =>
          rw [List.cons_append] at heq
          rw [(List.cons.inj heq).2, List.flatten_append, List.append_eq_nil_iff] at h
          exact h.2
      · simp
    | cons b bs =>
      rw [List.map_cons, List.cons_append, deliverable, List.flatten_cons, List.append_cancel_left_eq, ih]
      refine ⟨fun h before after heq => ?_, fun h before after heq => ?_⟩
      · cases before with
        | nil => cases (List.cons.inj heq).1
        | cons c before => exact h before after (List.cons.inj heq).2
      · exact h ((b :: bs) :: before) after (by rw [heq, List.cons_append])

theorem udp_stream_delivered_iff (t t' : UdpTransport) (env : ConnectEnv) (hconnect : t.connect env = (true, t'))
    (payloads : List (List UInt8)) (hsize : ∀ payload ∈ payloads, payload.length ≤ kMaxDatagramSize)
    (ending : List Reception) (hend : ending = [] ∨ ending = [.failure]) :
    DeliversStream t' payloads (payloads.map .datagram ++ ending) ↔ EmptiesTrail payloads := by
  obtain ⟨hopen, hpending⟩ := UdpTransport.connect_open hconnect
  have hnone : deliverable ending = [] := by rcases hend with rfl | rfl <;> rfl
  have hfits : Fits (payloads.map .datagram ++ ending) := by
    intro payload hm
    rcases hend with rfl | rfl <;> simp at hm <;> exact hsize payload hm
  have hread := fun n => UdpTransport.readBytes_delivers n hopen hfits
  simp only [hpending, List.nil_append] at hread
  rw [← deliverable_eq_iff payloads hnone]
  constructor
  · intro h
    -- enough calls return all that can be delivered, and all that was sent
    obtain ⟨m, hm⟩ : ∃ m, m =
        (deliverable (payloads.map .datagram ++ ending)).length + payloads.flatten.length := ⟨_, rfl⟩
    have hbytes := h.bytes m
    rwa [(hread m).1, List.take_of_length_le (by omega), List.take_of_length_le (by omega)] at hbytes
  · intro h
    rw [h] at hread
    exact ⟨fun n => (hread n).1, fun n => (hread n).2⟩

theorem udp_stream_delivered_iff_two_datagrams :
    DeliversStream (({} : UdpTransport).connect ⟨true, true, false, true, true⟩).2 [[1, 2], [3], []]
      ([[1, 2], [3], []].map .datagram ++ []) := by
  refine (udp_stream_delivered_iff {} _ ⟨true, true, false, true, true⟩ rfl [[1, 2], [3], []] (by decide) []
    (Or.inl rfl)).mpr ?_
  have hnone : deliverable [] = [] := rfl
  rw [← deliverable_eq_iff _ hnone]
  decide

theorem empty_datagram_closes :
    let t := (({} : UdpTransport).connect ⟨true, true, false, true, true⟩).2
    (∀ n, t.readBytes (n + 1) [.datagram [1], .datagram [], .datagram [2]] = .byte 1 :: List.replicate n .closed) ∧
      ¬ DeliversStream t [[1], [], [2]] [.datagram [1], .datagram [], .datagram [2]] := by
  intro t
  have hanswers : ∀ n, t.readBytes (n + 1) [.datagram [1], .datagram [], .datagram [2]] =
      .byte 1 :: List.replicate n .closed := by
    intro n
    cases n with
    | zero => rfl
    | succ n =>
      have hdown : ((t.readByte [.datagram [1], .datagram [], .datagram [2]]).2.1.readByte
          [.datagram [], .datagram [2]]).2.1.connected = false := rfl
      rw [List.replicate_succ, ← UdpTransport.readBytes_closed [.datagram [2]] hdown n]
      rfl
  refine ⟨hanswers, fun h => ?_⟩
  have hbytes := h.bytes 2
  rw [hanswers 1] at hbytes
  revert hbytes
  decide

end MavlinkLogService.Transport
