import MavlinkLogService.Types
import MavlinkLogService.Storage.StorageManager

/-! The messages of the log protocol, and the actions and events that make up the history of a run. -/

namespace MavlinkLogService

structure LogDataChunk where
  id : UInt16
  offset : UInt32
  count : ℕ
  data : List UInt8
  deriving DecidableEq, Repr

/-- The decoded messages `onMessage` reacts to. The bytes of a `LOG_DATA` are those found in memory
from its payload field on. -/
inductive LogMessage
  | logEntry (entry : LogEntry)
  | logData (id : UInt16) (ofs : UInt32) (count : UInt8) (bytes : List UInt8)
  deriving DecidableEq, Repr

def LogMessage.chunk? : LogMessage → Option LogDataChunk
  | .logEntry _ => none
  | .logData id ofs count bytes =>
    if count = 0 then none else some ⟨id, ofs, count.toNat, bytes.take count.toNat⟩

lemma LogMessage.chunk_eq {m : LogMessage} {chunk : LogDataChunk} (h : m.chunk? = some chunk) :
    ∃ id ofs count bytes, m = .logData id ofs count bytes ∧ count ≠ 0 ∧
      chunk = ⟨id, ofs, count.toNat, bytes.take count.toNat⟩ := by
  cases m with
  | logEntry entry => cases h
  | logData id ofs count bytes =>
    rw [chunk?] at h
    split_ifs at h with h₀
    exact ⟨id, ofs, count, bytes, rfl, h₀, (Option.some.inj h).symm⟩

inductive LogRequest
  | list
  | data (id : UInt16) (offset count : ℕ)
  | finish
  | erase
  deriving DecidableEq, Repr

structure Params where
  logId : UInt16
  byteOffset : ℕ
  byteCount : ℕ
  probeBytes : ℤ
  writeFile : Bool := true
  deriving DecidableEq, Repr

/-- What is recorded of a run, in order; the code reads none of it. `hit` is an arming or an
`archive.cancel` handled while a job is in progress, `consume` the start of an automatic or requested
archive cycle, `begin` the moment `archiveAll` turns to a log, `reconnect` the attempt to open the transport
anew. -/
inductive Action
  | armed
  | disarmed
  | hit
  | job
  | consume
  | restart
  | reconnect
  | request (r : LogRequest)
  | enumerated (received entries : List LogEntry)
  | begin (entry : LogEntry)
  | session (p : Params) (processed : List LogDataChunk)
  | archived (path : Storage.Path)
  | outcome (entry : LogEntry) (result : ArchiveResult)
  deriving DecidableEq, Repr

def Action.isEvent : Action → Bool
  | .armed | .disarmed | .hit => true
  | _ => false

def events (l : List Action) : List Action := l.filter Action.isEvent

@[simp] lemma events_nil : events [] = [] := rfl

@[simp] lemma events_append (l l' : List Action) : events (l ++ l') = events l ++ events l' :=
  List.filter_append l l'

lemma events_flatMap {α : Type*} (f : α → List Action) (l : List α) :
    events (l.flatMap f) = l.flatMap (fun x => events (f x)) :=
  List.filter_flatMap

lemma events_eq_nil {l : List Action} (h : ∀ a ∈ l, a.isEvent = false) : events l = [] :=
  List.filter_eq_nil_iff.mpr fun a ha => by simp [h a ha]

end MavlinkLogService
