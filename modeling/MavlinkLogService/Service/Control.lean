import MavlinkLogService.FlightMonitor
import MavlinkLogService.Library.Handlers
import MavlinkLogService.Session.Inbox

/-! The part of the service its receive thread and its companion thread write to: state, flight monitor,
pending request and command queue, and the handlers that run on those threads. -/

namespace MavlinkLogService.Service

open Library Session

inductive State
  | boot
  | connect
  | waitHeartbeat
  | waitArm
  | waitDisarm
  | delay
  | enumerate
  | archive
  | eraseAll
  | cleanup
  | connectionLost
  | manualRefresh
  | manualDownload
  | manualErase
  deriving DecidableEq, Repr

def isArchiveBusy : State → Bool
  | .delay | .enumerate | .archive | .eraseAll | .manualRefresh | .manualDownload | .manualErase => true
  | _ => false

inductive CompanionCommand
  | startArchive
  | cancelArchive
  | refreshLogs
  | downloadLogs (ids : List UInt16) (all : Bool)
  | eraseAllLogs
  deriving DecidableEq, Repr

inductive CompanionJobKind
  | archive
  | refresh
  | download
  | eraseAll
  deriving DecidableEq, Repr

inductive JobStartResult
  | accepted
  | alreadyRunning
  | armed
  | notConnected
  | notFound
  deriving DecidableEq, Repr

structure JobOutcome where
  result : JobStartResult := .accepted
  queued : ℕ := 0
  notFound : List UInt16 := []
  deriving DecidableEq, Repr

structure Control where
  state : State := .boot
  monitor : FlightMonitor := {}
  archiveRequested : Bool := false
  disarmTime : ℤ := 0
  commands : List CompanionCommand := []
  cachedFcLogs : List LogEntry := []
  fcLogsStale : Bool := true
  manualDownloadIds : List UInt16 := []
  manualDownloadAll : Bool := false
  deriving DecidableEq, Repr

@[ext] structure Effect where
  messages : List LogMessage := []
  cancel : Bool := false
  marks : List Action := []
  deriving DecidableEq, Repr

instance : Zero Effect := ⟨{}⟩

instance : Add Effect := ⟨fun x y => ⟨x.messages ++ y.messages, x.cancel || y.cancel, x.marks ++ y.marks⟩⟩

@[simp] lemma effect_zero : (0 : Effect) = {} := rfl

@[simp] lemma effect_add_messages (x y : Effect) : (x + y).messages = x.messages ++ y.messages := rfl

@[simp] lemma effect_add_cancel (x y : Effect) : (x + y).cancel = (x.cancel || y.cancel) := rfl

@[simp] lemma effect_add_marks (x y : Effect) : (x + y).marks = x.marks ++ y.marks := rfl

instance : AddMonoid Effect where
  add_assoc x y z := by ext <;> simp [Bool.or_assoc]
  zero_add x := by ext <;> simp
  add_zero x := by ext <;> simp
  nsmul := nsmulRec

def interruptible (state : State) : Bool := isArchiveBusy state && state != .manualErase

def hits (state : State) : List Action := if interruptible state then [.hit] else []

namespace Control

def push (c : Control) (cmd : CompanionCommand) : Control := { c with commands := c.commands ++ [cmd] }

def returnToIdleState (c : Control) : Control :=
  { c with state := if c.monitor.armed then .waitDisarm else .waitArm }

def handleConnectionLost (c : Control) : Control :=
  if isArchiveBusy c.state then c
  else if c.state = .connectionLost ∨ c.state = .boot then c
  else { c with state := .connectionLost }

def onFlightEvent (now : ℤ) (c : Control) : FlightMonitor.Event → Control × Effect
  | .vehicleArmed =>
    if c.state = .waitArm then ({ c with state := .waitDisarm }, { marks := [.armed] })
    else if isArchiveBusy c.state then (c, { cancel := true, marks := .armed :: hits c.state })
    else (c, { marks := [.armed] })
  | .vehicleDisarmed =>
    let c := { c with disarmTime := now, archiveRequested := true }
    if c.state = .waitDisarm then ({ c with state := .delay }, { marks := [.disarmed, .job] })
    else if isArchiveBusy c.state then (c, { cancel := true, marks := [.disarmed] })
    else (c, { marks := [.disarmed] })
  | .linkLost => (c.handleConnectionLost, {})
  | .linkRestored => (if c.state = .connectionLost then { c with state := .connect } else c, {})
  | .vehicleDetected => (c, {})

def requestCompanionJob (c : Control) (kind : CompanionJobKind) (ids : List UInt16) (all connected : Bool) :
    JobOutcome × Control × Effect :=
  if kind = .eraseAll then
    if !connected then ({ result := .notConnected }, c, {})
    else ({}, c.push .eraseAllLogs, { cancel := isArchiveBusy c.state })
  else if isArchiveBusy c.state then ({ result := .alreadyRunning }, c, {})
  else if c.monitor.armed then ({ result := .armed }, c, {})
  else if !connected then ({ result := .notConnected }, c, {})
  else match kind with
    | .archive => ({}, c.push .startArchive, {})
    | .refresh => ({}, c.push .refreshLogs, {})
    | .download =>
      let known := fun id => c.cachedFcLogs.any (fun e => e.id == id)
      let valid := if all then [] else ids.filter known
      let outcome : JobOutcome :=
        if all then { queued := c.cachedFcLogs.length }
        else { queued := valid.length, notFound := ids.filter (fun id => !known id) }
      if !all && valid.isEmpty then ({ outcome with result := .notFound }, c, {})
      else (outcome, c.push (.downloadLogs valid all), {})
    | .eraseAll => ({}, c, {})

end Control

/-- What the other threads hand over: MAVLink messages, with the link test that follows each, and
companion requests. -/
inductive Arrival
  | message (m : LogMessage) (fresh : Bool)
  | heartbeat (h : Heartbeat) (now : ℤ) (fresh : Bool)
  | job (kind : CompanionJobKind) (ids : List UInt16) (all connected : Bool)
  | cancel
  deriving DecidableEq, Repr

namespace Control

def hear (monitor : FlightMonitor) (heartbeat : Option Heartbeat) (fresh : Bool) :
    FlightMonitor × List FlightMonitor.Event :=
  let (monitor, events) := match heartbeat with
    | some h => monitor.onHeartbeat h
    | none => (monitor, [])
  let (monitor, timeout) := if fresh then (monitor, []) else monitor.onLinkTimeout
  (monitor, events ++ timeout)

def onMavlinkMessage (c : Control) (heartbeat : Option Heartbeat) (now : ℤ) (fresh : Bool) : Control × Effect :=
  let (monitor, events) := hear c.monitor heartbeat fresh
  handleAll (onFlightEvent now) { c with monitor := monitor } events

def receive (c : Control) : Arrival → Control × Effect
  | .message m fresh =>
    let (c, x) := c.onMavlinkMessage none 0 fresh
    (c, { x with messages := [m] })
  | .heartbeat h now fresh => c.onMavlinkMessage (some h) now fresh
  | .job kind ids all connected => (c.requestCompanionJob kind ids all connected).2
  | .cancel => (c.push .cancelArchive, { cancel := true, marks := hits c.state })

end Control

/-- One interaction of a task of the main thread: what arrived since the previous one, and what it reads. -/
structure Moment where
  arrivals : List Arrival := []
  reading : Tick := {}

def Moment.tick (m : Moment) (x : Effect) : Tick :=
  { m.reading with messages := x.messages, cancel := x.cancel, marks := x.marks }

namespace Control

def observe : Control → List Moment → Control × List Tick
  | c, [] => (c, [])
  | c, m :: ms =>
    let (c, x) := handleAll receive c m.arrivals
    let (c, ticks) := observe c ms
    (c, m.tick x :: ticks)

end Control

end MavlinkLogService.Service
