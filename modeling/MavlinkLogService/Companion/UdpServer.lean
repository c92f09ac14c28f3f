import MavlinkLogService.Companion.Protocol
import MavlinkLogService.Service.Control

/-! The companion UDP server: its receive loop and the handling of one request. What the service does
when it is called back is a parameter, over the state of the service. -/

namespace MavlinkLogService.Companion

open Library Json Service

structure CompanionSettings where
  token : String := ""
  maxRequestBytes : ℤ := 2048
  maxResponseBytes : ℤ := 1200
  maxFcLogsPerResponse : ℤ := 8
  deriving DecidableEq, Repr

def CompanionSettings.maxBytes (settings : CompanionSettings) : ℕ :=
  (settings.maxResponseBytes % 18446744073709551616).toNat

inductive RecStartResult
  | started
  | alreadyRecording
  | disabled
  | noMedia
  | failed
  deriving DecidableEq, Repr

/-- The functions the service hands to the server; `cancelFn` covers the command that is queued with it. -/
structure Callbacks (W : Type) where
  snapshotFn : W → ServiceSnapshot
  fcLogsFn : ℤ → ℤ → W → FcLogsPage
  jobGate : CompanionJobKind → List UInt16 → Bool → W → JobOutcome × W
  cancelFn : W → W
  recStartFn : W → RecStartResult × W
  recStopFn : W → W

inductive Reply
  | status (snap : ServiceSnapshot)
  | fcLogs (page : FcLogsPage)
  | caps
  | jobAck (alreadyRunning : Bool)
  | downloadAck (queued : ℕ) (notFound : List UInt16)
  | recAck (active : Bool)
  | error (err : String)
  deriving DecidableEq, Repr

def Reply.build (settings : CompanionSettings) (id : ℤ) (client : String) : Reply → SerializedResponse
  | .status snap => buildStatus id snap settings.maxBytes client
  | .fcLogs page => buildFcLogs id page settings.maxBytes client
  | .caps => buildCaps id settings.maxRequestBytes settings.maxResponseBytes settings.maxFcLogsPerResponse
      settings.maxBytes client
  | .jobAck alreadyRunning => buildJobAck id alreadyRunning client
  | .downloadAck queued notFound => buildDownloadAck id queued notFound client
  | .recAck active => buildRecAck id active client
  | .error err => buildError id err client

def isMutating (op : String) : Bool :=
  op == "archive.start" || op == "archive.cancel" || op == "logs.refresh" || op == "logs.download" ||
    op == "logs.erase" || op == "rec.start" || op == "rec.stop"

def badToken (settings : CompanionSettings) (req : CompanionRequest) : Bool :=
  isMutating req.op && settings.token != "" && req.token != settings.token

def respondToJobOutcome (op : String) (outcome : JobOutcome) : Reply :=
  match outcome.result with
  | .accepted =>
    if op = "logs.download" then .downloadAck outcome.queued outcome.notFound else .jobAck false
  | .alreadyRunning => .jobAck true
  | .armed => .error "armed"
  | .notConnected => .error "not_connected"
  | .notFound => .error "not_found"

def respondToRecStart : RecStartResult → Reply
  | .started | .alreadyRecording => .recAck true
  | .disabled => .error "recording_disabled"
  | .noMedia => .error "no_media"
  | .failed => .error "internal"

section

variable {W : Type} (parse : List UInt8 → Option Inbound) (settings : CompanionSettings)
  (calls : Callbacks W)

def startJob (op : String) (kind : CompanionJobKind) (ids : List UInt16) (all : Bool) (w : W) : Reply × W :=
  let (outcome, w) := calls.jobGate kind ids all w
  (respondToJobOutcome op outcome, w)

def dispatch (req : CompanionRequest) (w : W) : Reply × W :=
  if badToken settings req then (.error "bad_token", w)
  else if req.op = "status" then (.status (calls.snapshotFn w), w)
  else if req.op = "fc.logs" then
    (.fcLogs (calls.fcLogsFn req.offset (min req.limit settings.maxFcLogsPerResponse) w), w)
  else if req.op = "caps" then (.caps, w)
  else if req.op = "archive.start" then startJob calls req.op .archive [] false w
  else if req.op = "logs.refresh" then startJob calls req.op .refresh [] false w
  else if req.op = "logs.download" then
    if !req.selAll && req.selIds.isEmpty then (.error "bad_request", w)
    else if kMaxIdsPerRequest < req.selIds.length then (.error "bad_request", w)
    else startJob calls req.op .download req.selIds req.selAll w
  else if req.op = "logs.erase" then startJob calls req.op .eraseAll [] false w
  else if req.op = "archive.cancel" then (.jobAck false, calls.cancelFn w)
  else if req.op = "rec.start" then
    let (result, w) := calls.recStartFn w
    (respondToRecStart result, w)
  else if req.op = "rec.stop" then (.recAck false, calls.recStopFn w)
  else (.error "bad_request", w)

def handleRequest (text : List UInt8) (w : W) : List (List Char) × W :=
  if settings.maxRequestBytes < (text.length : ℤ) then ([], w)
  else match parseRequest parse text with
    | none => ([], w)
    | some req =>
      let (reply, w) := dispatch settings calls req w
      ([(reply.build settings req.id req.client).json], w)

structure RxThread (W : Type) where
  looping : Bool := true
  world : W
  sent : List (List Char) := []

def kBufSize : ℕ := 4096

/-- One pass of `rxLoop`. A datagram is cut to the buffer; `recvfrom` returns 0 for an empty one. -/
def RxThread.receive (t : RxThread W) (datagram : List UInt8) : RxThread W :=
  if t.looping then
    match datagram.take (kBufSize - 1) with
    | [] => { t with looping := false }
    | buf =>
      let (replies, w) := handleRequest parse settings calls buf t.world
      { t with world := w, sent := t.sent ++ replies }
  else t

inductive Activity (W : Type)
  | datagram (contents : List UInt8)
  | elsewhere (move : W → W)

def RxThread.step (t : RxThread W) : Activity W → RxThread W
  | .datagram contents => t.receive parse settings calls contents
  | .elsewhere move => { t with world := move t.world }

end

end MavlinkLogService.Companion
