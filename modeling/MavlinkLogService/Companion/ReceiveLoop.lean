import MavlinkLogService.Companion.Requests

/-! The receive loop over a whole sequence of datagrams: which of them end it, which reach the service. -/

namespace MavlinkLogService.Companion

open Library Json Service

variable {W : Type} {parse : List UInt8 → Option Inbound} {settings : CompanionSettings} {calls : Callbacks W}
  {contents : List UInt8} {activities : List (Activity W)}

def mutating (parse : List UInt8 → Option Inbound) (settings : CompanionSettings) (contents : List UInt8) :
    Bool :=
  let buf := contents.take (kBufSize - 1)
  decide ((buf.length : ℤ) ≤ settings.maxRequestBytes) &&
    (parseRequest parse buf).any fun req => isMutating req.op && !badToken settings req

def RxThread.replies (parse : List UInt8 → Option Inbound) (settings : CompanionSettings) (calls : Callbacks W)
    (t : RxThread W) (contents : List UInt8) : List (List Char) :=
  (t.receive parse settings calls contents).sent.drop t.sent.length

namespace RxThread

variable {t t' : RxThread W}

lemma take_buffer_ne_nil (h : contents ≠ []) : contents.take (kBufSize - 1) ≠ [] := by
  cases contents with
  | nil => exact absurd rfl h
  | cons b contents => exact List.cons_ne_nil _ _

lemma receive_nonempty (ht : t.looping = true) (hc : contents ≠ []) :
    t.receive parse settings calls contents =
      { t with
        world := (handleRequest parse settings calls (contents.take (kBufSize - 1)) t.world).2
        sent := t.sent ++ (handleRequest parse settings calls (contents.take (kBufSize - 1)) t.world).1 } := by
  rw [receive, if_pos ht]
  split
  · rename_i h
    exact absurd h (take_buffer_ne_nil hc)
  · rfl

lemma handleRequest_world {w : W} (h : mutating parse settings contents = false) :
    (handleRequest parse settings calls (contents.take (kBufSize - 1)) w).2 = w := by
  rw [handleRequest]
  split_ifs with hsize
  · rfl
  · cases hreq : parseRequest parse (contents.take (kBufSize - 1)) with
    | none => rfl
    | some req =>
      refine dispatch_world fun hm => ?_
      simpa only [mutating, hreq, decide_eq_true (not_lt.mp hsize), Option.any_some, hm, Bool.true_and,
        Bool.not_eq_false'] using h

lemma step_looping (ht : t.looping = true) {a : Activity W} (ha : a ≠ .datagram []) :
    (t.step parse settings calls a).looping = true := by
  cases a with
  | elsewhere move => exact ht
  | datagram contents =>
    rw [step, receive_nonempty ht (fun h => ha (by rw [h]))]
    exact ht

structure Agree (t t' : RxThread W) : Prop where
  looping : t.looping = true
  looping' : t'.looping = true
  world : t.world = t'.world

lemma Agree.step (h : Agree t t') {a : Activity W} (ha : a ≠ .datagram []) :
    Agree (t.step parse settings calls a) (t'.step parse settings calls a) := by
  refine ⟨step_looping h.looping ha, step_looping h.looping' ha, ?_⟩
  cases a with
  | elsewhere move => exact congrArg move h.world
  | datagram contents =>
    have hc : contents ≠ [] := fun hc => ha (by rw [hc])
    rw [RxThread.step, RxThread.step, receive_nonempty h.looping hc, receive_nonempty h.looping' hc, h.world]

lemma Agree.skip (h : Agree t t') (hc : contents ≠ []) (hm : mutating parse settings contents = false) :
    Agree (t.step parse settings calls (.datagram contents)) t' := by
  refine ⟨step_looping h.looping (by simpa using hc), h.looping', ?_⟩
  rw [RxThread.step, receive_nonempty h.looping hc]
  exact (handleRequest_world hm).trans h.world

section Service

variable {R : Type} {recorder : Recorder R} {req : CompanionRequest} {w : World R}

end Service

def IsStatus (parse : List UInt8 → Option Inbound) (settings : CompanionSettings) (request : List UInt8) :
    Prop :=
  request ≠ [] ∧ ((request.take (kBufSize - 1)).length : ℤ) ≤ settings.maxRequestBytes ∧
    ∃ req, parseRequest parse (request.take (kBufSize - 1)) = some req ∧ req.op = "status"

lemma Agree.replies {request : List UInt8} (h : Agree t t') (hr : IsStatus parse settings request) :
    ∃ payload, t.replies parse settings calls request = [payload] ∧
      t'.replies parse settings calls request = [payload] := by
  obtain ⟨hne, hsize, req, hreq, -⟩ := hr
  refine ⟨((dispatch settings calls req t.world).1.build settings req.id req.client).json, ?_, ?_⟩
  · rw [RxThread.replies, receive_nonempty h.looping hne, handleRequest_answers hsize hreq]
    exact List.drop_left
  · rw [RxThread.replies, receive_nonempty h.looping' hne, handleRequest_answers hsize hreq, h.world]
    exact List.drop_left

end RxThread

end MavlinkLogService.Companion
