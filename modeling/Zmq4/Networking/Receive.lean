import Zmq4.Networking.Transport
import Mathlib.Data.UInt

/-!
The receive loops `subLoop` and `routerLoop` of `Transport`, over the passes they make. A pass
returns once `stopCh` is closed or the context is done, or when `Recv` fails with
`context.Canceled` or `context.DeadlineExceeded`; it goes on after any other error, and otherwise
hands the message's payload to `processMessage`: the whole message for `subLoop`, its last frame
for `routerLoop`.

A loop is `processMessage` folded over the messages received before it returned (`recvLoop_eq`).
Both loops return exactly when a pass tells them to, change nothing but the receive metrics and the
handlers started, and count each payload they hand on once, as received or dropped, unless it is
the node's own broadcast (`receive_loops`).
-/

namespace Zmq4.Networking
open Transport

/-- The errors of `Recv` that the receive loops tell apart. -/
inductive RecvError where
  /-- `context.Canceled`. -/
  | Canceled
  /-- `context.DeadlineExceeded`. -/
  | DeadlineExceeded
  | other (err : GoError)

/-- What one pass of a receive loop meets at its `select`. -/
inductive Pass where
  /-- `<-t.stopCh` is ready. -/
  | stopped
  /-- `<-t.ctx.Done()` is ready. -/
  | ctxDone
  /-- Neither is, and `Recv` returns. -/
  | recv (result : Except RecvError Msg)

/-- Whether a pass makes the loop return. -/
def Pass.exits : Pass → Bool
  | .stopped | .ctxDone | .recv (.error .Canceled) | .recv (.error .DeadlineExceeded) => true
  | .recv (.error (.other _)) | .recv (.ok _) => false

/-- The messages `Recv` returned before the loop returned. -/
def Pass.received : List Pass → List Msg
  | [] => []
  | .recv (.ok msg) :: passes => msg :: received passes
  | .recv (.error (.other _)) :: passes => received passes
  | _ :: _ => []

namespace Transport

/-- The loop of `subLoop` and `routerLoop`, with `handle` what it does with a message: the
    transport after the passes, and whether the loop has returned. -/
def recvLoop (handle : Transport → Msg → Transport) (t : Transport) : List Pass → Transport × Bool
  | [] => (t, false)
  | .stopped :: _ | .ctxDone :: _ => (t, true)
  | .recv (.error .Canceled) :: _ | .recv (.error .DeadlineExceeded) :: _ => (t, true)
  | .recv (.error (.other _)) :: passes => recvLoop handle t passes
  | .recv (.ok msg) :: passes => recvLoop handle (handle t msg) passes

/-- `subLoop()`; `bytes` is `Msg.Bytes`, which is outside this repository. -/
def subLoop (bytes : Msg → List UInt8) (json : JsonCodec) (t : Transport) (passes : List Pass) :
    Transport × Bool :=
  t.recvLoop (fun t msg => t.processMessage json (bytes msg)) passes

/-- `routerLoop()`: a message with frames hands its last one to `processMessage`. -/
def routerLoop (json : JsonCodec) (t : Transport) (passes : List Pass) : Transport × Bool :=
  t.recvLoop (routerReceived json) passes

/-- A loop handles the messages received before it returned, in order, and returns exactly when
    some pass tells it to. -/
theorem recvLoop_eq (handle : Transport → Msg → Transport) (t : Transport) (passes : List Pass) :
    t.recvLoop handle passes = ((Pass.received passes).foldl handle t, passes.any Pass.exits) := by
  induction passes generalizing t with
  | nil => rfl
  | cons pass passes ih =>
    match pass with
    | .stopped | .ctxDone | .recv (.error .Canceled) | .recv (.error .DeadlineExceeded) => rfl
    | .recv (.error (.other _)) => exact ih t
    | .recv (.ok msg) => exact ih (handle t msg)

end Transport

/-! ### What `processMessage` counts and changes -/

/-- Whether `processMessage` counts a payload, as received or dropped: every one but the node's own
    broadcasts. -/
def counted (json : JsonCodec) (nodeID : String) (data : List UInt8) : Bool :=
  match json.Unmarshal data with
  | .error _ => true
  | .ok message => !decide (message.From = nodeID ∧ message.To = "")

/-- `t'` is `t` but for the receive metrics and the handlers started. -/
def SameBut (t t' : Transport) : Prop :=
  { t' with msgReceived := t.msgReceived, msgDropped := t.msgDropped, dispatched := t.dispatched } = t

theorem SameBut.refl (t : Transport) : SameBut t t := rfl

theorem SameBut.trans {t t' t'' : Transport} (same : SameBut t t') (same' : SameBut t' t'') : SameBut t t'' := by
  unfold SameBut at *
  rw [← same, ← same']

theorem SameBut.nodeID {t t' : Transport} (same : SameBut t t') : t'.nodeID = t.nodeID := by
  unfold SameBut at same
  exact (congrArg Transport.nodeID same :)

theorem processMessage_sameBut (json : JsonCodec) (t : Transport) (data : List UInt8) :
    SameBut t (t.processMessage json data) := by
  unfold processMessage deliver
  split
  · rfl
  · split
    · rfl
    · dsimp only
      split <;> rfl

theorem ofNat_succ (n : Nat) : UInt64.ofNat (n + 1) = UInt64.ofNat n + 1 :=
  congrArg UInt64.mk (BitVec.ofNat_add n 1)

/-- `processMessage` adds one to `msgReceived` or to `msgDropped` exactly when it counts the
    payload. -/
theorem processMessage_counts (json : JsonCodec) (t : Transport) (data : List UInt8) :
    (t.processMessage json data).msgReceived + (t.processMessage json data).msgDropped =
      t.msgReceived + t.msgDropped + if counted json t.nodeID data then 1 else 0 := by
  unfold processMessage counted
  cases decoded : json.Unmarshal data with
  | error err => exact (add_assoc _ _ _).symm
  | ok message =>
    by_cases own : message.From = t.nodeID ∧ message.To = ""
    · simp [own]
    · simp only [own, if_false, decide_False, Bool.not_false, if_true]
      unfold deliver; dsimp only
      split <;> exact add_right_comm _ _ _

/-- `processMessage` over a list of payloads changes nothing but the receive metrics and the
    handlers started, and counts each payload once unless it is the node's own broadcast. -/
theorem foldl_processMessage (json : JsonCodec) (payloads : List (List UInt8)) (t : Transport) :
    SameBut t (payloads.foldl (fun t data => t.processMessage json data) t) ∧
      (payloads.foldl (fun t data => t.processMessage json data) t).msgReceived +
          (payloads.foldl (fun t data => t.processMessage json data) t).msgDropped =
        t.msgReceived + t.msgDropped + UInt64.ofNat (payloads.countP (counted json t.nodeID)) := by
  induction payloads generalizing t with
  | nil => exact ⟨SameBut.refl t, (add_zero _).symm⟩
  | cons data payloads ih =>
    obtain ⟨same, counts⟩ := ih (t.processMessage json data)
    have node := (processMessage_sameBut json t data).nodeID
    refine ⟨(processMessage_sameBut json t data).trans same, ?_⟩
    rw [List.foldl_cons, counts, processMessage_counts, node, List.countP_cons]
    split
    · rw [ofNat_succ, add_right_comm, add_assoc]
    · rw [add_zero, Nat.add_zero]

/-- What `routerLoop` hands on: the last frame of each message that has frames. -/
theorem foldl_routerReceived (json : JsonCodec) (msgs : List Msg) (t : Transport) :
    msgs.foldl (routerReceived json) t =
      (msgs.filterMap fun msg => msg.frames.getLast?).foldl (fun t data => t.processMessage json data) t := by
  induction msgs generalizing t with
  | nil => rfl
  | cons msg msgs ih =>
    rw [List.foldl_cons, ih, List.filterMap_cons]
    unfold routerReceived
    cases msg.frames.getLast? <;> rfl

/-- Both receive loops return exactly when a pass tells them to, change nothing but the receive
    metrics and the handlers started, and count each payload they hand on once, as received or
    dropped, unless it is the node's own broadcast: `subLoop` hands on each message's bytes,
    `routerLoop` the last frame of each message that has frames. -/
theorem receive_loops (bytes : Msg → List UInt8) (json : JsonCodec) (t : Transport) (passes : List Pass) :
    let sub := t.subLoop bytes json passes
    let router := t.routerLoop json passes
    sub.2 = passes.any Pass.exits ∧ SameBut t sub.1 ∧
      sub.1.msgReceived + sub.1.msgDropped = t.msgReceived + t.msgDropped +
        UInt64.ofNat (((Pass.received passes).map bytes).countP (counted json t.nodeID)) ∧
    router.2 = passes.any Pass.exits ∧ SameBut t router.1 ∧
      router.1.msgReceived + router.1.msgDropped = t.msgReceived + t.msgDropped +
        UInt64.ofNat (((Pass.received passes).filterMap fun msg => msg.frames.getLast?).countP
          (counted json t.nodeID)) := by
  have sub := foldl_processMessage json ((Pass.received passes).map bytes) t
  have router := foldl_processMessage json ((Pass.received passes).filterMap fun msg => msg.frames.getLast?) t
  rw [List.foldl_map] at sub
  dsimp only
  rw [subLoop, routerLoop, recvLoop_eq, recvLoop_eq, foldl_routerReceived]
  exact ⟨rfl, sub.1, sub.2, rfl, router.1, router.2⟩

end Zmq4.Networking
