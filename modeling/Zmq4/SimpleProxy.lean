import Zmq4.Basic

/-!
The two-socket `Proxy` of `unnamed/part_002`: one goroutine per direction receives and sends in
turn, and the first error either of them puts on `errChan` is returned. Each direction forwards
what it received in order, with at most one message in hand (`Inv.flow`); the buffer of two on
`errChan` is enough for both goroutines (`report_enabled`), and nothing is ever closed
(`reachable_fault`). Returning stops nothing: the goroutines never look at whether `Proxy`
returned (`recv_enabled`), and `recv_after_return` is a run in which one does call `Recv` after.
-/

namespace Zmq4.SimpleProxy

/-- Where a forwarding goroutine is. -/
inductive Pc where
  /-- `msg, err := frontend.Recv()`. -/
  | recv
  /-- `backend.Send(msg)`. -/
  | send (msg : Msg)
  /-- `errChan <- err; return`. -/
  | failed (err : GoError)
  | exited
  deriving DecidableEq, Repr

/-- The message a goroutine holds between `Recv` and `Send`. -/
def Pc.held : Pc → List Msg
  | .send msg => [msg]
  | _ => []

/-- Whether the goroutine has put its error on `errChan`. -/
def Pc.reported : Pc → Nat
  | .exited => 1
  | _ => 0

@[simp] theorem Pc.held_send (msg : Msg) : (Pc.send msg).held = [msg] := rfl
@[simp] theorem Pc.held_recv : Pc.recv.held = [] := rfl
@[simp] theorem Pc.held_failed (err : GoError) : (Pc.failed err).held = [] := rfl
@[simp] theorem Pc.held_exited : Pc.exited.held = [] := rfl
@[simp] theorem Pc.reported_send (msg : Msg) : (Pc.send msg).reported = 0 := rfl
@[simp] theorem Pc.reported_recv : Pc.recv.reported = 0 := rfl
@[simp] theorem Pc.reported_failed (err : GoError) : (Pc.failed err).reported = 0 := rfl
@[simp] theorem Pc.reported_exited : Pc.exited.reported = 1 := rfl

theorem Pc.reported_le_one (pc : Pc) : pc.reported ≤ 1 := by
  cases pc <;> simp

/-- Where `Proxy` itself is: at `return <-errChan`, or returned. -/
inductive MainPc where
  | receive
  | returned (err : Option GoError)
  deriving DecidableEq, Repr

def MainPc.taken : MainPc → Nat
  | .receive => 0
  | .returned _ => 1

/-- One direction: its goroutine, what its `Recv` returned and what it passed to `Send`. -/
structure Lane where
  pc : Pc
  received : List Msg
  sent : List Msg
  deriving DecidableEq, Repr

structure State where
  front : Lane
  back : Lane
  errChan : Chan GoError
  main : MainPc
  fault : Option Fault
  deriving DecidableEq

def State.lane (s : State) : Dir → Lane
  | .frontToBack => s.front
  | .backToFront => s.back

def State.setLane (s : State) : Dir → Lane → State
  | .frontToBack, l => { s with front := l }
  | .backToFront, l => { s with back := l }

@[simp] theorem lane_setLane (s : State) (d : Dir) (l : Lane) : (s.setLane d l).lane d = l := by
  cases d <;> rfl

@[simp] theorem lane_setLane_of_ne (s : State) {d d' : Dir} (l : Lane) (other : d' ≠ d) :
    (s.setLane d l).lane d' = s.lane d' := by
  cases d <;> cases d' <;> simp_all [State.setLane, State.lane]

@[simp] theorem setLane_errChan (s : State) (d : Dir) (l : Lane) : (s.setLane d l).errChan = s.errChan := by
  cases d <;> rfl
@[simp] theorem setLane_main (s : State) (d : Dir) (l : Lane) : (s.setLane d l).main = s.main := by
  cases d <;> rfl
@[simp] theorem setLane_fault (s : State) (d : Dir) (l : Lane) : (s.setLane d l).fault = s.fault := by
  cases d <;> rfl

/-- What `Recv` returning `result` leaves in the lane. -/
def Lane.afterRecv (l : Lane) : Except GoError Msg → Lane
  | .ok msg => { l with pc := .send msg, received := l.received ++ [msg] }
  | .error err => { l with pc := .failed err }

/-- What `Send(msg)` returning `result` leaves in the lane. -/
def Lane.afterSend (l : Lane) (msg : Msg) : Option GoError → Lane
  | none => { l with pc := .recv, sent := l.sent ++ [msg] }
  | some err => { l with pc := .failed err, sent := l.sent ++ [msg] }

/-- A scheduling choice with the results of the socket calls it makes. -/
inductive Action where
  | recv (d : Dir) (result : Except GoError Msg)
  | send (d : Dir) (result : Option GoError)
  | report (d : Dir)
  | receive

/-- One step of one goroutine. -/
def exec (s : State) : Action → Option State
  | .recv d result =>
    match (s.lane d).pc with
    | .recv => some (s.setLane d ((s.lane d).afterRecv result))
    | _ => none
  | .send d result =>
    match (s.lane d).pc with
    | .send msg => some (s.setLane d ((s.lane d).afterSend msg result))
    | _ => none
  | .report d =>
    match (s.lane d).pc with
    | .failed err =>
      (s.errChan.send err).map fun
        | .ok c => { s.setLane d { s.lane d with pc := .exited } with errChan := c }
        | .error f => { s with fault := some f }
    | _ => none
  | .receive =>
    match s.main, s.errChan.recv with
    | .receive, some (err, c) => some { s with errChan := c, main := .returned err }
    | _, _ => none

/-- A panic stops the program. -/
def step (s : State) (a : Action) : Option State := if s.fault = none then exec s a else none

/-- The state once both goroutines are started. -/
def start : State :=
  ⟨⟨.recv, [], []⟩, ⟨.recv, [], []⟩, Chan.make 2, .receive, none⟩

/-- `Proxy(frontend, backend)`. -/
def Proxy {Socket : Type} (frontend backend : Option Socket) : Except GoError State :=
  if frontend.isNone || backend.isNone then .error (.new "frontend and backend sockets are required")
  else .ok start

def Step (s t : State) : Prop := ∃ a, step s a = some t

def Reachable (s : State) : Prop := Relation.ReflTransGen Step start s

/-- The state a schedule leads to, if each of its steps can be taken. -/
def run (s : State) : List Action → Option State
  | [] => some s
  | a :: rest => (step s a).bind fun t => run t rest

theorem reachable_run {s t : State} {schedule : List Action} (reach : Reachable s) (h : run s schedule = some t) :
    Reachable t := by
  induction schedule generalizing s with
  | nil => cases h; exact reach
  | cons a rest ih =>
    simp only [run, Option.bind_eq_some] at h
    obtain ⟨next, moved, later⟩ := h
    exact ih (reach.tail ⟨a, moved⟩) later

/-! ### What one step does -/

section
variable {s t : State} {d : Dir}

theorem step_recv {result : Except GoError Msg} (h : step s (.recv d result) = some t) :
    s.fault = none ∧ (s.lane d).pc = .recv ∧ t = s.setLane d ((s.lane d).afterRecv result) := by
  unfold step at h
  split at h
  · simp only [exec] at h
    split at h
    · cases h; simp_all
    · cases h
  · cases h

theorem step_send {result : Option GoError} (h : step s (.send d result) = some t) :
    s.fault = none ∧ ∃ msg, (s.lane d).pc = .send msg ∧ t = s.setLane d ((s.lane d).afterSend msg result) := by
  unfold step at h
  split at h
  · simp only [exec] at h
    split at h
    · cases h; simp_all
    · cases h
  · cases h

theorem step_report (h : step s (.report d) = some t) :
    s.fault = none ∧ ∃ err, (s.lane d).pc = .failed err ∧
      ((∃ c, s.errChan.send err = some (.ok c) ∧
        t = { s.setLane d { s.lane d with pc := .exited } with errChan := c }) ∨
       (∃ f, s.errChan.send err = some (.error f) ∧ t = { s with fault := some f })) := by
  unfold step at h
  split at h
  · simp only [exec] at h
    refine ⟨‹_›, ?_⟩
    split at h
    · rename_i err _
      refine ⟨err, ‹_›, ?_⟩
      cases sent : s.errChan.send err with
      | none => simp [sent] at h
      | some r => cases r <;> simp_all
    · cases h
  · cases h

theorem step_receive (h : step s .receive = some t) :
    s.fault = none ∧ s.main = .receive ∧
      ∃ err c, s.errChan.recv = some (err, c) ∧ t = { s with errChan := c, main := .returned err } := by
  unfold step at h
  split at h
  · simp only [exec] at h
    split at h
    · cases h; exact ⟨‹_›, ‹_›, _, _, ‹_›, rfl⟩
    · cases h
  · cases h

end

/-! ### The invariant -/

/-- The goroutines that have put their error on `errChan`. -/
def State.reported (s : State) : Nat := s.front.pc.reported + s.back.pc.reported

theorem reported_setLane (s : State) (d : Dir) (l : Lane) :
    (s.setLane d l).reported + (s.lane d).pc.reported = s.reported + l.pc.reported := by
  cases d <;> simp only [State.setLane, State.lane, State.reported] <;> omega

/-- What holds in every reachable state. -/
structure Inv (s : State) : Prop where
  flow : ∀ d, (s.lane d).received = (s.lane d).sent ++ (s.lane d).pc.held
  open_ : s.errChan.closed = false
  cap : s.errChan.cap = 2
  reports : s.errChan.buffer.length + s.main.taken = s.reported
  fault : s.fault = none

theorem inv_start : Inv start := ⟨fun d => by cases d <;> rfl, rfl, rfl, rfl, rfl⟩

private theorem flow_setLane {s : State} {d : Dir} {l : Lane} (inv : Inv s)
    (flows : l.received = l.sent ++ l.pc.held) (d' : Dir) :
    ((s.setLane d l).lane d').received = ((s.setLane d l).lane d').sent ++ ((s.setLane d l).lane d').pc.held := by
  by_cases same : d' = d
  · subst same; simpa using flows
  · simpa [same] using inv.flow d'

/-- A step of one goroutine that reports nothing. -/
theorem inv_setLane {s : State} {d : Dir} {l : Lane} (inv : Inv s) (flows : l.received = l.sent ++ l.pc.held)
    (reported : l.pc.reported = (s.lane d).pc.reported) : Inv (s.setLane d l) := by
  have moved := reported_setLane s d l
  have reports := inv.reports
  refine ⟨flow_setLane inv flows, by simpa using inv.open_, by simpa using inv.cap, ?_, by simpa using inv.fault⟩
  simp only [setLane_errChan, setLane_main]
  omega

theorem step_inv {s t : State} {a : Action} (h : step s a = some t) (inv : Inv s) : Inv t := by
  cases a with
  | recv d result =>
    obtain ⟨-, at_recv, rfl⟩ := step_recv h
    have flows := inv.flow d
    refine inv_setLane inv ?_ ?_ <;> cases result <;> simp_all [Lane.afterRecv]
  | send d result =>
    obtain ⟨-, msg, at_send, rfl⟩ := step_send h
    have flows := inv.flow d
    refine inv_setLane inv ?_ ?_ <;> cases result <;> simp_all [Lane.afterSend]
  | report d =>
    obtain ⟨-, err, at_failed, ⟨c, sent, rfl⟩ | ⟨f, sent, rfl⟩⟩ := step_report h
    · obtain ⟨-, buffer, cap, closed⟩ := Chan.send_eq_some_ok sent
      have reported := reported_setLane s d { s.lane d with pc := .exited }
      have reports := inv.reports
      simp only [at_failed, Pc.reported_failed, Pc.reported_exited] at reported
      refine ⟨flow_setLane inv (by simpa [at_failed] using inv.flow d), by simp [closed, inv.open_],
        by simp [cap, inv.cap], ?_, by simpa using inv.fault⟩
      simp only [State.reported, buffer, setLane_main, List.length_append, List.length_singleton] at reported reports ⊢
      omega
    · exact absurd (Chan.send_eq_some_error sent).1 (by simp [inv.open_])
  | receive =>
    obtain ⟨-, at_receive, err, c, got, rfl⟩ := step_receive h
    rcases Chan.recv_eq_some got with ⟨e, -, buffer, cap, closed⟩ | ⟨-, -, closed, -⟩
    · refine ⟨inv.flow, by simp [closed, inv.open_], by simp [cap, inv.cap], ?_, inv.fault⟩
      have reports := inv.reports
      rw [at_receive, buffer, List.length_cons] at reports
      exact reports
    · simp [inv.open_] at closed

theorem reachable_inv {s : State} (reach : Reachable s) : Inv s := by
  induction reach with
  | refl => exact inv_start
  | tail _ next ih => obtain ⟨a, h⟩ := next; exact step_inv h ih

/-! ### Consequences -/

/-- Each direction sends what it received, in order, and holds at most one message back. -/
theorem reachable_flow {s : State} (reach : Reachable s) (d : Dir) :
    (s.lane d).sent <+: (s.lane d).received ∧ (s.lane d).received.length ≤ (s.lane d).sent.length + 1 := by
  rw [(reachable_inv reach).flow d]
  refine ⟨List.prefix_append _ _, ?_⟩
  cases (s.lane d).pc <;> simp

/-- The frontend's goroutine forwards one message and holds a second; the backend's `Recv` fails
    and `Proxy` returns its error. -/
theorem reachable_flow_holding :
    ∃ s, run start [.recv .frontToBack (.ok (NewMsg [1])), .send .frontToBack none,
        .recv .frontToBack (.ok (NewMsg [2])), .recv .backToFront (.error (.new "EOF")), .report .backToFront,
        .receive] = some s ∧ s.main = .returned (some (.new "EOF")) ∧
      (s.lane .frontToBack).received = [NewMsg [1], NewMsg [2]] ∧ (s.lane .frontToBack).sent = [NewMsg [1]] ∧
      ((s.lane .frontToBack).sent <+: (s.lane .frontToBack).received ∧
        (s.lane .frontToBack).received.length ≤ (s.lane .frontToBack).sent.length + 1) :=
  ⟨_, rfl, rfl, rfl, rfl, reachable_flow (reachable_run .refl (rfl : run start [.recv .frontToBack (.ok (NewMsg [1])),
    .send .frontToBack none, .recv .frontToBack (.ok (NewMsg [2])), .recv .backToFront (.error (.new "EOF")),
    .report .backToFront, .receive] = some _)) .frontToBack⟩

/-- Nothing in the two-socket proxy panics: nothing is closed. -/
theorem reachable_fault {s : State} (reach : Reachable s) : s.fault = none :=
  (reachable_inv reach).fault

/-- The buffer of `errChan` always has room for a failed goroutine's error. -/
theorem report_enabled {s : State} (reach : Reachable s) {d : Dir} {err : GoError}
    (failed : (s.lane d).pc = .failed err) : (step s (.report d)).isSome := by
  have inv := reachable_inv reach
  have room : s.errChan.buffer.length < s.errChan.cap := by
    have reports := inv.reports
    have front := Pc.reported_le_one s.front.pc
    have back := Pc.reported_le_one s.back.pc
    rw [inv.cap]
    cases d <;> simp only [State.lane] at failed <;>
      simp only [State.reported, failed, Pc.reported_failed] at reports <;> omega
  obtain ⟨c, sent, -⟩ := Chan.send_of_open err inv.open_ room
  simp [step, exec, inv.fault, failed, sent]

/-- Both goroutines fail and `Proxy` returns the first error; the second goroutine can still
    report its own. -/
theorem report_enabled_after_return : ∃ s, run start [.recv .frontToBack (.error (.new "EOF")),
      .recv .backToFront (.error (.new "EOF")), .report .frontToBack, .receive] = some s ∧
    (s.lane .backToFront).pc = .failed (.new "EOF") ∧ (step s (.report .backToFront)).isSome :=
  ⟨_, rfl, rfl, report_enabled (reachable_run .refl (rfl : run start [.recv .frontToBack (.error (.new "EOF")),
      .recv .backToFront (.error (.new "EOF")), .report .frontToBack, .receive] = some _)) rfl⟩

/-- A goroutine at `Recv` may call it whatever `Proxy` did: returning cancels nothing. -/
theorem recv_enabled {s : State} (reach : Reachable s) {d : Dir} (at_recv : (s.lane d).pc = .recv)
    (result : Except GoError Msg) : step s (.recv d result) = some (s.setLane d ((s.lane d).afterRecv result)) := by
  simp [step, exec, reachable_fault reach, at_recv]

/-- The frontend's `Recv` fails, `Proxy` returns its error, and the backend goroutine then calls
    `Recv` again. -/
theorem recv_after_return : ∃ s t, Reachable s ∧ s.main = .returned (some (.new "EOF")) ∧
    step s (.recv .backToFront (.ok (NewMsg []))) = some t :=
  ⟨_, _, reachable_run .refl
    (rfl : run start [.recv .frontToBack (.error (.new "EOF")), .report .frontToBack, .receive] = some _), rfl, rfl⟩

end Zmq4.SimpleProxy
