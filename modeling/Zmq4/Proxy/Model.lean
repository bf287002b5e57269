import Zmq4.Basic

/-!
The three-socket `Proxy` of `proxy.go` as a transition system. Each direction has a reader
goroutine (`frontend.Recv`, optional `capture.Send` of a clone, then a send on the buffered
channel `frontToBack`) and a forwarder (`for msg := range frontToBack { backend.Send(msg) }`);
`Proxy` itself waits for the first error on `errChan`, closes `done`, waits for the readers and
closes both channels. A `step` is one move of one goroutine, with the results of the socket
calls it makes as part of the `Action`; a panic is recorded in `fault` and stops the program.
Each direction also keeps what its socket calls saw (`received`, `captured`, `sent`).
-/

namespace Zmq4.Proxy

/-- Where a reader goroutine is. -/
inductive ReaderPc where
  /-- `select { case <-done: return; default: ... }`. -/
  | loop
  /-- `msg, err := frontend.Recv()`. -/
  | recv
  /-- `select { case errChan <- err: case <-done: }; return`. -/
  | failed (err : GoError)
  /-- `if capture != nil { capture.Send(msg.Clone()) }`. -/
  | capture (msg : Msg)
  /-- `select { case frontToBack <- msg: case <-done: return }`. -/
  | forward (msg : Msg)
  | exited
  deriving DecidableEq, Repr

/-- Where a forwarding goroutine is. -/
inductive ForwarderPc where
  /-- `for msg := range frontToBack`. -/
  | range
  /-- `backend.Send(msg)`. -/
  | send (msg : Msg)
  /-- `select { case errChan <- err: case <-done: }; return`. -/
  | failed (err : GoError)
  | exited
  deriving DecidableEq, Repr

/-- Where `Proxy` is once its goroutines run. -/
inductive MainPc where
  /-- `err := <-errChan`. -/
  | receive
  /-- `close(done)`. -/
  | closeDone (err : Option GoError)
  /-- `wg.Wait()`. -/
  | wait (err : Option GoError)
  /-- `close(frontToBack)`, then `close(backToFront)`. -/
  | close (d : Dir) (err : Option GoError)
  /-- `return err`. -/
  | returned (err : Option GoError)
  deriving DecidableEq, Repr

/-- One direction: its two goroutines, its channel, and what its socket calls saw: the messages
    `Recv` returned, the clones its reader passed to `capture.Send`, and the messages passed to
    `Send`. -/
structure Lane where
  reader : ReaderPc
  forwarder : ForwarderPc
  chan : Chan Msg
  received : List Msg
  captured : List Msg
  sent : List Msg
  deriving DecidableEq

structure State where
  front : Lane
  back : Lane
  done : Chan Unit
  errChan : Chan GoError
  main : MainPc
  fault : Option Fault
  deriving DecidableEq

def State.lane (s : State) : Dir → Lane
  | .frontToBack => s.front
  | .backToFront => s.back

def State.setLane (s : State) : Dir → Lane → State
  | .frontToBack, l => { s with front := l }
  | .backToFront, l => { s with back := l }

section
variable (s : State) (d : Dir) (l : Lane)

@[simp] theorem lane_setLane : (s.setLane d l).lane d = l := by cases d <;> rfl
@[simp] theorem lane_setLane_of_ne {d' : Dir} (other : d' ≠ d) : (s.setLane d l).lane d' = s.lane d' := by
  cases d <;> cases d' <;> simp_all [State.setLane, State.lane]
@[simp] theorem setLane_done : (s.setLane d l).done = s.done := by cases d <;> rfl
@[simp] theorem setLane_errChan : (s.setLane d l).errChan = s.errChan := by cases d <;> rfl
@[simp] theorem setLane_main : (s.setLane d l).main = s.main := by cases d <;> rfl
@[simp] theorem setLane_fault : (s.setLane d l).fault = s.fault := by cases d <;> rfl
@[simp] theorem lane_errChan (c : Chan GoError) : ({ s with errChan := c } : State).lane d = s.lane d := by
  cases d <;> rfl
@[simp] theorem lane_done (c : Chan Unit) : ({ s with done := c } : State).lane d = s.lane d := by cases d <;> rfl
@[simp] theorem lane_main (m : MainPc) : ({ s with main := m } : State).lane d = s.lane d := by cases d <;> rfl
@[simp] theorem lane_fault (f : Option Fault) : ({ s with fault := f } : State).lane d = s.lane d := by
  cases d <;> rfl

end

/-- A scheduling choice, with the results of the socket calls it makes. -/
inductive Action where
  | check (d : Dir)
  | recv (d : Dir) (result : Except GoError Msg)
  /-- The reader's `errChan <- err` case. -/
  | report (d : Dir)
  /-- The reader's `<-done` case, after a failed `Recv` or before the send on the channel. -/
  | quit (d : Dir)
  | capture (d : Dir)
  /-- The reader's `frontToBack <- msg` case. -/
  | push (d : Dir)
  /-- The forwarder's `range` step. -/
  | take (d : Dir)
  | send (d : Dir) (result : Option GoError)
  | forwarderReport (d : Dir)
  | forwarderQuit (d : Dir)
  | receive
  | closeDone
  | wait
  | close

/-- `errChan <- err` as the chosen `select` case, after which the goroutine returns (`leave`). -/
def State.report (s : State) (err : GoError) (leave : State → State) : Option State :=
  (s.errChan.send err).map fun
    | .ok c => leave { s with errChan := c }
    | .error f => { s with fault := some f }

/-- What `Recv` returning `result` leaves in the lane. -/
def Lane.afterRecv (l : Lane) : Except GoError Msg → Lane
  | .ok msg => { l with reader := .capture msg, received := l.received ++ [msg] }
  | .error err => { l with reader := .failed err }

/-- What the reader leaves after `capture.Send(msg.Clone())`, if there is a capture socket. -/
def Lane.afterCapture (l : Lane) (capture : Bool) (msg : Msg) : Lane :=
  { l with reader := .forward msg, captured := if capture then l.captured ++ [msg.clone] else l.captured }

/-- What `Send(msg)` returning `result` leaves in the lane. -/
def Lane.afterSend (l : Lane) (msg : Msg) (result : Option GoError) : Lane :=
  { l with sent := l.sent ++ [msg], forwarder := match result with | none => .range | some err => .failed err }

/-- The close after `close(d)`: `frontToBack` first. -/
def MainPc.afterClose (err : Option GoError) : Dir → MainPc
  | .frontToBack => .close .backToFront err
  | .backToFront => .returned err

/-- One move of one goroutine; `capture` is `capture != nil`. `<-done` is ready exactly when
    `done` is closed: nothing is ever sent on it. The `WaitGroup` counts the readers that have not
    returned. -/
def exec (capture : Bool) (s : State) : Action → Option State
  | .check d =>
    match (s.lane d).reader with
    | .loop => some (s.setLane d { s.lane d with reader := if s.done.closed then .exited else .recv })
    | _ => none
  | .recv d result =>
    match (s.lane d).reader with
    | .recv => some (s.setLane d ((s.lane d).afterRecv result))
    | _ => none
  | .report d =>
    match (s.lane d).reader with
    | .failed err => s.report err fun s => s.setLane d { s.lane d with reader := .exited }
    | _ => none
  | .quit d =>
    match (s.lane d).reader with
    | .failed _ | .forward _ =>
      if s.done.closed then some (s.setLane d { s.lane d with reader := .exited }) else none
    | _ => none
  | .capture d =>
    match (s.lane d).reader with
    | .capture msg => some (s.setLane d ((s.lane d).afterCapture capture msg))
    | _ => none
  | .push d =>
    match (s.lane d).reader with
    | .forward msg =>
      ((s.lane d).chan.send msg).map fun
        | .ok c => s.setLane d { s.lane d with reader := .loop, chan := c }
        | .error f => { s with fault := some f }
    | _ => none
  | .take d =>
    match (s.lane d).forwarder, (s.lane d).chan.recv with
    | .range, some (some msg, c) => some (s.setLane d { s.lane d with forwarder := .send msg, chan := c })
    | .range, some (none, _) => some (s.setLane d { s.lane d with forwarder := .exited })
    | _, _ => none
  | .send d result =>
    match (s.lane d).forwarder with
    | .send msg => some (s.setLane d ((s.lane d).afterSend msg result))
    | _ => none
  | .forwarderReport d =>
    match (s.lane d).forwarder with
    | .failed err => s.report err fun s => s.setLane d { s.lane d with forwarder := .exited }
    | _ => none
  | .forwarderQuit d =>
    match (s.lane d).forwarder with
    | .failed _ => if s.done.closed then some (s.setLane d { s.lane d with forwarder := .exited }) else none
    | _ => none
  | .receive =>
    match s.main, s.errChan.recv with
    | .receive, some (err, c) => some { s with errChan := c, main := .closeDone err }
    | _, _ => none
  | .closeDone =>
    match s.main with
    | .closeDone err =>
      some (match s.done.close with
        | .ok c => { s with done := c, main := .wait err }
        | .error f => { s with fault := some f })
    | _ => none
  | .wait =>
    match s.main with
    | .wait err =>
      if s.front.reader = .exited ∧ s.back.reader = .exited then some { s with main := .close .frontToBack err }
      else none
    | _ => none
  | .close =>
    match s.main with
    | .close d err =>
      some (match (s.lane d).chan.close with
        | .ok c => { s.setLane d { s.lane d with chan := c } with main := MainPc.afterClose err d }
        | .error f => { s with fault := some f })
    | _ => none

/-- A panic stops every goroutine. -/
def step (capture : Bool) (s : State) (a : Action) : Option State :=
  if s.fault = none then exec capture s a else none

/-- A direction before any message: `make(chan Msg, 100)`. -/
def Lane.start : Lane := ⟨.loop, .range, Chan.make 100, [], [], []⟩

/-- The state once the four goroutines are started. -/
def start : State := ⟨Lane.start, Lane.start, Chan.make 0, Chan.make 2, .receive, none⟩

def Step (capture : Bool) (s t : State) : Prop := ∃ a, step capture s a = some t

/-- The states of `Proxy` with (`capture`) or without a capture socket. -/
def Reachable (capture : Bool) (s : State) : Prop := Relation.ReflTransGen (Step capture) start s

/-- The state a schedule leads to, if each of its steps can be taken. -/
def run (capture : Bool) (s : State) : List Action → Option State
  | [] => some s
  | a :: rest => (step capture s a).bind fun t => run capture t rest

theorem reachable_run {capture : Bool} {s t : State} {schedule : List Action} (reach : Reachable capture s)
    (h : run capture s schedule = some t) : Reachable capture t := by
  induction schedule generalizing s with
  | nil => cases h; exact reach
  | cons a rest ih =>
    simp only [run, Option.bind_eq_some] at h
    obtain ⟨next, moved, later⟩ := h
    exact ih (reach.tail ⟨a, moved⟩) later

/-- A schedule with a capture socket: the frontend's reader forwards `NewMsg [1]` and leaves
    `NewMsg [2]` in `frontToBack`, the backend's `Recv` fails, `Proxy` receives that error, closes
    `done`, waits for the readers, closes both channels and returns. -/
def failAfterForward : List Action :=
  [.check .frontToBack, .recv .frontToBack (.ok (NewMsg [1])), .capture .frontToBack, .push .frontToBack,
    .take .frontToBack, .send .frontToBack none,
    .check .frontToBack, .recv .frontToBack (.ok (NewMsg [2])), .capture .frontToBack, .push .frontToBack,
    .check .backToFront, .recv .backToFront (.error (.new "EOF")), .report .backToFront,
    .receive, .closeDone, .check .frontToBack, .wait, .close, .close]

example : ((run true start failAfterForward).map fun s => (s.main, (s.lane .frontToBack).chan.buffer)) =
    some (.returned (some (.new "EOF")), [NewMsg [2]]) := rfl

/-! ### What each action does -/

section
variable {capture : Bool} {s t : State} {d : Dir}

theorem report_eq_some {err : GoError} {leave : State → State} (h : s.report err leave = some t) :
    (∃ c, s.errChan.send err = some (.ok c) ∧ t = leave { s with errChan := c }) ∨
      (∃ f, s.errChan.send err = some (.error f) ∧ t = { s with fault := some f }) := by
  unfold State.report at h
  cases sent : s.errChan.send err with
  | none => simp [sent] at h
  | some r => cases r <;> simp_all

private theorem exec_of_step {a : Action} (h : step capture s a = some t) :
    s.fault = none ∧ exec capture s a = some t := by
  unfold step at h
  split at h
  · exact ⟨‹_›, h⟩
  · cases h

theorem step_check (h : step capture s (.check d) = some t) : s.fault = none ∧ (s.lane d).reader = .loop ∧
    t = s.setLane d { s.lane d with reader := if s.done.closed then .exited else .recv } := by
  obtain ⟨ok, h⟩ := exec_of_step h
  simp only [exec] at h
  split at h <;> simp_all

theorem step_recv {result : Except GoError Msg} (h : step capture s (.recv d result) = some t) :
    s.fault = none ∧ (s.lane d).reader = .recv ∧ t = s.setLane d ((s.lane d).afterRecv result) := by
  obtain ⟨ok, h⟩ := exec_of_step h
  simp only [exec] at h
  split at h <;> simp_all

theorem step_report (h : step capture s (.report d) = some t) : s.fault = none ∧ ∃ err, (s.lane d).reader = .failed err ∧
    s.report err (fun s => s.setLane d { s.lane d with reader := .exited }) = some t := by
  obtain ⟨ok, h⟩ := exec_of_step h
  simp only [exec] at h
  split at h <;> simp_all

theorem step_quit (h : step capture s (.quit d) = some t) : s.fault = none ∧ s.done.closed = true ∧
    ((∃ err, (s.lane d).reader = .failed err) ∨ (∃ msg, (s.lane d).reader = .forward msg)) ∧
    t = s.setLane d { s.lane d with reader := .exited } := by
  obtain ⟨ok, h⟩ := exec_of_step h
  simp only [exec] at h
  split at h <;> (try split at h) <;> simp_all

theorem step_capture (h : step capture s (.capture d) = some t) : s.fault = none ∧
    ∃ msg, (s.lane d).reader = .capture msg ∧ t = s.setLane d ((s.lane d).afterCapture capture msg) := by
  obtain ⟨ok, h⟩ := exec_of_step h
  simp only [exec] at h
  split at h <;> simp_all

theorem step_push (h : step capture s (.push d) = some t) : s.fault = none ∧ ∃ msg, (s.lane d).reader = .forward msg ∧
    ((∃ c, (s.lane d).chan.send msg = some (.ok c) ∧ t = s.setLane d { s.lane d with reader := .loop, chan := c }) ∨
     (∃ f, (s.lane d).chan.send msg = some (.error f) ∧ t = { s with fault := some f })) := by
  obtain ⟨ok, h⟩ := exec_of_step h
  simp only [exec] at h
  split at h
  · rename_i msg _
    refine ⟨ok, msg, ‹_›, ?_⟩
    cases sent : (s.lane d).chan.send msg with
    | none => simp [sent] at h
    | some r => cases r <;> simp_all
  · cases h

theorem step_take (h : step capture s (.take d) = some t) : s.fault = none ∧ (s.lane d).forwarder = .range ∧
    ((∃ msg c, (s.lane d).chan.recv = some (some msg, c) ∧
      t = s.setLane d { s.lane d with forwarder := .send msg, chan := c }) ∨
     (∃ c, (s.lane d).chan.recv = some (none, c) ∧ t = s.setLane d { s.lane d with forwarder := .exited })) := by
  obtain ⟨ok, h⟩ := exec_of_step h
  simp only [exec] at h
  split at h
  · cases h; exact ⟨ok, ‹_›, .inl ⟨_, _, ‹_›, rfl⟩⟩
  · cases h; exact ⟨ok, ‹_›, .inr ⟨_, ‹_›, rfl⟩⟩
  · cases h

theorem step_send {result : Option GoError} (h : step capture s (.send d result) = some t) : s.fault = none ∧
    ∃ msg, (s.lane d).forwarder = .send msg ∧ t = s.setLane d ((s.lane d).afterSend msg result) := by
  obtain ⟨ok, h⟩ := exec_of_step h
  simp only [exec] at h
  split at h <;> simp_all

theorem step_forwarderReport (h : step capture s (.forwarderReport d) = some t) : s.fault = none ∧
    ∃ err, (s.lane d).forwarder = .failed err ∧
      s.report err (fun s => s.setLane d { s.lane d with forwarder := .exited }) = some t := by
  obtain ⟨ok, h⟩ := exec_of_step h
  simp only [exec] at h
  split at h <;> simp_all

theorem step_forwarderQuit (h : step capture s (.forwarderQuit d) = some t) : s.fault = none ∧ s.done.closed = true ∧
    (∃ err, (s.lane d).forwarder = .failed err) ∧ t = s.setLane d { s.lane d with forwarder := .exited } := by
  obtain ⟨ok, h⟩ := exec_of_step h
  simp only [exec] at h
  split at h <;> (try split at h) <;> simp_all

theorem step_receive (h : step capture s .receive = some t) : s.fault = none ∧ s.main = .receive ∧
    ∃ err c, s.errChan.recv = some (err, c) ∧ t = { s with errChan := c, main := .closeDone err } := by
  obtain ⟨ok, h⟩ := exec_of_step h
  simp only [exec] at h
  split at h
  · cases h; exact ⟨ok, ‹_›, _, _, ‹_›, rfl⟩
  · cases h

theorem step_closeDone (h : step capture s .closeDone = some t) : s.fault = none ∧ ∃ err, s.main = .closeDone err ∧
    ((∃ c, s.done.close = .ok c ∧ t = { s with done := c, main := .wait err }) ∨
     (∃ f, s.done.close = .error f ∧ t = { s with fault := some f })) := by
  obtain ⟨ok, h⟩ := exec_of_step h
  simp only [exec] at h
  split at h
  · rename_i err _
    refine ⟨ok, err, ‹_›, ?_⟩
    cases closed : s.done.close <;> simp_all
  · cases h

theorem step_wait (h : step capture s .wait = some t) : s.fault = none ∧ ∃ err, s.main = .wait err ∧
    s.front.reader = .exited ∧ s.back.reader = .exited ∧ t = { s with main := .close .frontToBack err } := by
  obtain ⟨ok, h⟩ := exec_of_step h
  simp only [exec] at h
  split at h
  · split at h <;> simp_all
  · cases h

theorem step_close (h : step capture s .close = some t) : s.fault = none ∧ ∃ d err, s.main = .close d err ∧
    ((∃ c, (s.lane d).chan.close = .ok c ∧
      t = ({ s with main := MainPc.afterClose err d } : State).setLane d { s.lane d with chan := c }) ∨
     (∃ f, (s.lane d).chan.close = .error f ∧ t = { s with fault := some f })) := by
  obtain ⟨ok, h⟩ := exec_of_step h
  simp only [exec] at h
  split at h
  · rename_i d err _
    refine ⟨ok, d, err, ‹_›, ?_⟩
    cases closed : (s.lane d).chan.close with
    | ok c => simp only [closed, Option.some.injEq] at h; subst h; exact .inl ⟨c, rfl, by cases d <;> rfl⟩
    | error f => simp_all
  · cases h

end

end Zmq4.Proxy

namespace Zmq4

/-- `Proxy(frontend, backend, capture)` up to the start of its goroutines: whether they see a
    capture socket, with which they run `Proxy.step`, and the state they start in. -/
def Proxy {Socket : Type} (frontend backend capture : Option Socket) : Except GoError (Bool × Proxy.State) :=
  if frontend.isNone || backend.isNone then .error (.new "frontend and backend sockets are required")
  else .ok (capture.isSome, Proxy.start)

end Zmq4
