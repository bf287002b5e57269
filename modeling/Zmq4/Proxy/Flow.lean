import Zmq4.Proxy.Model

/-!
`Proxy` forwards what it receives, in order, in both directions (`forwards_in_order`). The
invariant `Flow` splits what `Recv` returned into what was passed to `Send`, the message the
forwarder holds, the channel's buffer, the message the reader holds, and at most one message the
reader dropped when it saw `done` closed; the clones passed to `capture.Send` are the same split
without the message the reader has not cloned yet. Every step keeps it (`step_flows`).
-/

namespace Zmq4.Proxy

/-- The message a reader holds between `Recv` and its send on the channel. -/
def ReaderPc.held : ReaderPc → List Msg
  | .capture msg => [msg]
  | .forward msg => [msg]
  | _ => []

/-- The message a reader holds once it has passed a clone to `capture.Send`. -/
def ReaderPc.cloned : ReaderPc → List Msg
  | .forward msg => [msg]
  | _ => []

/-- The message a forwarder holds between `range` and `Send`. -/
def ForwarderPc.held : ForwarderPc → List Msg
  | .send msg => [msg]
  | _ => []

theorem ReaderPc.held_length (r : ReaderPc) : r.held.length ≤ 1 := by cases r <;> simp [held]
theorem ForwarderPc.held_length (f : ForwarderPc) : f.held.length ≤ 1 := by cases f <;> simp [held]

/-- What every direction keeps, in every reachable state. -/
structure Flow (capture : Bool) (l : Lane) : Prop where
  cap : l.chan.cap = 100
  history : ∃ lost : List Msg, lost.length ≤ 1 ∧ (l.reader = .exited ∨ lost = []) ∧
    l.received = l.sent ++ l.forwarder.held ++ l.chan.buffer ++ l.reader.held ++ lost ∧
    l.captured = if capture then l.sent ++ l.forwarder.held ++ l.chan.buffer ++ l.reader.cloned ++ lost else []

/-! ### One lemma per change of a direction -/

section
variable {capture : Bool} {l : Lane}

theorem flow_start : Flow capture Lane.start :=
  ⟨rfl, [], by simp, .inr rfl, rfl, by cases capture <;> rfl⟩

/-- The reader moves between places where it holds nothing. -/
theorem flow_reader_idle (flow : Flow capture l) {r : ReaderPc} (idle : l.reader.held = [])
    (running : l.reader ≠ .exited) (idle' : r.held = []) :
    Flow capture { l with reader := r } := by
  obtain ⟨cap, lost, one, exited, received, captured⟩ := flow
  have noLoss : lost = [] := exited.resolve_left running
  have cloned : ∀ r : ReaderPc, r.held = [] → r.cloned = [] := by
    intro r; cases r <;> simp [ReaderPc.held, ReaderPc.cloned]
  subst noLoss
  refine ⟨cap, [], by simp, .inr rfl, ?_, ?_⟩
  · simpa [idle, idle'] using received
  · simpa [cloned _ idle, cloned _ idle'] using captured

theorem flow_recv (flow : Flow capture l) (at_recv : l.reader = .recv) (msg : Msg) :
    Flow capture { l with reader := .capture msg, received := l.received ++ [msg] } := by
  obtain ⟨cap, lost, one, exited, received, captured⟩ := flow
  obtain rfl : lost = [] := exited.resolve_left (by simp [at_recv])
  refine ⟨cap, [], by simp, .inr rfl, ?_, ?_⟩
  · simp [received, at_recv, ReaderPc.held]
  · simpa [at_recv, ReaderPc.cloned] using captured

theorem flow_capture (flow : Flow capture l) {msg : Msg} (at_capture : l.reader = .capture msg) :
    Flow capture (l.afterCapture capture msg) := by
  obtain ⟨cap, lost, one, exited, received, captured⟩ := flow
  obtain rfl : lost = [] := exited.resolve_left (by simp [at_capture])
  refine ⟨cap, [], by simp, .inr rfl, ?_, ?_⟩
  · simpa [Lane.afterCapture, at_capture, ReaderPc.held] using received
  · cases capture <;> simp_all [Lane.afterCapture, ReaderPc.cloned]

theorem flow_drop (flow : Flow capture l) {msg : Msg} (at_forward : l.reader = .forward msg) :
    Flow capture { l with reader := .exited } := by
  obtain ⟨cap, lost, one, exited, received, captured⟩ := flow
  obtain rfl : lost = [] := exited.resolve_left (by simp [at_forward])
  refine ⟨cap, [msg], by simp, .inl rfl, ?_, ?_⟩
  · simpa [at_forward, ReaderPc.held] using received
  · simpa [at_forward, ReaderPc.held, ReaderPc.cloned] using captured

theorem flow_push (flow : Flow capture l) {msg : Msg} (at_forward : l.reader = .forward msg) {c : Chan Msg}
    (buffer : c.buffer = l.chan.buffer ++ [msg]) (same : c.cap = l.chan.cap) :
    Flow capture { l with reader := .loop, chan := c } := by
  obtain ⟨cap, lost, one, exited, received, captured⟩ := flow
  obtain rfl : lost = [] := exited.resolve_left (by simp [at_forward])
  refine ⟨same.trans cap, [], by simp, .inr rfl, ?_, ?_⟩
  · simpa [at_forward, buffer, ReaderPc.held] using received
  · simpa [at_forward, buffer, ReaderPc.held, ReaderPc.cloned] using captured

theorem flow_take (flow : Flow capture l) (at_range : l.forwarder = .range) {msg : Msg} {c : Chan Msg}
    (buffer : l.chan.buffer = msg :: c.buffer) (same : c.cap = l.chan.cap) :
    Flow capture { l with forwarder := .send msg, chan := c } := by
  obtain ⟨cap, lost, one, exited, received, captured⟩ := flow
  refine ⟨same.trans cap, lost, one, exited, ?_, ?_⟩
  · simpa [at_range, buffer, ForwarderPc.held] using received
  · simpa [at_range, buffer, ForwarderPc.held] using captured

theorem flow_forwarder_idle (flow : Flow capture l) {f : ForwarderPc} (idle : l.forwarder.held = [])
    (idle' : f.held = []) : Flow capture { l with forwarder := f } := by
  obtain ⟨cap, lost, one, exited, received, captured⟩ := flow
  exact ⟨cap, lost, one, exited, by simpa [idle, idle'] using received, by simpa [idle, idle'] using captured⟩

theorem flow_send (flow : Flow capture l) {msg : Msg} (at_send : l.forwarder = .send msg) (result : Option GoError) :
    Flow capture (l.afterSend msg result) := by
  obtain ⟨cap, lost, one, exited, received, captured⟩ := flow
  cases result <;>
    exact ⟨cap, lost, one, exited, by simpa [Lane.afterSend, at_send, ForwarderPc.held] using received,
      by simpa [Lane.afterSend, at_send, ForwarderPc.held] using captured⟩

theorem flow_chan (flow : Flow capture l) {c : Chan Msg} (buffer : c.buffer = l.chan.buffer) (same : c.cap = l.chan.cap) :
    Flow capture { l with chan := c } := by
  obtain ⟨cap, lost, one, exited, received, captured⟩ := flow
  exact ⟨same.trans cap, lost, one, exited, by simpa [buffer] using received, by simpa [buffer] using captured⟩

end

/-! ### Every step keeps every direction's flow -/

/-- Both directions keep their flow. -/
def Flows (capture : Bool) (s : State) : Prop := ∀ d, Flow capture (s.lane d)

section
variable {capture : Bool}

theorem flows_setLane {s : State} {d : Dir} {l : Lane} (flows : Flows capture s) (flow : Flow capture l) :
    Flows capture (s.setLane d l) := by
  intro d'
  by_cases same : d' = d
  · subst same; simpa using flow
  · simpa [same] using flows d'

theorem flows_report {s t : State} {err : GoError} {leave : State → State} (flows : Flows capture s)
    (h : s.report err leave = some t)
    (left : ∀ c, Flows capture { s with errChan := c } → Flows capture (leave { s with errChan := c })) :
    Flows capture t := by
  rcases report_eq_some h with ⟨c, -, rfl⟩ | ⟨f, -, rfl⟩
  · exact left c fun d => by simpa using flows d
  · exact fun d => by simpa using flows d

theorem step_flows {s t : State} {a : Action} (h : step capture s a = some t) (flows : Flows capture s) :
    Flows capture t := by
  cases a with
  | check d =>
    obtain ⟨-, at_loop, rfl⟩ := step_check h
    refine flows_setLane flows (flow_reader_idle (flows d) (by simp [at_loop, ReaderPc.held]) (by simp [at_loop]) ?_)
    split <;> rfl
  | recv d result =>
    obtain ⟨-, at_recv, rfl⟩ := step_recv h
    cases result with
    | ok msg => exact flows_setLane flows (flow_recv (flows d) at_recv msg)
    | error err => exact flows_setLane flows (flow_reader_idle (flows d) (by simp [at_recv, ReaderPc.held]) (by simp [at_recv]) rfl)
  | report d =>
    obtain ⟨-, err, at_failed, reported⟩ := step_report h
    refine flows_report flows reported fun c flows' => flows_setLane flows' ?_
    exact flow_reader_idle (flows' d) (by simp [at_failed, ReaderPc.held]) (by simp [at_failed]) rfl
  | quit d =>
    obtain ⟨-, -, ⟨err, at_failed⟩ | ⟨msg, at_forward⟩, rfl⟩ := step_quit h
    · exact flows_setLane flows (flow_reader_idle (flows d) (by simp [at_failed, ReaderPc.held]) (by simp [at_failed]) rfl)
    · exact flows_setLane flows (flow_drop (flows d) at_forward)
  | capture d =>
    obtain ⟨-, msg, at_capture, rfl⟩ := step_capture h
    exact flows_setLane flows (flow_capture (flows d) at_capture)
  | push d =>
    obtain ⟨-, msg, at_forward, ⟨c, sent, rfl⟩ | ⟨f, -, rfl⟩⟩ := step_push h
    · obtain ⟨-, buffer, same, -⟩ := Chan.send_eq_some_ok sent
      exact flows_setLane flows (flow_push (flows d) at_forward buffer same)
    · exact fun d => by simpa using flows d
  | take d =>
    obtain ⟨-, at_range, ⟨msg, c, got, rfl⟩ | ⟨c, got, rfl⟩⟩ := step_take h
    · obtain ⟨w, same, buffer, cap, -⟩ | ⟨none, -⟩ := Chan.recv_eq_some got
      · cases same
        exact flows_setLane flows (flow_take (flows d) at_range buffer cap)
      · cases none
    · exact flows_setLane flows (flow_forwarder_idle (flows d) (by simp [at_range, ForwarderPc.held]) rfl)
  | send d result =>
    obtain ⟨-, msg, at_send, rfl⟩ := step_send h
    exact flows_setLane flows (flow_send (flows d) at_send result)
  | forwarderReport d =>
    obtain ⟨-, err, at_failed, reported⟩ := step_forwarderReport h
    refine flows_report flows reported fun c flows' => flows_setLane flows' ?_
    exact flow_forwarder_idle (flows' d) (by simp [at_failed, ForwarderPc.held]) rfl
  | forwarderQuit d =>
    obtain ⟨-, -, ⟨err, at_failed⟩, rfl⟩ := step_forwarderQuit h
    exact flows_setLane flows (flow_forwarder_idle (flows d) (by simp [at_failed, ForwarderPc.held]) rfl)
  | receive =>
    obtain ⟨-, -, err, c, -, rfl⟩ := step_receive h
    exact fun d => by simpa using flows d
  | closeDone =>
    obtain ⟨-, err, -, ⟨c, -, rfl⟩ | ⟨f, -, rfl⟩⟩ := step_closeDone h <;> exact fun d => by simpa using flows d
  | wait =>
    obtain ⟨-, err, -, -, -, rfl⟩ := step_wait h
    exact fun d => by simpa using flows d
  | close =>
    obtain ⟨-, d, err, -, ⟨c, closed, rfl⟩ | ⟨f, -, rfl⟩⟩ := step_close h
    · obtain ⟨-, buffer, same, -⟩ := Chan.close_eq_ok closed
      exact flows_setLane (fun d => by simpa using flows d) (flow_chan (flows d) buffer same)
    · exact fun d => by simpa using flows d

theorem reachable_flows {s : State} (reach : Reachable capture s) : Flows capture s := by
  induction reach with
  | refl => intro d; cases d <;> exact flow_start
  | tail _ next ih => obtain ⟨a, h⟩ := next; exact step_flows h ih

end

end Zmq4.Proxy

namespace Zmq4.Proxy

theorem ReaderPc.cloned_prefix {r : ReaderPc} {lost : List Msg} (stopped : r = .exited ∨ lost = []) :
    r.cloned ++ lost <+: r.held ++ lost := by
  cases r with
  | capture msg => obtain rfl : lost = [] := stopped.resolve_left (by simp); simp [cloned, held]
  | _ => simp [cloned, held]

theorem ReaderPc.held_lost_length {r : ReaderPc} {lost : List Msg} (one : lost.length ≤ 1)
    (stopped : r = .exited ∨ lost = []) : r.held.length + lost.length ≤ 1 := by
  rcases stopped with rfl | rfl
  · simpa [held] using one
  · simpa using r.held_length

/-- For any interleaving of the four goroutines and any results of their socket calls, each
    direction passes to `Send` a prefix of the clones its reader passed to `capture.Send` (with a
    capture socket), which is a prefix of what `Recv` returned; and at most 102 received messages
    have not been passed to `Send`. -/
theorem forwards_in_order {capture : Bool} {s : State} (reach : Reachable capture s) (d : Dir) :
    (s.lane d).sent <+: (s.lane d).received ∧
      (capture = true → (s.lane d).sent <+: (s.lane d).captured ∧ (s.lane d).captured <+: (s.lane d).received) ∧
      (s.lane d).received.length ≤ (s.lane d).sent.length + 102 := by
  obtain ⟨cap, lost, one, stopped, received, captured⟩ := reachable_flows reach d
  have buffered : (s.lane d).chan.buffer.length ≤ 100 := cap ▸ (s.lane d).chan.bounded
  have held := ReaderPc.held_lost_length one stopped
  have forwarding := (s.lane d).forwarder.held_length
  refine ⟨by simp [received], fun capturing => ?_, ?_⟩
  · simp only [capturing, if_true] at captured
    refine ⟨by simp [captured], ?_⟩
    rw [captured, received, List.append_assoc _ _ lost, List.append_assoc _ _ lost]
    exact (List.prefix_append_right_inj _).mpr (ReaderPc.cloned_prefix stopped)
  · simp only [received, List.length_append]
    omega

/-- After `failAfterForward`, with `Proxy` returned: the frontend's direction received and captured
    two messages, sent the first and still buffers the second. -/
theorem forwards_in_order_returned :
    ∃ s, run true start failAfterForward = some s ∧ s.main = .returned (some (.new "EOF")) ∧
      (s.lane .frontToBack).received = [NewMsg [1], NewMsg [2]] ∧
      (s.lane .frontToBack).captured = [NewMsg [1], NewMsg [2]] ∧ (s.lane .frontToBack).sent = [NewMsg [1]] ∧
      (s.lane .frontToBack).chan.buffer = [NewMsg [2]] ∧
      ((s.lane .frontToBack).sent <+: (s.lane .frontToBack).received ∧
        (true = true → (s.lane .frontToBack).sent <+: (s.lane .frontToBack).captured ∧
          (s.lane .frontToBack).captured <+: (s.lane .frontToBack).received) ∧
        (s.lane .frontToBack).received.length ≤ (s.lane .frontToBack).sent.length + 102) :=
  ⟨_, rfl, rfl, rfl, rfl, rfl, rfl,
    forwards_in_order (reachable_run .refl (rfl : run true start failAfterForward = some _)) .frontToBack⟩

end Zmq4.Proxy
