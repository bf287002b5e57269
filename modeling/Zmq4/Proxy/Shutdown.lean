import Zmq4.Proxy.Model
import Zmq4.SimpleProxy

/-!
How `Proxy` of `proxy.go` shuts down. Whether `done` and each channel are closed is fixed by
how far `Proxy` itself has got, and once it is past `wg.Wait()` both readers have returned
(`Shutdown`). Hence no send on a closed channel and no second close can happen, so nothing
panics, and once `Proxy` has returned no `Recv` and no `capture.Send` is made again
(`shutdown_safe`). `wg` does not count the forwarders, which go on draining the channels and
calling `Send` after `Proxy` has returned; the two-socket `Proxy` has no way to stop its
goroutines at all (`goroutines_outlive_proxy`).
-/

namespace Zmq4.Proxy

/-- How far `Proxy` has got, counting the closes. -/
def MainPc.stage : MainPc → Nat
  | .receive => 0
  | .closeDone _ => 1
  | .wait _ => 2
  | .close .frontToBack _ => 3
  | .close .backToFront _ => 4
  | .returned _ => 5

/-- The stage from which the direction's channel is closed. -/
def closedAt : Dir → Nat
  | .frontToBack => 4
  | .backToFront => 5

section
variable {err : Option GoError}

@[simp] theorem MainPc.stage_receive : MainPc.receive.stage = 0 := rfl
@[simp] theorem MainPc.stage_closeDone : (MainPc.closeDone err).stage = 1 := rfl
@[simp] theorem MainPc.stage_wait : (MainPc.wait err).stage = 2 := rfl
@[simp] theorem MainPc.stage_close_frontToBack : (MainPc.close .frontToBack err).stage = 3 := rfl
@[simp] theorem MainPc.stage_close_backToFront : (MainPc.close .backToFront err).stage = 4 := rfl
theorem MainPc.stage_close (d : Dir) : (MainPc.close d err).stage + 1 = closedAt d := by cases d <;> rfl
@[simp] theorem MainPc.stage_returned : (MainPc.returned err).stage = 5 := rfl
@[simp] theorem MainPc.stage_afterClose (d : Dir) : (MainPc.afterClose err d).stage = closedAt d := by
  cases d <;> rfl

theorem closedAt_bounds (d : Dir) : 4 ≤ closedAt d ∧ closedAt d ≤ 5 := by cases d <;> decide

end

/-- What holds in every reachable state. -/
structure Shutdown (s : State) : Prop where
  done : s.done.closed = decide (2 ≤ s.main.stage)
  chans : ∀ d, (s.lane d).chan.closed = decide (closedAt d ≤ s.main.stage)
  readers : ∀ d, 3 ≤ s.main.stage → (s.lane d).reader = .exited
  errChan : s.errChan.closed = false
  fault : s.fault = none

theorem shutdown_start : Shutdown start :=
  ⟨rfl, fun d => by cases d <;> rfl, fun _ early => absurd early (by decide), rfl, rfl⟩

section
variable {capture : Bool} {s t : State} {d : Dir}

/-- A reader that has not returned means `Proxy` is not past `wg.Wait()`. -/
theorem stage_of_running (sd : Shutdown s) (running : (s.lane d).reader ≠ .exited) : s.main.stage < 3 :=
  Nat.lt_of_not_le fun late => running (sd.readers d late)

theorem shutdown_setLane (sd : Shutdown s) {l : Lane} (closed : l.chan.closed = (s.lane d).chan.closed)
    (readers : 3 ≤ s.main.stage → l.reader = .exited) : Shutdown (s.setLane d l) := by
  refine ⟨by simpa using sd.done, fun d' => ?_, fun d' late => ?_, by simpa using sd.errChan,
    by simpa using sd.fault⟩
  · by_cases same : d' = d
    · subst same; simpa [closed] using sd.chans d'
    · simpa [same] using sd.chans d'
  · by_cases same : d' = d
    · subst same; simpa using readers (by simpa using late)
    · simpa [same] using sd.readers d' (by simpa using late)

/-- A step of `Proxy` before its closes, which leaves both directions alone. -/
theorem shutdown_advance (sd : Shutdown s) (lanes : ∀ d, t.lane d = s.lane d)
    (stage : t.main.stage = s.main.stage + 1) (early : t.main.stage ≤ 3)
    (done : t.done.closed = decide (2 ≤ t.main.stage))
    (readers : t.main.stage = 3 → ∀ d, (s.lane d).reader = .exited)
    (errChan : t.errChan.closed = false) (fault : t.fault = none) : Shutdown t := by
  refine ⟨done, fun d => ?_, fun d late => ?_, errChan, fault⟩
  · have bounds := closedAt_bounds d
    rw [lanes, sd.chans d]
    exact decide_eq_decide.mpr (by omega)
  · rw [lanes]; exact readers (by omega) d

/-- A step of a reader that has not returned, which leaves the channel's state alone. -/
theorem shutdown_reader (sd : Shutdown s) (running : (s.lane d).reader ≠ .exited) {l : Lane}
    (closed : l.chan.closed = (s.lane d).chan.closed) : Shutdown (s.setLane d l) :=
  shutdown_setLane sd closed fun late => absurd late (by have := stage_of_running sd running; omega)

/-- A step of a forwarder, which leaves the reader and the channel's state alone. -/
theorem shutdown_forwarder (sd : Shutdown s) {l : Lane} (closed : l.chan.closed = (s.lane d).chan.closed)
    (reader : l.reader = (s.lane d).reader) : Shutdown (s.setLane d l) :=
  shutdown_setLane sd closed fun late => reader ▸ sd.readers d late

theorem shutdown_report {err : GoError} {leave : State → State} (sd : Shutdown s) (h : s.report err leave = some t)
    (left : ∀ c, c.closed = false → Shutdown { s with errChan := c } → Shutdown (leave { s with errChan := c })) :
    Shutdown t := by
  rcases report_eq_some h with ⟨c, sent, rfl⟩ | ⟨f, sent, -⟩
  · obtain ⟨-, -, -, closed⟩ := Chan.send_eq_some_ok sent
    rw [sd.errChan] at closed
    exact left c closed ⟨sd.done, fun d => by simpa using sd.chans d, fun d => by simpa using sd.readers d,
      closed, sd.fault⟩
  · exact absurd (Chan.send_eq_some_error sent).1 (by simp [sd.errChan])

/-- The channel `Proxy` is about to close is still open. -/
theorem chan_open_at_close (sd : Shutdown s) {err : Option GoError} (at_close : s.main = .close d err) :
    (s.lane d).chan.closed = false := by
  have stage := @MainPc.stage_close err d
  rw [sd.chans d, at_close]
  exact decide_eq_false (by omega)

/-- `Proxy` closing a direction's channel, which its next stage counts as closed. -/
theorem shutdown_close (sd : Shutdown s) {err : Option GoError} (at_close : s.main = .close d err)
    {c : Chan Msg} (nowClosed : c.closed = true) :
    Shutdown (({ s with main := MainPc.afterClose err d } : State).setLane d { s.lane d with chan := c }) := by
  have stage := @MainPc.stage_close err d
  have bounds := closedAt_bounds d
  rw [← at_close] at stage
  refine ⟨?_, fun d' => ?_, fun d' _ => ?_, by simpa using sd.errChan, by simpa using sd.fault⟩
  · simp only [setLane_done, setLane_main, MainPc.stage_afterClose, sd.done, decide_eq_decide]; omega
  · by_cases same : d' = d
    · subst same; simp [nowClosed]
    · have apart : closedAt d' ≠ closedAt d := by cases d <;> cases d' <;> simp_all [closedAt]
      simp only [setLane_main, MainPc.stage_afterClose, lane_setLane_of_ne _ _ _ same, lane_main, sd.chans d',
        decide_eq_decide]
      omega
  · have readers := sd.readers d' (by omega)
    by_cases same : d' = d
    · subst same; simpa using readers
    · simpa [same] using readers

theorem step_shutdown {a : Action} (h : step capture s a = some t) (sd : Shutdown s) : Shutdown t := by
  cases a with
  | check d =>
    obtain ⟨-, at_loop, rfl⟩ := step_check h
    exact shutdown_reader sd (by simp [at_loop]) rfl
  | recv d result =>
    obtain ⟨-, at_recv, rfl⟩ := step_recv h
    exact shutdown_reader sd (by simp [at_recv]) (by cases result <;> rfl)
  | report d =>
    obtain ⟨-, err, at_failed, reported⟩ := step_report h
    refine shutdown_report sd reported fun c _ sd' => shutdown_reader sd' (by simp [at_failed]) rfl
  | quit d =>
    obtain ⟨-, -, running, rfl⟩ := step_quit h
    refine shutdown_reader sd ?_ rfl
    rcases running with ⟨err, at_failed⟩ | ⟨msg, at_forward⟩ <;> simp [*]
  | capture d =>
    obtain ⟨-, msg, at_capture, rfl⟩ := step_capture h
    exact shutdown_reader sd (by simp [at_capture]) rfl
  | push d =>
    obtain ⟨-, msg, at_forward, ⟨c, sent, rfl⟩ | ⟨f, sent, -⟩⟩ := step_push h
    · exact shutdown_reader sd (by simp [at_forward]) (Chan.send_eq_some_ok sent).2.2.2
    · have early := stage_of_running sd (d := d) (by simp [at_forward])
      have closed := sd.chans d
      rw [(Chan.send_eq_some_error sent).1] at closed
      cases d <;> simp [closedAt] at closed <;> omega
  | take d =>
    obtain ⟨-, -, ⟨msg, c, got, rfl⟩ | ⟨c, got, rfl⟩⟩ := step_take h
    · rcases Chan.recv_eq_some got with ⟨-, -, -, -, closed⟩ | ⟨-, -, -, rfl⟩
      · exact shutdown_forwarder sd closed rfl
      · exact shutdown_forwarder sd rfl rfl
    · exact shutdown_forwarder sd rfl rfl
  | send d result =>
    obtain ⟨-, msg, -, rfl⟩ := step_send h
    exact shutdown_forwarder sd rfl rfl
  | forwarderReport d =>
    obtain ⟨-, err, -, reported⟩ := step_forwarderReport h
    exact shutdown_report sd reported fun c _ sd' => shutdown_forwarder sd' rfl rfl
  | forwarderQuit d =>
    obtain ⟨-, -, -, rfl⟩ := step_forwarderQuit h
    exact shutdown_forwarder sd rfl rfl
  | receive =>
    obtain ⟨-, at_receive, err, c, got, rfl⟩ := step_receive h
    have closed : c.closed = false := by
      rcases Chan.recv_eq_some got with ⟨-, -, -, -, closed⟩ | ⟨-, -, closed, -⟩
      · exact closed.trans sd.errChan
      · simp [sd.errChan] at closed
    exact shutdown_advance sd (fun d => by cases d <;> rfl) (by simp [at_receive]) (by simp)
      (by simpa [at_receive] using sd.done) (by simp) closed sd.fault
  | closeDone =>
    obtain ⟨-, err, at_closeDone, ⟨c, closed, rfl⟩ | ⟨f, closed, -⟩⟩ := step_closeDone h
    · obtain ⟨-, -, -, nowClosed⟩ := Chan.close_eq_ok closed
      exact shutdown_advance sd (fun d => by cases d <;> rfl) (by simp [at_closeDone]) (by simp)
        (by simpa using nowClosed) (by simp) sd.errChan sd.fault
    · have open_ := sd.done
      simp [(Chan.close_eq_error closed).1, at_closeDone] at open_
  | wait =>
    obtain ⟨-, err, at_wait, front, back, rfl⟩ := step_wait h
    exact shutdown_advance sd (fun d => by cases d <;> rfl) (by simp [at_wait]) (by simp)
      (by simpa [at_wait] using sd.done) (fun _ d => by cases d <;> assumption) sd.errChan sd.fault
  | close =>
    obtain ⟨-, d, err, at_close, ⟨c, closed, rfl⟩ | ⟨f, closed, -⟩⟩ := step_close h
    · exact shutdown_close sd at_close (Chan.close_eq_ok closed).2.2.2
    · exact absurd (Chan.close_eq_error closed).1 (by simp [chan_open_at_close sd at_close])

theorem reachable_shutdown {s : State} (reach : Reachable capture s) : Shutdown s := by
  induction reach with
  | refl => exact shutdown_start
  | tail _ next ih => obtain ⟨a, h⟩ := next; exact step_shutdown h ih

end

/-- Nothing panics, so no goroutine sends on or closes a closed channel; and once `Proxy` has
    returned its readers have returned, so no `Recv` and no `capture.Send` is made again. -/
theorem shutdown_safe {capture : Bool} {s : State} (reach : Reachable capture s) :
    s.fault = none ∧ ∀ err, s.main = .returned err → ∀ d result,
      step capture s (.recv d result) = none ∧ step capture s (.capture d) = none := by
  have sd := reachable_shutdown reach
  refine ⟨sd.fault, fun err returned d result => ?_⟩
  have exited := sd.readers d (by simp [returned])
  constructor
  · rcases h : step capture s (.recv d result) with _ | t
    · rfl
    · exact absurd (step_recv h).2.1 (by simp [exited])
  · rcases h : step capture s (.capture d) with _ | t
    · rfl
    · obtain ⟨-, msg, at_capture, -⟩ := step_capture h
      simp [exited] at at_capture

/-- `Proxy` of `proxy.go` shuts down without a panic and without further `Recv` or
    `capture.Send` once it has returned; the two-socket `Proxy` leaves its goroutines running. -/
theorem proxy_shutdown {capture : Bool} {s : State} (reach : Reachable capture s)
    {p : SimpleProxy.State} (reach' : SimpleProxy.Reachable p) :
    (s.fault = none ∧ ∀ err, s.main = .returned err → ∀ d result,
      step capture s (.recv d result) = none ∧ step capture s (.capture d) = none) ∧
    (∀ err d, p.main = .returned err → (p.lane d).pc = .recv → ∀ result,
      SimpleProxy.step p (.recv d result) = some (p.setLane d ((p.lane d).afterRecv result))) :=
  ⟨shutdown_safe reach, fun _ _ _ at_recv result => SimpleProxy.recv_enabled reach' at_recv result⟩

/-- After `failAfterForward` `Proxy` has returned, and the two-socket `Proxy` has returned after its
    frontend failed, with its backend goroutine at `Recv`. -/
theorem proxy_shutdown_returned :
    ∃ s p, run true start failAfterForward = some s ∧
      SimpleProxy.run SimpleProxy.start [.recv .frontToBack (.error (.new "EOF")), .report .frontToBack, .receive] =
        some p ∧ s.main = .returned (some (.new "EOF")) ∧ p.main = .returned (some (.new "EOF")) ∧
      ((s.fault = none ∧ ∀ err, s.main = .returned err → ∀ d result,
          step true s (.recv d result) = none ∧ step true s (.capture d) = none) ∧
        (∀ err d, p.main = .returned err → (p.lane d).pc = .recv → ∀ result,
          SimpleProxy.step p (.recv d result) = some (p.setLane d ((p.lane d).afterRecv result)))) :=
  ⟨_, _, rfl, rfl, rfl, rfl, proxy_shutdown (reachable_run .refl (rfl : run true start failAfterForward = some _))
    (SimpleProxy.reachable_run .refl (rfl : SimpleProxy.run SimpleProxy.start
      [.recv .frontToBack (.error (.new "EOF")), .report .frontToBack, .receive] = some _))⟩

/-- The forwarders outlive `Proxy`: after `failAfterForward` it has returned with `NewMsg [2]` still
    in `frontToBack`, and the frontend's forwarder then takes it and passes it to `backend.Send`.
    The goroutines of the two-socket `Proxy` outlive it too: its backend goroutine calls `Recv`. -/
theorem goroutines_outlive_proxy :
    (∃ s t u, Reachable true s ∧ s.main = .returned (some (.new "EOF")) ∧
      step true s (.take .frontToBack) = some t ∧ step true t (.send .frontToBack none) = some u ∧
      (u.lane .frontToBack).sent = [NewMsg [1], NewMsg [2]]) ∧
    ∃ p q, SimpleProxy.Reachable p ∧ p.main = .returned (some (.new "EOF")) ∧
      SimpleProxy.step p (.recv .backToFront (.ok (NewMsg []))) = some q :=
  ⟨⟨_, _, _, reachable_run .refl (rfl : run true start failAfterForward = some _), rfl, rfl, rfl, rfl⟩,
    SimpleProxy.recv_after_return⟩

end Zmq4.Proxy
