import Zmq4.Proxy.Shutdown

/-!
`Proxy` of `proxy.go` never deadlocks: in every reachable state some goroutine can move, unless
`Proxy` has returned and all four goroutines have exited (`proxy_progress`). A socket call is a
move with any result, as the sockets are outside the model.

While `Proxy` waits on an empty `errChan`, no goroutine has returned (`Live.quiet`): a goroutine
returns only after putting its error on `errChan`, or once `done` or its channel is closed, and
`Proxy` closes them only after its receive. So a reader waiting on a full channel has a forwarder
to drain it, and a goroutine holding an error finds room for it. Once `Proxy` is past its receive,
`done` is closed and every `select` of a goroutine is ready.
-/

namespace Zmq4.Proxy

/-- `Proxy` has returned, and so has every goroutine. -/
def Finished (s : State) : Prop :=
  (∃ err, s.main = .returned err) ∧ ∀ d, (s.lane d).reader = .exited ∧ (s.lane d).forwarder = .exited

/-- What progress needs besides `Shutdown`: the capacities `make` gave, and, while `Proxy` waits
    on an empty `errChan`, no goroutine has returned. -/
structure Live (s : State) : Prop where
  errCap : s.errChan.cap = 2
  chanCap : ∀ d, (s.lane d).chan.cap = 100
  quiet : s.main = .receive → s.errChan.buffer = [] →
    ∀ d, (s.lane d).reader ≠ .exited ∧ (s.lane d).forwarder ≠ .exited

theorem live_start : Live start :=
  ⟨rfl, fun d => by cases d <;> rfl, fun _ _ d => by cases d <;> simp [start, State.lane, Lane.start]⟩

section
variable {capture : Bool} {s t : State} {d : Dir}

/-- Until `Proxy` has received an error, `done` and both channels are open. -/
theorem open_at_receive (sd : Shutdown s) (at_receive : s.main = .receive) :
    s.done.closed = false ∧ ∀ d, (s.lane d).chan.closed = false := by
  refine ⟨by simp [sd.done, at_receive], fun d => ?_⟩
  have bounds := closedAt_bounds d
  rw [sd.chans d, at_receive]
  exact decide_eq_false (by simp only [MainPc.stage_receive]; omega)

theorem live_setLane (live : Live s) {l : Lane} (cap : l.chan.cap = (s.lane d).chan.cap)
    (running : s.main = .receive → s.errChan.buffer = [] → l.reader ≠ .exited ∧ l.forwarder ≠ .exited) :
    Live (s.setLane d l) := by
  refine ⟨by simpa using live.errCap, fun d' => ?_, fun at_receive empty d' => ?_⟩
  · by_cases same : d' = d
    · subst same; simpa [cap] using live.chanCap d'
    · simpa [same] using live.chanCap d'
  · simp only [setLane_main, setLane_errChan] at at_receive empty
    by_cases same : d' = d
    · subst same; simpa using running at_receive empty
    · simpa [same] using live.quiet at_receive empty d'

/-- A reader's move that keeps it running while `Proxy` waits on `errChan`. -/
theorem live_reader (live : Live s) {l : Lane} (cap : l.chan.cap = (s.lane d).chan.cap)
    (forwarder : l.forwarder = (s.lane d).forwarder) (running : s.main = .receive → l.reader ≠ .exited) :
    Live (s.setLane d l) :=
  live_setLane live cap fun at_receive empty => ⟨running at_receive, forwarder ▸ (live.quiet at_receive empty d).2⟩

/-- A forwarder's move that keeps it running while `Proxy` waits on `errChan`. -/
theorem live_forwarder (live : Live s) {l : Lane} (cap : l.chan.cap = (s.lane d).chan.cap)
    (reader : l.reader = (s.lane d).reader) (running : s.main = .receive → l.forwarder ≠ .exited) :
    Live (s.setLane d l) :=
  live_setLane live cap fun at_receive empty => ⟨reader ▸ (live.quiet at_receive empty d).1, running at_receive⟩

theorem live_fault (live : Live s) (f : Fault) : Live { s with fault := some f } :=
  ⟨live.errCap, fun d => by simpa using live.chanCap d, fun at_receive empty d => by
    simpa using live.quiet at_receive empty d⟩

/-- A step of `Proxy` itself, past its receive. -/
theorem live_past (errCap : t.errChan.cap = 2) (chanCap : ∀ d, (t.lane d).chan.cap = 100)
    (past : t.main ≠ .receive) : Live t :=
  ⟨errCap, chanCap, fun at_receive => absurd at_receive past⟩

/-- A step that leaves both directions alone keeps their capacities. -/
theorem chanCap_of_lanes (live : Live s) (front : t.front = s.front) (back : t.back = s.back) :
    ∀ d, (t.lane d).chan.cap = 100
  | .frontToBack => by show t.front.chan.cap = 100; rw [front]; exact live.chanCap .frontToBack
  | .backToFront => by show t.back.chan.cap = 100; rw [back]; exact live.chanCap .backToFront

/-- A goroutine that puts its error on `errChan` leaves it nonempty. -/
theorem live_report {err : GoError} {f : Lane → Lane} (live : Live s) (cap : ∀ l, (f l).chan.cap = l.chan.cap)
    (h : s.report err (fun s => s.setLane d (f (s.lane d))) = some t) : Live t := by
  rcases report_eq_some h with ⟨c, sent, rfl⟩ | ⟨fault, -, rfl⟩
  · obtain ⟨-, buffer, sameCap, -⟩ := Chan.send_eq_some_ok sent
    have live' : Live { s with errChan := c } :=
      ⟨sameCap.trans live.errCap, fun d => by simpa using live.chanCap d, fun _ empty => by simp [buffer] at empty⟩
    exact live_setLane live' (cap _) fun _ empty => by simp [buffer] at empty
  · exact live_fault live fault

theorem step_live {a : Action} (h : step capture s a = some t) (sd : Shutdown s) (live : Live s) : Live t := by
  cases a with
  | check d =>
    obtain ⟨-, -, rfl⟩ := step_check h
    exact live_reader live rfl rfl fun at_receive => by simp [(open_at_receive sd at_receive).1]
  | recv d result =>
    obtain ⟨-, -, rfl⟩ := step_recv h
    cases result <;> exact live_reader live rfl rfl fun _ => by simp [Lane.afterRecv]
  | report d =>
    obtain ⟨-, err, -, reported⟩ := step_report h
    exact live_report (f := fun l => { l with reader := .exited }) live (fun _ => rfl) reported
  | quit d =>
    obtain ⟨-, closed, -, rfl⟩ := step_quit h
    exact live_reader live rfl rfl fun at_receive => absurd closed (by simp [(open_at_receive sd at_receive).1])
  | capture d =>
    obtain ⟨-, msg, -, rfl⟩ := step_capture h
    exact live_reader live rfl rfl fun _ => by simp [Lane.afterCapture]
  | push d =>
    obtain ⟨-, msg, -, ⟨c, sent, rfl⟩ | ⟨f, -, rfl⟩⟩ := step_push h
    · exact live_reader live (Chan.send_eq_some_ok sent).2.2.1 rfl fun _ => by simp
    · exact live_fault live f
  | take d =>
    obtain ⟨-, -, ⟨msg, c, got, rfl⟩ | ⟨c, got, rfl⟩⟩ := step_take h
    · exact live_forwarder live (Chan.recv_cap got) rfl fun _ => by simp
    · refine live_forwarder live rfl rfl fun at_receive => ?_
      rcases Chan.recv_eq_some got with ⟨w, none_eq, -⟩ | ⟨-, -, closed, -⟩
      · cases none_eq
      · exact absurd closed (by simp [(open_at_receive sd at_receive).2 d])
  | send d result =>
    obtain ⟨-, msg, -, rfl⟩ := step_send h
    cases result <;> exact live_forwarder live rfl rfl fun _ => by simp [Lane.afterSend]
  | forwarderReport d =>
    obtain ⟨-, err, -, reported⟩ := step_forwarderReport h
    exact live_report (f := fun l => { l with forwarder := .exited }) live (fun _ => rfl) reported
  | forwarderQuit d =>
    obtain ⟨-, closed, -, rfl⟩ := step_forwarderQuit h
    exact live_forwarder live rfl rfl fun at_receive => absurd closed (by simp [(open_at_receive sd at_receive).1])
  | receive =>
    obtain ⟨-, -, err, c, got, rfl⟩ := step_receive h
    exact live_past ((Chan.recv_cap got).trans live.errCap) (chanCap_of_lanes live rfl rfl) (by simp)
  | closeDone =>
    obtain ⟨-, err, -, ⟨c, -, rfl⟩ | ⟨f, -, rfl⟩⟩ := step_closeDone h
    · exact live_past live.errCap (chanCap_of_lanes live rfl rfl) (by simp)
    · exact live_fault live f
  | wait =>
    obtain ⟨-, err, -, -, -, rfl⟩ := step_wait h
    exact live_past live.errCap (chanCap_of_lanes live rfl rfl) (by simp)
  | close =>
    obtain ⟨-, d, err, -, ⟨c, closed, rfl⟩ | ⟨f, -, rfl⟩⟩ := step_close h
    · refine live_past (by simpa using live.errCap) (fun d' => ?_) (by cases d <;> simp [MainPc.afterClose])
      by_cases same : d' = d
      · subst same; simpa [(Chan.close_eq_ok closed).2.2.1] using live.chanCap d'
      · simpa [same] using live.chanCap d'
    · exact live_fault live f

theorem reachable_live (reach : Reachable capture s) : Live s := by
  induction reach with
  | refl => exact live_start
  | tail reach' next ih => obtain ⟨a, h⟩ := next; exact step_live h (reachable_shutdown reach') ih

/-- A reader that has not returned can move, unless it holds a message for a full channel or an
    error for a full `errChan` while `done` is open. -/
theorem reader_enabled (ok : s.fault = none) (running : (s.lane d).reader ≠ .exited)
    (push : ∀ msg, (s.lane d).reader = .forward msg →
      s.done.closed = true ∨ (s.lane d).chan.buffer.length < (s.lane d).chan.cap)
    (report : ∀ err, (s.lane d).reader = .failed err →
      s.done.closed = true ∨ s.errChan.buffer.length < s.errChan.cap) :
    ∃ a, step capture s a ≠ none := by
  cases r : (s.lane d).reader with
  | loop => exact ⟨.check d, by simp [step, exec, ok, r]⟩
  | recv => exact ⟨.recv d (.error (.new "EOF")), by simp [step, exec, ok, r]⟩
  | failed err =>
    rcases report err r with closed | room
    · exact ⟨.quit d, by simp [step, exec, ok, r, closed]⟩
    · obtain ⟨_, sent⟩ := Option.isSome_iff_exists.mp (Chan.send_isSome err room)
      exact ⟨.report d, by simp [step, exec, ok, r, State.report, sent]⟩
  | capture msg => exact ⟨.capture d, by simp [step, exec, ok, r]⟩
  | forward msg =>
    rcases push msg r with closed | room
    · exact ⟨.quit d, by simp [step, exec, ok, r, closed]⟩
    · obtain ⟨_, sent⟩ := Option.isSome_iff_exists.mp (Chan.send_isSome msg room)
      exact ⟨.push d, by simp [step, exec, ok, r, sent]⟩
  | exited => exact absurd r running

/-- A forwarder that has not returned can move, unless its channel is open and empty, or it holds
    an error for a full `errChan` while `done` is open. -/
theorem forwarder_enabled (ok : s.fault = none) (running : (s.lane d).forwarder ≠ .exited)
    (take : (s.lane d).forwarder = .range → (s.lane d).chan.buffer ≠ [] ∨ (s.lane d).chan.closed = true)
    (report : ∀ err, (s.lane d).forwarder = .failed err →
      s.done.closed = true ∨ s.errChan.buffer.length < s.errChan.cap) :
    ∃ a, step capture s a ≠ none := by
  cases f : (s.lane d).forwarder with
  | range =>
    obtain ⟨⟨v, c⟩, got⟩ := Option.isSome_iff_exists.mp (Chan.recv_isSome (take f))
    exact ⟨.take d, by cases v <;> simp [step, exec, ok, f, got]⟩
  | send msg => exact ⟨.send d none, by simp [step, exec, ok, f]⟩
  | failed err =>
    rcases report err f with closed | room
    · exact ⟨.forwarderQuit d, by simp [step, exec, ok, f, closed]⟩
    · obtain ⟨_, sent⟩ := Option.isSome_iff_exists.mp (Chan.send_isSome err room)
      exact ⟨.forwarderReport d, by simp [step, exec, ok, f, State.report, sent]⟩
  | exited => exact absurd f running

/-- While `Proxy` waits on an empty `errChan`, a direction's reader or forwarder can move. -/
theorem lane_enabled (sd : Shutdown s) (live : Live s) (at_receive : s.main = .receive)
    (empty : s.errChan.buffer = []) (d : Dir) : ∃ a, step capture s a ≠ none := by
  obtain ⟨reading, forwarding⟩ := live.quiet at_receive empty d
  have room : s.errChan.buffer.length < s.errChan.cap := by simp [empty, live.errCap]
  by_cases full : (s.lane d).chan.buffer.length < (s.lane d).chan.cap
  · exact reader_enabled sd.fault reading (fun _ _ => .inr full) (fun _ _ => .inr room)
  · refine forwarder_enabled sd.fault forwarding (fun _ => .inl fun drained => full ?_) (fun _ _ => .inr room)
    simp [drained, live.chanCap d]

/-- After `close(done)`, a reader that has not returned can move. -/
theorem reader_enabled_of_closed (ok : s.fault = none) (closed : s.done.closed = true)
    (running : (s.lane d).reader ≠ .exited) : ∃ a, step capture s a ≠ none :=
  reader_enabled ok running (fun _ _ => .inl closed) (fun _ _ => .inl closed)

end

/-- `Proxy` never deadlocks: in every reachable state some goroutine can move, unless `Proxy` has
    returned and all its goroutines have exited. -/
theorem proxy_progress {capture : Bool} {s : State} (reach : Reachable capture s) :
    Finished s ∨ ∃ t, Step capture s t := by
  have sd := reachable_shutdown reach
  suffices enabled : Finished s ∨ ∃ a, step capture s a ≠ none by
    rcases enabled with finished | ⟨a, moves⟩
    · exact .inl finished
    · obtain ⟨t, h⟩ := Option.ne_none_iff_exists'.mp moves
      exact .inr ⟨t, a, h⟩
  have doneClosed : 2 ≤ s.main.stage → s.done.closed = true := fun late => by simp [sd.done, late]
  cases at_main : s.main with
  | receive =>
    by_cases empty : s.errChan.buffer = []
    · exact .inr (lane_enabled sd (reachable_live reach) at_main empty .frontToBack)
    · obtain ⟨⟨err, c⟩, got⟩ := Option.isSome_iff_exists.mp (Chan.recv_isSome (.inl empty))
      exact .inr ⟨.receive, by simp [step, exec, sd.fault, at_main, got]⟩
  | closeDone err => exact .inr ⟨.closeDone, by simp [step, exec, sd.fault, at_main]⟩
  | wait err =>
    have closed := doneClosed (by simp [at_main])
    by_cases front : s.front.reader = .exited
    · by_cases back : s.back.reader = .exited
      · exact .inr ⟨.wait, by simp [step, exec, sd.fault, at_main, front, back]⟩
      · exact .inr (reader_enabled_of_closed (d := .backToFront) sd.fault closed back)
    · exact .inr (reader_enabled_of_closed (d := .frontToBack) sd.fault closed front)
  | close d err => exact .inr ⟨.close, by simp [step, exec, sd.fault, at_main]⟩
  | returned err =>
    by_cases stopped : ∀ d, (s.lane d).forwarder = .exited
    · exact .inl ⟨⟨err, at_main⟩, fun d => ⟨sd.readers d (by simp [at_main]), stopped d⟩⟩
    · push_neg at stopped
      obtain ⟨d, running⟩ := stopped
      have chanClosed : (s.lane d).chan.closed = true := by
        have bounds := closedAt_bounds d
        simp only [sd.chans d, at_main, MainPc.stage_returned, decide_eq_true_eq]
        omega
      exact .inr (forwarder_enabled sd.fault running (fun _ => .inr chanClosed)
        fun _ _ => .inl (doneClosed (by simp [at_main])))

/-- The frontend fails and `Proxy` closes `done`; it then waits for the backend reader, which can
    still move. -/
theorem proxy_progress_waiting : ∃ s, run true start [.check .frontToBack, .recv .frontToBack (.error (.new "EOF")),
      .report .frontToBack, .receive, .closeDone] = some s ∧ s.main = .wait (some (.new "EOF")) ∧
    (Finished s ∨ ∃ t, Step true s t) :=
  ⟨_, rfl, rfl, proxy_progress (reachable_run .refl (rfl : run true start [.check .frontToBack,
    .recv .frontToBack (.error (.new "EOF")), .report .frontToBack, .receive, .closeDone] = some _))⟩

end Zmq4.Proxy
