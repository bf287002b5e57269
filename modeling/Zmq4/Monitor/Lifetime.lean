import Zmq4.Monitor

/-!
What the monitor of a socket can become over any interleaving. No goroutine ever gets past the
`RLock` in `StopMonitor`'s `emitEvent`, since `WriterInv` says its goroutine holds the write lock
there; so `s.monitor` is never cleared. A socket gets at most one monitor in its life, and once
`Monitor` has installed it, it stays in every later state (`monitor_installed_once`). Every event
in a monitor's channel is one its `events` mask asked for (`reachable_events_asked`): `emitEvent`
checks the mask of the monitor it read, and no call changes a monitor's mask.
-/

namespace Zmq4.Monitor

/-- The program points of `StopMonitor` past the `RLock` in its `emitEvent`. -/
def Pc.pastStop : Pc → Bool
  | .emitRead _ .stopMonitor | .emitCheck _ .stopMonitor _ | .emitSend _ .stopMonitor _ | .stopClear => true
  | _ => false

/-- What a goroutine's program point needs of the monitors: it is not past `StopMonitor`'s
    `RLock`, and an `emitEvent` about to send holds an event its monitor asked for. -/
def PcOk (ms : List SocketMonitor) (pc : Pc) : Prop :=
  pc.pastStop = false ∧ ∀ ev caller i, pc = .emitSend ev caller i →
    ∃ m, ms[i]? = some m ∧ Int.land m.events ev.event ≠ 0

/-- The monitors `ms'` have, position by position, the masks of `ms`. -/
def EventsKept (ms ms' : List SocketMonitor) : Prop :=
  ∀ (i : Nat) (m : SocketMonitor), ms[i]? = some m → ∃ m', ms'[i]? = some m' ∧ m'.events = m.events

/-- What holds in every reachable state: every goroutine's program point is `PcOk`; there is no
    monitor, or one, which `s.monitor` points to; every buffered event is one its monitor asked for. -/
structure Life (s : State) : Prop where
  threads : ∀ (g : Nat) (pc : Pc), s.threads[g]? = some pc → PcOk s.monitors pc
  single : (s.monitor = none ∧ s.monitors = []) ∨ (s.monitor = some 0 ∧ s.monitors.length = 1)
  buffered : ∀ m ∈ s.monitors, ∀ ev ∈ m.ch.buffer, Int.land m.events ev.event ≠ 0

section
variable {s t : State} {g : Nat}

theorem pcOk_idle {ms : List SocketMonitor} {pc : Pc} (past : pc.pastStop = false)
    (idle : ∀ ev caller i, pc ≠ .emitSend ev caller i) : PcOk ms pc :=
  ⟨past, fun ev caller i sending => absurd sending (idle ev caller i)⟩

theorem PcOk.kept {ms ms' : List SocketMonitor} {pc : Pc} (ok : PcOk ms pc) (kept : EventsKept ms ms') :
    PcOk ms' pc := by
  refine ⟨ok.1, fun ev caller i sending => ?_⟩
  obtain ⟨m, found, asked⟩ := ok.2 ev caller i sending
  obtain ⟨m', found', same⟩ := kept i m found
  exact ⟨m', found', same ▸ asked⟩

theorem eventsKept_refl (ms : List SocketMonitor) : EventsKept ms ms := fun _ m found => ⟨m, found, rfl⟩

theorem eventsKept_set {ms : List SocketMonitor} {i : Nat} {m m' : SocketMonitor} (found : ms[i]? = some m)
    (same : m'.events = m.events) : EventsKept ms (ms.set i m') := by
  intro j n at_j
  by_cases here : i = j
  · subst here
    rw [found, Option.some.injEq] at at_j
    subst at_j
    exact ⟨m', by simp [List.getElem?_set, (List.getElem?_eq_some_iff.mp found).1], same⟩
  · exact ⟨n, by rwa [List.getElem?_set_ne here], rfl⟩

theorem eventsKept_append (ms more : List SocketMonitor) : EventsKept ms (ms ++ more) :=
  fun i m found => ⟨m, by rw [List.getElem?_append_left (List.getElem?_eq_some_iff.mp found).1]; exact found, rfl⟩

/-- The goroutines after goroutine `g` moves to `pc'` and `spawn` start, the masks kept. -/
theorem threadsOk_moved (life : Life s) {pc' : Pc} {spawn : List Pc} (kept : EventsKept s.monitors t.monitors)
    (threads : t.threads = s.threads.set g pc' ++ spawn) (moved : PcOk t.monitors pc')
    (spawned : ∀ p ∈ spawn, PcOk t.monitors p) :
    ∀ (h : Nat) (p : Pc), t.threads[h]? = some p → PcOk t.monitors p := by
  intro h p at_h
  rw [threads] at at_h
  by_cases old : h < s.threads.length
  · rw [List.getElem?_append_left (by simpa using old), List.getElem?_set] at at_h
    by_cases same : g = h
    · simp only [same, old, if_true, Option.some.injEq] at at_h
      exact at_h ▸ moved
    · simp only [same, if_false] at at_h
      exact (life.threads h p at_h).kept kept
  · rw [List.getElem?_append_right (by simpa using Nat.le_of_not_lt old)] at at_h
    exact spawned p (List.getElem?_mem at_h)

theorem Life.setPc (life : Life s) (pc' : Pc) (ok : PcOk s.monitors pc') : Life (s.setPc g pc') :=
  ⟨threadsOk_moved life (eventsKept_refl _) (List.append_nil _).symm ok (by simp), life.single, life.buffered⟩

/-- Goroutine `g` moves to a point that is neither past `StopMonitor`'s `RLock` nor a send. -/
theorem Life.idle (life : Life s) (pc' : Pc) (past : pc'.pastStop = false)
    (idle : ∀ ev caller i, pc' ≠ .emitSend ev caller i) : Life (s.setPc g pc') :=
  life.setPc pc' (pcOk_idle past idle)

theorem Life.withMu (life : Life s) (mu : RWMutex) : Life { s with mu } :=
  ⟨life.threads, life.single, life.buffered⟩

theorem Life.withFault (life : Life s) (f : Option Fault) : Life { s with fault := f } :=
  ⟨life.threads, life.single, life.buffered⟩

/-- Goroutine `g` moves to `pc'` and monitor `i` is replaced by one with its mask whose buffered
    events the old mask asked for. -/
theorem Life.setMonitor (life : Life s) {i : Nat} {m m' : SocketMonitor} (found : s.monitors[i]? = some m)
    (same : m'.events = m.events) (asked : ∀ ev ∈ m'.ch.buffer, Int.land m.events ev.event ≠ 0)
    (pc' : Pc) (ok : PcOk s.monitors pc') : Life { s.setPc g pc' with monitors := s.monitors.set i m' } := by
  have kept := eventsKept_set found same
  refine ⟨threadsOk_moved life kept (List.append_nil _).symm (ok.kept kept) (by simp), ?_, fun n inside => ?_⟩
  · simpa using life.single
  · rcases List.mem_or_eq_of_mem_set inside with old | rfl
    · exact life.buffered n old
    · exact same ▸ asked

/-- `Monitor` installing a monitor when there is none. -/
theorem Life.install (life : Life s) (none_ : s.monitor = none) (endpoint : String) (events : Int) (mu : RWMutex) :
    Life { s with
      monitor := some s.monitors.length
      monitors := s.monitors ++ [⟨endpoint, events, Chan.make 100, true⟩]
      threads := s.threads.set g (.returned none) ++ [.runWait]
      mu } := by
  have empty : s.monitors = [] := by rcases life.single with ⟨-, empty⟩ | ⟨some, -⟩ <;> simp_all
  refine ⟨threadsOk_moved life (eventsKept_append _ _) rfl (pcOk_idle (by rfl) (by simp))
    (fun p inside => by rw [List.mem_singleton.mp inside]; exact pcOk_idle (by rfl) (by simp)),
    .inr ⟨by simp [empty], by simp [empty]⟩, fun n inside => ?_⟩
  simp only [empty, List.nil_append, List.mem_singleton] at inside
  subst inside
  simp

/-- One move keeps `Life` and never removes a monitor. The goroutine of `StopMonitor` at its
    `emitEvent`'s `RLock` holds the write lock (`WriterInv`), so that `RLock` never succeeds. -/
theorem life_move (writer : WriterInv s) (life : Life s) {pc : Pc} (at_g : s.threads[g]? = some pc)
    (h : move s g pc = some t) : Life t ∧ s.monitors.length ≤ t.monitors.length := by
  have here := life.threads g pc at_g
  cases pc with
  | monitorLock _ _ | runLock | getRLock | stopLock =>
    obtain ⟨mu, -, rfl⟩ := Option.map_eq_some'.mp h
    exact ⟨(life.idle _ (by rfl) (by simp)).withMu mu, le_rfl⟩
  | monitorBody endpoint events =>
    simp only [move] at h
    split at h <;> cases h
    · exact ⟨(life.idle _ (by rfl) (by simp)).withMu _, le_rfl⟩
    · exact ⟨life.install ‹_› endpoint events _, by simp⟩
  | runWait =>
    simp only [move] at h
    split at h <;> cases h
    exact ⟨life.idle _ (by rfl) (by simp), le_rfl⟩
  | runClose =>
    simp only [move] at h
    split at h
    · cases h
      exact ⟨(life.idle _ (by rfl) (by simp)).withMu _, le_rfl⟩
    · obtain ⟨m, found, rfl⟩ := Option.map_eq_some'.mp h
      split
      · rename_i ch closed
        have buffer := (Chan.close_eq_ok closed).2.1
        refine ⟨(life.setMonitor found (by rfl) (fun ev inside => ?_) .finished (pcOk_idle (by rfl) (by simp))).withMu _, by simp⟩
        exact life.buffered m (List.getElem?_mem found) ev (buffer ▸ inside)
      · exact ⟨life.withFault _, le_rfl⟩
  | emitRLock ev caller =>
    obtain ⟨mu, locked, rfl⟩ := Option.map_eq_some'.mp h
    cases caller with
    | client => exact ⟨(life.idle _ (by rfl) (by simp)).withMu mu, le_rfl⟩
    | stopMonitor => simp [RWMutex.rlock_of_writer (writer g _ at_g rfl)] at locked
  | emitRead ev caller =>
    cases h
    cases caller with
    | client => exact ⟨(life.idle _ (by rfl) (by simp)).withMu _, le_rfl⟩
    | stopMonitor => exact absurd here.1 (by simp [Pc.pastStop])
  | emitCheck ev caller monitor =>
    cases caller with
    | stopMonitor => exact absurd here.1 (by simp [Pc.pastStop])
    | client =>
      cases monitor with
      | none =>
        cases h
        exact ⟨life.idle _ (by rfl) (by simp [Caller.resume]), le_rfl⟩
      | some i =>
        obtain ⟨m, found, rfl⟩ := Option.map_eq_some'.mp h
        split
        · rename_i asked
          exact ⟨life.setPc _ ⟨rfl, fun _ _ _ sending => by cases sending; exact ⟨m, found, asked.2⟩⟩, le_rfl⟩
        · exact ⟨life.idle _ (by rfl) (by simp [Caller.resume]), le_rfl⟩
  | emitSend ev caller i =>
    cases caller with
    | stopMonitor => exact absurd here.1 (by simp [Pc.pastStop])
    | client =>
      obtain ⟨m, found, rfl⟩ := Option.map_eq_some'.mp h
      obtain ⟨m₀, found₀, asked⟩ := here.2 ev .client i rfl
      rw [found, Option.some.injEq] at found₀
      subst found₀
      split
      · rename_i ch sent
        have buffer := (Chan.send_eq_some_ok sent).2.1
        refine ⟨life.setMonitor found (by rfl) (fun ev' inside => ?_) _ (pcOk_idle (by rfl) (by simp [Caller.resume])), by simp⟩
        rcases List.mem_append.mp (buffer ▸ inside) with old | new
        · exact life.buffered m (List.getElem?_mem found) ev' old
        · exact List.mem_singleton.mp new ▸ asked
      · exact ⟨life.withFault _, le_rfl⟩
      · exact ⟨life.idle _ (by rfl) (by simp [Caller.resume]), le_rfl⟩
  | getRead =>
    cases h
    exact ⟨(life.idle _ (by rfl) (by simp)).withMu _, le_rfl⟩
  | stopCheck =>
    simp only [move] at h
    split at h
    · cases h
      exact ⟨(life.idle _ (by rfl) (by simp)).withMu _, le_rfl⟩
    · obtain ⟨m, found, rfl⟩ := Option.map_eq_some'.mp h
      exact ⟨life.setMonitor found (by rfl) (by exact life.buffered m (List.getElem?_mem found)) _
        (pcOk_idle (by rfl) (by simp)), by simp⟩
  | stopClear => exact absurd here.1 (by simp [Pc.pastStop])
  | returned _ | returnedChan _ | finished => cases h

theorem step_life (writer : WriterInv s) (life : Life s) {a : Action} (h : step s a = some t) :
    Life t ∧ s.monitors.length ≤ t.monitors.length := by
  unfold step at h
  split at h
  · cases a with
    | run g =>
      obtain ⟨pc, at_g, moved⟩ := Option.bind_eq_some.mp h
      exact life_move writer life at_g moved
    | call c =>
      cases h
      refine ⟨⟨fun h p at_h => ?_, life.single, life.buffered⟩, le_rfl⟩
      by_cases old : h < s.threads.length
      · rw [List.getElem?_append_left old] at at_h
        exact life.threads h p at_h
      · rw [List.getElem?_append_right (Nat.le_of_not_lt old)] at at_h
        obtain rfl : p = c.entry := by simpa using List.getElem?_mem at_h
        cases c <;> exact pcOk_idle (by rfl) (by simp [Call.entry])
    | cancel => cases h; exact ⟨⟨life.threads, life.single, life.buffered⟩, le_rfl⟩
  · cases h

theorem reachable_life (reach : Reachable s) : Life s := by
  induction reach with
  | refl => exact ⟨fun g pc at_g => by simp [start] at at_g, .inl ⟨rfl, rfl⟩, by simp [start]⟩
  | tail earlier next ih =>
    obtain ⟨a, h⟩ := next
    exact (step_life (reachable_writerInv earlier) ih h).1

/-- No monitor is ever removed from a reachable state on. -/
theorem monitors_grow (reach : Reachable s) (later : Relation.ReflTransGen Step s t) :
    s.monitors.length ≤ t.monitors.length := by
  induction later with
  | refl => exact le_rfl
  | tail earlier next ih =>
    obtain ⟨a, h⟩ := next
    have reach' := reach.trans earlier
    exact ih.trans (step_life (reachable_writerInv reach') (reachable_life reach') h).2

/-- Once `Monitor` has installed a monitor, it is the socket's only one and `s.monitor` points to
    it in every later state: `StopMonitor` never clears it, so every later `Monitor` fails. -/
theorem monitor_installed_once (reach : Reachable s) (later : Relation.ReflTransGen Step s t) {i : Nat}
    (installed : s.monitor = some i) : i = 0 ∧ t.monitor = some 0 ∧ t.monitors.length = 1 := by
  have grow := monitors_grow reach later
  rcases (reachable_life reach).single with ⟨none_, -⟩ | ⟨first, one⟩
  · simp [none_] at installed
  · obtain rfl : i = 0 := by simpa [first] using installed.symm
    rcases (reachable_life (reach.trans later)).single with ⟨-, empty⟩ | ⟨first', one'⟩
    · rw [empty, List.length_nil] at grow
      omega
    · exact ⟨rfl, first', one'⟩

/-- `Monitor("inproc://monitor", EventAll)` returns nil. Later a second `Monitor` returns "monitor
    already active", the context is cancelled and `runMonitor` closes the channel, and `StopMonitor`
    takes the lock and stops at its `emitEvent`: the monitor is still installed. -/
theorem monitor_installed_once_started :
    ∃ s t, run start [.call (.monitor "inproc://monitor" EventAll), .run 0, .run 0] = some s ∧
      run s [.call (.monitor "inproc://other" EventAll), .run 2, .run 2, .cancel, .run 1, .run 1, .run 1,
        .call .stopMonitor, .run 3, .run 3] = some t ∧
      t.threads = [.returned none, .finished, .returned (some (.new "monitor already active")),
        .emitRLock ⟨EventMonitorStopped, "inproc://monitor", 0⟩ .stopMonitor] ∧ s.monitor = some 0 ∧
      (0 = 0 ∧ t.monitor = some 0 ∧ t.monitors.length = 1) :=
  ⟨_, _, rfl, rfl, rfl, rfl,
    monitor_installed_once (@reachable_run _ _ [.call (.monitor "inproc://monitor" EventAll), .run 0, .run 0] .refl rfl)
      (by exact @run_steps _ _ [.call (.monitor "inproc://other" EventAll), .run 2, .run 2, .cancel, .run 1, .run 1,
        .run 1, .call .stopMonitor, .run 3, .run 3] rfl) rfl⟩

/-- Every event in a monitor's channel is one the monitor's `events` mask asked for. -/
theorem reachable_events_asked (reach : Reachable s) :
    ∀ m ∈ s.monitors, ∀ ev ∈ m.ch.buffer, Int.land m.events ev.event ≠ 0 :=
  (reachable_life reach).buffered

/-- `Monitor("inproc://monitor", EventAll)` returns, then `emitEvent(EventConnected, ...)` puts its
    event on the channel. -/
theorem reachable_events_asked_connected :
    ∃ s, run start [.call (.monitor "inproc://monitor" EventAll), .run 0, .run 0,
        .call (.emitEvent EventConnected "tcp://127.0.0.1:5555" 0), .run 2, .run 2, .run 2, .run 2] = some s ∧
      s.monitors.map (fun m => m.ch.buffer) = [[⟨EventConnected, "tcp://127.0.0.1:5555", 0⟩]] ∧
      ∀ m ∈ s.monitors, ∀ ev ∈ m.ch.buffer, Int.land m.events ev.event ≠ 0 :=
  ⟨_, rfl, rfl, reachable_events_asked (@reachable_run _ _ [.call (.monitor "inproc://monitor" EventAll), .run 0,
    .run 0, .call (.emitEvent EventConnected "tcp://127.0.0.1:5555" 0), .run 2, .run 2, .run 2, .run 2] .refl rfl)⟩

end

end Zmq4.Monitor
