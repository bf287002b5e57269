import Zmq4.Basic
import Mathlib.Data.Int.Bitwise

/-!
Socket monitoring (`unnamed/part_003`): `Monitor`, `runMonitor`, `emitEvent`,
`GetMonitorChannel` and `StopMonitor` run as goroutines over one socket, whose `mu` guards its
`monitor` pointer. A goroutine's program point is a `Pc`; a `step` moves one goroutine, starts a
new call, or cancels the socket's context.

A goroutine that holds the write lock is at a program point that writes (`WriterInv`). So a
`StopMonitor` that finds a monitor holds the write lock when its nested `emitEvent` asks for the
read lock, which no other goroutine can release: it waits for ever (`stopMonitor_blocked`).
`emitEvent` also reads `monitor.active` after releasing the lock, so `runMonitor` can close the
channel between that read and the send (`monitor_protocol_fails`).
-/

namespace Zmq4.Monitor

def EventConnected : Int := 0x0001
def EventMonitorStopped : Int := 0x0400
def EventAll : Int := 0xFFFF

/-- A `SocketEvent`. -/
structure SocketEvent where
  event : Int
  address : String
  value : Int
  deriving DecidableEq, Repr

/-- A `socketMonitor`. A pointer to it is its index in `State.monitors`. -/
structure SocketMonitor where
  endpoint : String
  events : Int
  ch : Chan SocketEvent
  active : Bool

/-- Who runs an `emitEvent`: a caller of its own, or `StopMonitor`, which then goes on. -/
inductive Caller where
  | client
  | stopMonitor
  deriving DecidableEq, Repr

/-- Where a goroutine is. -/
inductive Pc where
  /-- `Monitor`: `s.mu.Lock()`. -/
  | monitorLock (endpoint : String) (events : Int)
  /-- `Monitor`: the check of `s.monitor`, the new monitor and `go s.runMonitor()`, then the
      deferred `s.mu.Unlock()`. -/
  | monitorBody (endpoint : String) (events : Int)
  /-- `runMonitor`: `<-s.ctx.Done()`. -/
  | runWait
  /-- `runMonitor`, deferred: `s.mu.Lock()`. -/
  | runLock
  /-- `runMonitor`, deferred: `close(s.monitor.ch)`, `s.monitor.active = false`, `s.mu.Unlock()`. -/
  | runClose
  /-- `emitEvent`: `s.mu.RLock()`. -/
  | emitRLock (ev : SocketEvent) (caller : Caller)
  /-- `emitEvent`: `monitor := s.monitor`, `s.mu.RUnlock()`. -/
  | emitRead (ev : SocketEvent) (caller : Caller)
  /-- `emitEvent`: `if monitor != nil && monitor.active && (monitor.events&event) != 0`. -/
  | emitCheck (ev : SocketEvent) (caller : Caller) (monitor : Option Nat)
  /-- `emitEvent`: `select { case monitor.ch <- ev: default: }`. -/
  | emitSend (ev : SocketEvent) (caller : Caller) (monitor : Nat)
  /-- `GetMonitorChannel`: `s.mu.RLock()`. -/
  | getRLock
  /-- `GetMonitorChannel`: the read of `s.monitor`, then the deferred `s.mu.RUnlock()`. -/
  | getRead
  /-- `StopMonitor`: `s.mu.Lock()`. -/
  | stopLock
  /-- `StopMonitor`: the check of `s.monitor`, `s.monitor.active = false`, then the call of
      `s.emitEvent(EventMonitorStopped, s.monitor.endpoint, 0)`. -/
  | stopCheck
  /-- `StopMonitor`, after `emitEvent`: `s.monitor = nil` and the deferred `s.mu.Unlock()`. -/
  | stopClear
  /-- `Monitor` or `StopMonitor` has returned this error, or nil. -/
  | returned (result : Option GoError)
  /-- `GetMonitorChannel` has returned the channel of this monitor, or nil. -/
  | returnedChan (monitor : Option Nat)
  /-- `emitEvent` or `runMonitor` has returned. -/
  | finished
  deriving DecidableEq, Repr

/-- A call a new goroutine makes. -/
inductive Call where
  | monitor (endpoint : String) (events : Int)
  | stopMonitor
  | emitEvent (event : Int) (address : String) (value : Int)
  | getMonitorChannel

def Call.entry : Call → Pc
  | .monitor endpoint events => .monitorLock endpoint events
  | .stopMonitor => .stopLock
  | .emitEvent event address value => .emitRLock ⟨event, address, value⟩ .client
  | .getMonitorChannel => .getRLock

/-- Where `emitEvent` returns to. -/
def Caller.resume : Caller → Pc
  | .client => .finished
  | .stopMonitor => .stopClear

/-- The socket as far as monitoring uses it, with its goroutines. -/
structure State where
  mu : RWMutex
  monitor : Option Nat
  monitors : List SocketMonitor
  /-- `s.ctx.Done()` is closed. -/
  ctxDone : Bool
  threads : List Pc
  fault : Option Fault

def State.setPc (s : State) (g : Nat) (pc : Pc) : State := { s with threads := s.threads.set g pc }

/-- One move of goroutine `g` at `pc`; `none` when it waits. -/
def move (s : State) (g : Nat) : Pc → Option State
  | .monitorLock endpoint events => (s.mu.lock g).map fun mu => { s.setPc g (.monitorBody endpoint events) with mu }
  | .monitorBody endpoint events =>
    match s.monitor with
    | some _ => some { s.setPc g (.returned (some (.new "monitor already active"))) with mu := s.mu.unlock }
    | none => some { s with
        monitor := some s.monitors.length
        monitors := s.monitors ++ [⟨endpoint, events, Chan.make 100, true⟩]
        threads := s.threads.set g (.returned none) ++ [.runWait]
        mu := s.mu.unlock }
  | .runWait => if s.ctxDone then some (s.setPc g .runLock) else none
  | .runLock => (s.mu.lock g).map fun mu => { s.setPc g .runClose with mu }
  | .runClose =>
    match s.monitor with
    | none => some { s.setPc g .finished with mu := s.mu.unlock }
    | some i =>
      (s.monitors[i]?).map fun m =>
        match m.ch.close with
        | .ok ch => { s.setPc g .finished with
            monitors := s.monitors.set i { m with ch, active := false }, mu := s.mu.unlock }
        | .error f => { s with fault := some f }
  | .emitRLock ev caller => (s.mu.rlock g).map fun mu => { s.setPc g (.emitRead ev caller) with mu }
  | .emitRead ev caller => some { s.setPc g (.emitCheck ev caller s.monitor) with mu := s.mu.runlock g }
  | .emitCheck _ caller none => some (s.setPc g caller.resume)
  | .emitCheck ev caller (some i) =>
    (s.monitors[i]?).map fun m =>
      if m.active ∧ Int.land m.events ev.event ≠ 0 then s.setPc g (.emitSend ev caller i)
      else s.setPc g caller.resume
  | .emitSend ev caller i =>
    (s.monitors[i]?).map fun m =>
      match m.ch.send ev with
      | some (.ok ch) => { s.setPc g caller.resume with monitors := s.monitors.set i { m with ch } }
      | some (.error f) => { s with fault := some f }
      | none => s.setPc g caller.resume
  | .getRLock => (s.mu.rlock g).map fun mu => { s.setPc g .getRead with mu }
  | .getRead => some { s.setPc g (.returnedChan s.monitor) with mu := s.mu.runlock g }
  | .stopLock => (s.mu.lock g).map fun mu => { s.setPc g .stopCheck with mu }
  | .stopCheck =>
    match s.monitor with
    | none => some { s.setPc g (.returned (some (.new "no monitor active"))) with mu := s.mu.unlock }
    | some i =>
      (s.monitors[i]?).map fun m =>
        { s.setPc g (.emitRLock ⟨EventMonitorStopped, m.endpoint, 0⟩ .stopMonitor) with
          monitors := s.monitors.set i { m with active := false } }
  | .stopClear => some { s.setPc g (.returned none) with monitor := none, mu := s.mu.unlock }
  | .returned _ | .returnedChan _ | .finished => none

/-- A scheduling choice: a goroutine moves, a new call starts, or the socket's context is cancelled. -/
inductive Action where
  | run (g : Nat)
  | call (c : Call)
  | cancel

def exec (s : State) : Action → Option State
  | .run g => (s.threads[g]?).bind (move s g)
  | .call c => some { s with threads := s.threads ++ [c.entry] }
  | .cancel => some { s with ctxDone := true }

/-- A panic stops every goroutine. -/
def step (s : State) (a : Action) : Option State := if s.fault = none then exec s a else none

/-- A socket before any call. -/
def start : State := ⟨RWMutex.unlocked, none, [], false, [], none⟩

def Step (s t : State) : Prop := ∃ a, step s a = some t

def Reachable (s : State) : Prop := Relation.ReflTransGen Step start s

def run (s : State) : List Action → Option State
  | [] => some s
  | a :: rest => (step s a).bind fun t => run t rest

/-- A schedule that can be taken from `s` is a path of steps from `s`. -/
theorem run_steps {s t : State} {schedule : List Action} (h : run s schedule = some t) :
    Relation.ReflTransGen Step s t := by
  induction schedule generalizing s with
  | nil => cases h; exact .refl
  | cons a rest ih =>
    simp only [run, Option.bind_eq_some] at h
    obtain ⟨next, moved, later⟩ := h
    exact .head ⟨a, moved⟩ (ih later)

theorem reachable_run {s t : State} {schedule : List Action} (reach : Reachable s) (h : run s schedule = some t) :
    Reachable t :=
  reach.trans (run_steps h)

/-! ### Who holds the write lock -/

/-- The program points at which a goroutine has taken `s.mu.Lock()` and not yet released it. -/
def Pc.writing : Pc → Bool
  | .monitorBody _ _ | .runClose | .stopCheck | .stopClear => true
  | .emitRLock _ .stopMonitor | .emitRead _ .stopMonitor => true
  | .emitCheck _ .stopMonitor _ | .emitSend _ .stopMonitor _ => true
  | _ => false

/-- What a move of goroutine `g` from `pc` to `pc'` does to the write lock. -/
inductive WriterMove (g : Nat) (pc pc' : Pc) (mu mu' : RWMutex) : Prop where
  | keep (same : pc'.writing = pc.writing) (writer : mu'.writer = mu.writer)
  | lock (free : mu.writer = none) (taken : pc'.writing = true) (writer : mu'.writer = some g)
  | unlock (held : pc.writing = true) (released : pc'.writing = false) (writer : mu'.writer = none)

theorem Caller.resume_writing (caller : Caller) (ev : SocketEvent) (i : Option Nat) :
    caller.resume.writing = (Pc.emitCheck ev caller i).writing := by
  cases caller <;> rfl

section
variable {s t : State} {g : Nat}

private theorem moved_lock {pc pc' : Pc} {mu : RWMutex} (locked : s.mu.lock g = some mu) (taken : pc'.writing = true) :
    ∃ pc'' spawn, ({ s.setPc g pc' with mu } : State).threads = s.threads.set g pc'' ++ spawn ∧
      (∀ p ∈ spawn, p.writing = false) ∧ WriterMove g pc pc'' s.mu mu := by
  obtain ⟨free, -, rfl⟩ := RWMutex.lock_eq_some locked
  exact ⟨pc', [], by simp [State.setPc], by simp, .lock free taken rfl⟩

private theorem moved_keep {pc pc' : Pc} (mu : RWMutex) (same : pc'.writing = pc.writing) (writer : mu.writer = s.mu.writer) :
    ∃ pc'' spawn, ({ s.setPc g pc' with mu } : State).threads = s.threads.set g pc'' ++ spawn ∧
      (∀ p ∈ spawn, p.writing = false) ∧ WriterMove g pc pc'' s.mu mu :=
  ⟨pc', [], by simp [State.setPc], by simp, .keep same writer⟩

private theorem moved_unlock {pc pc' : Pc} (held : pc.writing = true) (released : pc'.writing = false) :
    ∃ pc'' spawn, ({ s.setPc g pc' with mu := s.mu.unlock } : State).threads = s.threads.set g pc'' ++ spawn ∧
      (∀ p ∈ spawn, p.writing = false) ∧ WriterMove g pc pc'' s.mu s.mu.unlock :=
  ⟨pc', [], by simp [State.setPc], by simp, .unlock held released rfl⟩

/-- What any move does: a panic changes neither the goroutines nor the lock; otherwise the
    goroutine moves, perhaps starting `runMonitor`, and takes, keeps or releases the write lock. -/
theorem move_spec {pc : Pc} (h : move s g pc = some t) :
    (t.threads = s.threads ∧ t.mu = s.mu) ∨
      ∃ pc' spawn, t.threads = s.threads.set g pc' ++ spawn ∧ (∀ p ∈ spawn, p.writing = false) ∧
        WriterMove g pc pc' s.mu t.mu := by
  cases pc with
  | monitorLock endpoint events =>
    obtain ⟨mu, locked, rfl⟩ := Option.map_eq_some'.mp h
    exact .inr (moved_lock locked rfl)
  | monitorBody endpoint events =>
    simp only [move] at h
    split at h <;> cases h
    · exact .inr (moved_unlock rfl rfl)
    · exact .inr ⟨.returned none, [.runWait], rfl, by simp [Pc.writing], .unlock rfl rfl rfl⟩
  | runWait =>
    simp only [move] at h
    split at h <;> cases h
    exact .inr (moved_keep s.mu rfl rfl)
  | runLock =>
    obtain ⟨mu, locked, rfl⟩ := Option.map_eq_some'.mp h
    exact .inr (moved_lock locked rfl)
  | runClose =>
    simp only [move] at h
    split at h
    · cases h; exact .inr (moved_unlock rfl rfl)
    · obtain ⟨m, -, rfl⟩ := Option.map_eq_some'.mp h
      split
      · exact .inr (moved_unlock rfl rfl)
      · exact .inl ⟨rfl, rfl⟩
  | emitRLock ev caller =>
    obtain ⟨mu, locked, rfl⟩ := Option.map_eq_some'.mp h
    obtain ⟨free, rfl⟩ := RWMutex.rlock_eq_some locked
    exact .inr (moved_keep _ (by cases caller <;> rfl) free.symm)
  | emitRead ev caller =>
    cases h
    exact .inr (moved_keep _ (by cases caller <;> rfl) rfl)
  | emitCheck ev caller monitor =>
    cases monitor with
    | none => cases h; exact .inr (moved_keep _ (Caller.resume_writing caller ev none) rfl)
    | some i =>
      obtain ⟨m, -, rfl⟩ := Option.map_eq_some'.mp h
      split
      · exact .inr (moved_keep s.mu (by cases caller <;> rfl) rfl)
      · exact .inr (moved_keep s.mu (Caller.resume_writing caller ev (some i)) rfl)
  | emitSend ev caller i =>
    obtain ⟨m, -, rfl⟩ := Option.map_eq_some'.mp h
    split
    · exact .inr (moved_keep s.mu (by cases caller <;> rfl) rfl)
    · exact .inl ⟨rfl, rfl⟩
    · exact .inr (moved_keep s.mu (by cases caller <;> rfl) rfl)
  | getRLock =>
    obtain ⟨mu, locked, rfl⟩ := Option.map_eq_some'.mp h
    obtain ⟨free, rfl⟩ := RWMutex.rlock_eq_some locked
    exact .inr (moved_keep _ rfl free.symm)
  | getRead => cases h; exact .inr (moved_keep _ rfl rfl)
  | stopLock =>
    obtain ⟨mu, locked, rfl⟩ := Option.map_eq_some'.mp h
    exact .inr (moved_lock locked rfl)
  | stopCheck =>
    simp only [move] at h
    split at h
    · cases h; exact .inr (moved_unlock rfl rfl)
    · obtain ⟨m, -, rfl⟩ := Option.map_eq_some'.mp h
      exact .inr (moved_keep s.mu rfl rfl)
  | stopClear => cases h; exact .inr (moved_unlock rfl rfl)
  | returned _ | returnedChan _ | finished => cases h

end

/-- A goroutine at a program point that writes holds the write lock. -/
def WriterInv (s : State) : Prop :=
  ∀ g pc, s.threads[g]? = some pc → pc.writing = true → s.mu.writer = some g

section
variable {s t : State} {g : Nat}

theorem writerInv_start : WriterInv start := by
  intro g pc at_g; simp [start] at at_g

/-- A move of one goroutine keeps another's write lock. -/
theorem WriterMove.keeps_writer {h : Nat} {pc pc' : Pc} {mu' : RWMutex} (moved : WriterMove g pc pc' s.mu mu')
    (inv : WriterInv s) (at_g : s.threads[g]? = some pc) (held : s.mu.writer = some h) (other : g ≠ h) :
    mu'.writer = some h := by
  cases moved with
  | keep _ writer => rw [writer, held]
  | lock free _ _ => simp [free] at held
  | unlock wrote _ _ => exact absurd (held.symm.trans (inv g pc at_g wrote)) (by simpa using Ne.symm other)

theorem writerInv_moved (inv : WriterInv s) {pc pc' : Pc} (at_g : s.threads[g]? = some pc) {spawn : List Pc}
    (threads : t.threads = s.threads.set g pc' ++ spawn) (idle : ∀ p ∈ spawn, p.writing = false)
    (moved : WriterMove g pc pc' s.mu t.mu) : WriterInv t := by
  intro h p at_h writing
  have inside : g < s.threads.length := (List.getElem?_eq_some_iff.mp at_g).1
  rw [threads] at at_h
  by_cases old : h < s.threads.length
  · rw [List.getElem?_append_left (by simpa using old), List.getElem?_set] at at_h
    by_cases same : g = h
    · subst same
      simp only [inside, if_true, Option.some.injEq] at at_h
      subst at_h
      cases moved with
      | keep same' writer => rw [writer]; exact inv g pc at_g (same'.symm.trans writing)
      | lock _ _ writer => exact writer
      | unlock _ released _ => simp [released] at writing
    · simp only [same, if_false] at at_h
      exact moved.keeps_writer inv at_g (inv h p at_h writing) same
  · rw [List.getElem?_append_right (by simpa using Nat.le_of_not_lt old)] at at_h
    simp [idle _ (List.getElem?_mem at_h)] at writing

theorem step_writerInv {a : Action} (h : step s a = some t) (inv : WriterInv s) : WriterInv t := by
  unfold step at h
  split at h
  · cases a with
    | run g =>
      obtain ⟨pc, at_g, moved⟩ := Option.bind_eq_some.mp h
      rcases move_spec moved with ⟨threads, mu⟩ | ⟨pc', spawn, threads, idle, moved⟩
      · intro h p; rw [threads, mu]; exact inv h p
      · exact writerInv_moved inv at_g threads idle moved
    | call c =>
      cases h
      intro h p at_h writing
      by_cases old : h < s.threads.length
      · rw [List.getElem?_append_left old] at at_h
        exact inv h p at_h writing
      · rw [List.getElem?_append_right (Nat.le_of_not_lt old)] at at_h
        have fresh : p = c.entry := by simpa using List.getElem?_mem at_h
        subst fresh
        cases c <;> simp [Call.entry, Pc.writing] at writing
    | cancel => cases h; exact inv
  · cases h

end

section
variable {s t : State} {g : Nat}

theorem reachable_writerInv (reach : Reachable s) : WriterInv s := by
  induction reach with
  | refl => exact writerInv_start
  | tail _ next ih => obtain ⟨a, h⟩ := next; exact step_writerInv h ih

/-- `StopMonitor`'s `emitEvent` asks for the read lock while its goroutine holds the write lock:
    no step releases the lock or moves that goroutine. -/
theorem step_stopMonitor_blocked (inv : WriterInv s) {ev : SocketEvent}
    (at_g : s.threads[g]? = some (.emitRLock ev .stopMonitor)) {a : Action} (h : step s a = some t) :
    t.threads[g]? = some (.emitRLock ev .stopMonitor) ∧ t.mu.writer = some g := by
  have held := inv g _ at_g rfl
  have inside : g < s.threads.length := (List.getElem?_eq_some_iff.mp at_g).1
  unfold step at h
  split at h
  · cases a with
    | run h' =>
      obtain ⟨pc, at_h', moved⟩ := Option.bind_eq_some.mp h
      by_cases same : h' = g
      · subst same
        rw [at_g] at at_h'
        cases at_h'
        simp [move, RWMutex.rlock_of_writer held] at moved
      · rcases move_spec moved with ⟨threads, mu⟩ | ⟨pc', spawn, threads, -, moved⟩
        · rw [threads, mu]; exact ⟨at_g, held⟩
        · refine ⟨?_, moved.keeps_writer inv at_h' held same⟩
          rw [threads, List.getElem?_append_left (by simpa using inside), List.getElem?_set, if_neg same, at_g]
    | call c => cases h; exact ⟨by rw [List.getElem?_append_left inside]; exact at_g, held⟩
    | cancel => cases h; exact ⟨at_g, held⟩
  · cases h

/-- Once `StopMonitor` has found a monitor and called `emitEvent`, in every later state its
    goroutine still waits for the read lock while holding the write lock: it never returns, and
    every other `Lock` or `RLock` of the socket waits too. -/
theorem stopMonitor_blocked (reach : Reachable s) {ev : SocketEvent}
    (at_g : s.threads[g]? = some (.emitRLock ev .stopMonitor)) (later : Relation.ReflTransGen Step s t) :
    t.threads[g]? = some (.emitRLock ev .stopMonitor) ∧ t.mu.writer = some g := by
  induction later with
  | refl => exact ⟨at_g, reachable_writerInv reach g _ at_g rfl⟩
  | tail earlier next ih =>
    obtain ⟨a, h⟩ := next
    exact step_stopMonitor_blocked (reachable_writerInv (reach.trans earlier)) ih.1 h

end

/-- `Monitor("inproc://monitor", EventAll)` returns, then `StopMonitor` is called. -/
def stopAfterMonitor : List Action :=
  [.call (.monitor "inproc://monitor" EventAll), .run 0, .run 0, .call .stopMonitor, .run 2, .run 2]

/-- `Monitor` returns; an `emitEvent` reads the monitor and its `active` flag; the context is
    cancelled and `runMonitor` closes the channel; then the `emitEvent` sends. -/
def emitAcrossCancel : List Action :=
  [.call (.monitor "inproc://monitor" EventAll), .run 0, .run 0,
    .call (.emitEvent EventConnected "tcp://127.0.0.1:5555" 0), .run 2, .run 2, .run 2, .cancel,
    .run 1, .run 1, .run 1, .run 2]

/-- After `stopAfterMonitor`, `StopMonitor` waits for ever in `emitEvent`'s `RLock` while it holds
    the write lock; after `emitAcrossCancel`, the program panics sending on a closed channel. -/
theorem monitor_protocol_fails :
    (∃ s, run start stopAfterMonitor = some s ∧
      ∀ t, Relation.ReflTransGen Step s t →
        t.threads[2]? = some (.emitRLock ⟨EventMonitorStopped, "inproc://monitor", 0⟩ .stopMonitor) ∧
          t.mu.writer = some 2) ∧
    (∃ s, run start emitAcrossCancel = some s ∧ s.fault = some .sendOnClosed) :=
  ⟨⟨_, rfl, fun _ later => stopMonitor_blocked (@reachable_run _ _ stopAfterMonitor .refl rfl) rfl later⟩,
    ⟨_, rfl, rfl⟩⟩

end Zmq4.Monitor
