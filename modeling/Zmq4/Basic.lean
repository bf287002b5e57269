import Mathlib.Logic.Relation
import Mathlib.Data.List.Infix

/-!
The pieces of Go and of `zmq4` that every model below shares: error values as `fmt.Errorf`
builds them (`GoError`, `GoError.errorf`), the run-time panics the code can hit (`Fault`),
buffered channels with Go's send, receive and close (`Chan`), the owners of a
`sync.RWMutex` (`RWMutex`), maps (`GoMap`), and messages (`Msg`, `NewMsg`, `Msg.clone`).
-/

namespace Zmq4

/-- An `error` value: `errors.New`/`fmt.Errorf` without `%w`, a `%w` of an error, a `%w` of nil. -/
inductive GoError where
  | new (text : String)
  | wrap (text : String) (inner : GoError)
  | wrapNil (text : String)
  deriving DecidableEq, Repr

/-- `err.Error()`. -/
def GoError.error : GoError → String
  | .new text => text
  | .wrap text _ => text
  | .wrapNil text => text

/-- `errors.Unwrap`. -/
def GoError.unwrap : GoError → Option GoError
  | .wrap _ inner => some inner
  | _ => none

/-- `fmt.Errorf(format + "%w", inner)`, where `text` is the rest of the format already printed:
    a nil operand prints as `%!w(<nil>)` and is what the error wraps. -/
def GoError.errorf (text : String) : Option GoError → GoError
  | some inner => .wrap (text ++ inner.error) inner
  | none => .wrapNil (text ++ "%!w(<nil>)")

@[simp] theorem GoError.unwrap_errorf (text : String) (inner : Option GoError) :
    (GoError.errorf text inner).unwrap = inner := by
  cases inner <;> rfl

/-- A bind in `Except` that returned a value ran both halves. -/
theorem bind_eq_ok {ε α β : Type} {x : Except ε α} {f : α → Except ε β} {b : β}
    (h : x >>= f = .ok b) : ∃ a, x = .ok a ∧ f a = .ok b := by
  cases x with
  | error e => cases h
  | ok a => exact ⟨a, rfl, h⟩

theorem map_eq_ok {ε α β : Type} {x : Except ε α} {f : α → β} {b : β}
    (h : x.map f = .ok b) : ∃ a, x = .ok a ∧ f a = b := by
  cases x with
  | error e => cases h
  | ok a => exact ⟨a, rfl, by cases h; rfl⟩

/-- A run-time panic, with Go's message. -/
inductive Fault where
  | sendOnClosed
  | closeOfClosed
  | capOutOfRange
  | nilDereference
  deriving DecidableEq, Repr

def Fault.message : Fault → String
  | .sendOnClosed => "send on closed channel"
  | .closeOfClosed => "close of closed channel"
  | .capOutOfRange => "makeslice: cap out of range"
  | .nilDereference => "invalid memory address or nil pointer dereference"

/-! ### Channels -/

/-- A channel made by `make(chan α, cap)`: the values queued in its buffer, never more than its
    capacity, and whether it was closed. -/
structure Chan (α : Type) where
  buffer : List α
  cap : Nat
  closed : Bool
  bounded : buffer.length ≤ cap

instance {α : Type} [DecidableEq α] : DecidableEq (Chan α) := fun a b =>
  decidable_of_iff (a.buffer = b.buffer ∧ a.cap = b.cap ∧ a.closed = b.closed) (by
    cases a; cases b; simp)

namespace Chan
variable {α : Type}

/-- `make(chan α, cap)`. -/
def make (cap : Nat) : Chan α := ⟨[], cap, false, Nat.zero_le _⟩

/-- A send whose `select` case is chosen: a panic on a closed channel, else the value joins the
    buffer. `none` when the send is not ready (the buffer is full), so it blocks or takes `default`. -/
def send (c : Chan α) (v : α) : Option (Except Fault (Chan α)) :=
  if c.closed then some (.error .sendOnClosed)
  else if room : c.buffer.length < c.cap then
    some (.ok ⟨c.buffer ++ [v], c.cap, c.closed, by simpa using room⟩)
  else none

/-- A receive: the oldest buffered value, or the zero value (`none`) once the channel is closed
    and drained. `none` outside when it blocks. -/
def recv (c : Chan α) : Option (Option α × Chan α) :=
  match c with
  | ⟨v :: rest, cap, closed, bounded⟩ =>
    some (some v, ⟨rest, cap, closed, Nat.le_trans (Nat.le_succ _) bounded⟩)
  | ⟨[], _, closed, _⟩ => if closed then some (none, c) else none

/-- `close(c)`. -/
def close (c : Chan α) : Except Fault (Chan α) :=
  if c.closed then .error .closeOfClosed else .ok { c with closed := true }

@[simp] theorem make_buffer (cap : Nat) : (make cap : Chan α).buffer = [] := rfl
@[simp] theorem make_cap (cap : Nat) : (make cap : Chan α).cap = cap := rfl
@[simp] theorem make_closed (cap : Nat) : (make cap : Chan α).closed = false := rfl

theorem send_eq_some_ok {c c' : Chan α} {v : α} (h : c.send v = some (.ok c')) :
    c.closed = false ∧ c'.buffer = c.buffer ++ [v] ∧ c'.cap = c.cap ∧ c'.closed = c.closed := by
  unfold send at h
  split at h
  · cases h
  · split at h
    · cases h; simp_all
    · cases h

theorem send_eq_some_error {c : Chan α} {v : α} {f : Fault} (h : c.send v = some (.error f)) :
    c.closed = true ∧ f = .sendOnClosed := by
  unfold send at h
  split at h
  · cases h; simp_all
  · split at h <;> cases h

theorem send_of_open {c : Chan α} (v : α) (notClosed : c.closed = false)
    (room : c.buffer.length < c.cap) :
    ∃ c', c.send v = some (.ok c') ∧ c'.buffer = c.buffer ++ [v] := by
  simp [send, notClosed, room]

theorem recv_eq_some {c c' : Chan α} {v : Option α} (h : c.recv = some (v, c')) :
    (∃ w, v = some w ∧ c.buffer = w :: c'.buffer ∧ c'.cap = c.cap ∧ c'.closed = c.closed) ∨
      (v = none ∧ c.buffer = [] ∧ c.closed = true ∧ c' = c) := by
  rcases c with ⟨_ | ⟨w, rest⟩, cap, closed, bounded⟩
  · cases closed <;> simp_all [recv]
  · simp only [recv, Option.some.injEq, Prod.mk.injEq] at h
    obtain ⟨rfl, rfl⟩ := h
    exact .inl ⟨w, rfl, rfl, rfl, rfl⟩

theorem recv_cap {c c' : Chan α} {v : Option α} (h : c.recv = some (v, c')) : c'.cap = c.cap := by
  rcases recv_eq_some h with ⟨-, -, -, cap, -⟩ | ⟨-, -, -, rfl⟩
  · exact cap
  · rfl

theorem close_eq_ok {c c' : Chan α} (h : c.close = .ok c') :
    c.closed = false ∧ c'.buffer = c.buffer ∧ c'.cap = c.cap ∧ c'.closed = true := by
  unfold close at h
  split at h
  · cases h
  · cases h; simp_all

theorem close_eq_error {c : Chan α} {f : Fault} (h : c.close = .error f) :
    c.closed = true ∧ f = .closeOfClosed := by
  unfold close at h
  split at h
  · cases h; simp_all
  · cases h

/-- A send is ready when the buffer has room; on a closed channel it panics. -/
theorem send_isSome {c : Chan α} (v : α) (room : c.buffer.length < c.cap) : (c.send v).isSome := by
  unfold send; split <;> simp [room]

/-- A receive is ready when a value is buffered or the channel is closed. -/
theorem recv_isSome {c : Chan α} (ready : c.buffer ≠ [] ∨ c.closed = true) : c.recv.isSome := by
  rcases c with ⟨_ | ⟨w, rest⟩, cap, closed, bounded⟩
  · simp_all [recv]
  · rfl

end Chan

/-! ### Read/write locks -/

/-- A `sync.RWMutex` with the goroutines that hold it: the writer, and the readers in the order
    they took it. Go does not record owners; the model does, so that a goroutine waiting for a
    lock it holds can be stated. -/
structure RWMutex where
  writer : Option Nat
  readers : List Nat
  deriving DecidableEq, Repr

namespace RWMutex

/-- The unlocked mutex, a zero `sync.RWMutex`. -/
def unlocked : RWMutex := ⟨none, []⟩

/-- `Lock()` by goroutine `g`: it waits until no goroutine holds the mutex. -/
def lock (m : RWMutex) (g : Nat) : Option RWMutex :=
  if m.writer = none ∧ m.readers = [] then some ⟨some g, []⟩ else none

/-- `RLock()` by goroutine `g`: it waits while a writer holds the mutex. -/
def rlock (m : RWMutex) (g : Nat) : Option RWMutex :=
  if m.writer = none then some ⟨none, g :: m.readers⟩ else none

/-- `Unlock()`. -/
def unlock (m : RWMutex) : RWMutex := { m with writer := none }

/-- `RUnlock()` by goroutine `g`. -/
def runlock (m : RWMutex) (g : Nat) : RWMutex := { m with readers := m.readers.erase g }

/-- Goroutine `g` holds the mutex, for reading or for writing. -/
def Holds (m : RWMutex) (g : Nat) : Prop := m.writer = some g ∨ g ∈ m.readers

theorem lock_eq_some {m m' : RWMutex} {g : Nat} (h : m.lock g = some m') :
    m.writer = none ∧ m.readers = [] ∧ m' = ⟨some g, []⟩ := by
  unfold lock at h
  split at h
  · cases h; simp_all
  · cases h

theorem rlock_eq_some {m m' : RWMutex} {g : Nat} (h : m.rlock g = some m') :
    m.writer = none ∧ m' = ⟨none, g :: m.readers⟩ := by
  unfold rlock at h
  split at h
  · cases h; simp_all
  · cases h

@[simp] theorem rlock_of_writer {m : RWMutex} {g w : Nat} (held : m.writer = some w) :
    m.rlock g = none := by
  simp [rlock, held]

@[simp] theorem lock_of_writer {m : RWMutex} {g w : Nat} (held : m.writer = some w) :
    m.lock g = none := by
  simp [lock, held]

end RWMutex

/-! ### Maps -/

/-- A Go `map[K]V`: its entries, one per key, in the order the model iterates them (Go's
    order is unspecified). -/
structure GoMap (K V : Type) [DecidableEq K] where
  entries : List (K × V)
  keys_nodup : (entries.map Prod.fst).Nodup

namespace GoMap
variable {K V : Type} [DecidableEq K]

/-- `make(map[K]V)`. -/
def empty : GoMap K V := ⟨[], List.nodup_nil⟩

/-- `m[k]`, with `ok`. -/
def get (m : GoMap K V) (k : K) : Option V := (m.entries.find? fun e => e.1 = k).map Prod.snd

/-- `delete(m, k)`. -/
def delete (m : GoMap K V) (k : K) : GoMap K V :=
  ⟨m.entries.filter fun e => e.1 ≠ k, m.keys_nodup.sublist ((List.filter_sublist _).map _)⟩

/-- `m[k] = v`. -/
def set (m : GoMap K V) (k : K) (v : V) : GoMap K V :=
  ⟨(k, v) :: (m.delete k).entries,
    List.nodup_cons.mpr ⟨by simp [delete], (m.delete k).keys_nodup⟩⟩

@[simp] theorem get_empty (k : K) : (empty : GoMap K V).get k = none := rfl

@[simp] theorem get_delete (m : GoMap K V) (k k' : K) :
    (m.delete k).get k' = if k' = k then none else m.get k' := by
  by_cases same : k' = k
  · subst same; simp [get, delete]
  · simp only [get, delete, List.find?_filter, same, if_false]
    congr 2; funext e; by_cases e.1 = k' <;> simp_all

@[simp] theorem get_set (m : GoMap K V) (k k' : K) (v : V) :
    (m.set k v).get k' = if k' = k then some v else m.get k' := by
  by_cases same : k' = k
  · subst same; simp [get, set]
  · have := get_delete m k k'
    simp only [get, set, List.find?_cons, same] at this ⊢
    simpa [Ne.symm same] using this

/-- Deleting a key just set, that was not there before, gives the map back. -/
theorem delete_set_of_absent {m : GoMap K V} {k : K} (v : V) (absent : m.get k = none) :
    (m.set k v).delete k = m := by
  have keys : ∀ e ∈ m.entries, e.1 ≠ k := by simpa [get] using absent
  cases m with
  | mk entries nodup =>
    simp only [set, delete, mk.injEq, List.filter_cons, ne_eq, not_true_eq_false, decide_False,
      List.filter_filter, Bool.and_self]
    exact List.filter_eq_self.mpr fun e inside => by simpa using keys e inside

/-- A value found under a key is an entry of the map. -/
theorem mem_of_get {m : GoMap K V} {k : K} {v : V} (found : m.get k = some v) : (k, v) ∈ m.entries := by
  obtain ⟨⟨k', v'⟩, first, rfl⟩ := Option.map_eq_some'.mp found
  obtain rfl : k' = k := by simpa using List.find?_some first
  exact List.mem_of_find?_eq_some first

end GoMap

/-! ### Messages -/

/-- The two directions a proxy forwards in, named after `Proxy`'s channels. -/
inductive Dir where
  | frontToBack
  | backToFront
  deriving DecidableEq, Repr


/-- A `zmq4.Msg`: its frames, each a byte string. -/
structure Msg where
  frames : List (List UInt8)
  deriving DecidableEq, Repr

/-- `NewMsg(body)`: a message of one frame. -/
def NewMsg (body : List UInt8) : Msg := ⟨[body]⟩

/-- Modelled from the spec: `Msg.Clone` is not under src/, only its tests; the spec has it make a
    deep, independent copy. A copy of values has the same frames. -/
def Msg.clone (m : Msg) : Msg := ⟨m.frames.map fun frame => frame⟩

@[simp] theorem Msg.clone_eq (m : Msg) : m.clone = m := by
  simp [Msg.clone]

end Zmq4
