import Zmq4.Networking.Messaging

/-!
`SendWithRetry` and `BroadcastWithRetry` run one loop, `retryLoop`: up to `MaxRetries` calls,
stopping at the first success, sleeping `(i+1) * RetryDelay` after a failed call `i` unless it
ran the last iteration, and returning an error that wraps the last call's error. Whatever the
calls return, the loop obeys `RetryLaw` (`retry_attempts`): with `MaxRetries` positive it makes
between one and `MaxRetries` calls, every call but the last failed, and it returns nil exactly
when the last call succeeded. `New` keeps a negative `MaxRetries`, and then no call is made and
the error returned wraps nil (`retry_without_attempt`).
-/

namespace Zmq4.Networking
open Transport

/-- `time.Duration(i+1) * RetryDelay`: a product of `int64`s, which wraps. -/
def backoff (i : Nat) (retryDelay : Int) : Int := Int.bmod ((i + 1) * retryDelay) 18446744073709551616

/-- `fmt.Errorf("failed after %d retries: %w", MaxRetries, lastErr)`. -/
def failedAfter (maxRetries : Int) (lastErr : Option GoError) : GoError :=
  .errorf ("failed after " ++ toString maxRetries ++ " retries: ") lastErr

/-- What a retry loop did: the state it leaves and what it returns, and, ghost, what each call it
    made returned and how long it slept between them. -/
structure Retried (σ : Type) where
  state : σ
  result : Option GoError
  attempts : List (Option GoError)
  sleeps : List Int

section Loop
variable {σ : Type} (maxRetries retryDelay : Int) (attempt : Nat → σ → Except Fault (σ × Option GoError))

/-- `for i := 0; i < MaxRetries; i++` from iteration `i`, with `n` iterations left and `lastErr`
    so far; `attempt i` is the call of iteration `i`. -/
def retryLoop : Nat → Nat → σ → Option GoError → Except Fault (Retried σ)
  | 0, _, s, lastErr => .ok ⟨s, some (failedAfter maxRetries lastErr), [], []⟩
  | n + 1, i, s, _ => do
    let (s, result) ← attempt i s
    match result with
    | none => pure ⟨s, none, [none], []⟩
    | some err =>
      let slept := if (i : Int) < maxRetries - 1 then [backoff i retryDelay] else []
      let rest ← retryLoop n (i + 1) s (some err)
      pure { rest with attempts := some err :: rest.attempts, sleeps := slept ++ rest.sleeps }

/-- The whole loop: `MaxRetries` iterations, none when it is not positive. -/
def retry (s : σ) : Except Fault (Retried σ) :=
  retryLoop maxRetries retryDelay attempt maxRetries.toNat 0 s none

/-- The calls of a loop of `n` iterations: failures, then a success before the `n`-th call; or
    `n` failures, and an error wrapping the last one (or `lastErr` when `n` is 0). -/
def RetryOutcome (n : Nat) (lastErr : Option GoError) (r : Retried σ) : Prop :=
  ∃ errs : List GoError,
    (r.attempts = errs.map some ++ [none] ∧ errs.length < n ∧ r.result = none) ∨
    (r.attempts = errs.map some ∧ errs.length = n ∧
      r.result = some (failedAfter maxRetries (errs.getLast?.or lastErr)))

theorem retryLoop_outcome {n i : Nat} {s : σ} {lastErr : Option GoError} {r : Retried σ}
    (ran : retryLoop maxRetries retryDelay attempt n i s lastErr = .ok r) :
    RetryOutcome maxRetries n lastErr r := by
  induction n generalizing i s lastErr r with
  | zero => cases ran; exact ⟨[], .inr ⟨rfl, rfl, rfl⟩⟩
  | succ n ih =>
    obtain ⟨⟨s', result⟩, -, rest⟩ := bind_eq_ok ran
    cases result with
    | none => cases rest; exact ⟨[], .inl ⟨rfl, by simp, rfl⟩⟩
    | some err =>
      obtain ⟨r', looped, done⟩ := bind_eq_ok rest
      cases done
      obtain ⟨errs, ⟨attempts, short, success⟩ | ⟨attempts, full, failure⟩⟩ := ih looped
      · exact ⟨err :: errs, .inl ⟨by simp [attempts], by simp; omega, success⟩⟩
      · refine ⟨err :: errs, .inr ⟨by simp [attempts], by simp [full], ?_⟩⟩
        simp only [failure, List.getLast?_cons]
        cases errs.getLast? <;> rfl

/-- A property that every call keeps holds of the state the loop leaves. -/
theorem retryLoop_state (P : σ → Prop) (calls : ∀ i s s' result, P s → attempt i s = .ok (s', result) → P s')
    {n i : Nat} {s : σ} {lastErr : Option GoError} {r : Retried σ} (holds : P s)
    (ran : retryLoop maxRetries retryDelay attempt n i s lastErr = .ok r) : P r.state := by
  induction n generalizing i s lastErr r with
  | zero => cases ran; exact holds
  | succ n ih =>
    obtain ⟨⟨s', result⟩, called, rest⟩ := bind_eq_ok ran
    have holds' := calls i s s' result holds called
    cases result with
    | none => cases rest; exact holds'
    | some err =>
      obtain ⟨r', looped, done⟩ := bind_eq_ok rest
      cases done
      exact (ih holds' looped : P r'.state)

/-- A loop whose calls keep `P` and never panic does not panic either. -/
theorem retryLoop_ok (P : σ → Prop)
    (calls : ∀ i s, P s → ∃ s' result, attempt i s = .ok (s', result) ∧ P s')
    (n i : Nat) (s : σ) (lastErr : Option GoError) (holds : P s) :
    ∃ r, retryLoop maxRetries retryDelay attempt n i s lastErr = .ok r := by
  induction n generalizing i s lastErr with
  | zero => exact ⟨_, rfl⟩
  | succ n ih =>
    obtain ⟨s', result, called, holds'⟩ := calls i s holds
    cases result with
    | none => exact ⟨_, by simp [retryLoop, called, bind, Except.bind]; rfl⟩
    | some err =>
      obtain ⟨r, looped⟩ := ih (i + 1) s' (some err) holds'
      exact ⟨_, by simp [retryLoop, called, looped, bind, Except.bind]; rfl⟩

/-- What the retry loops promise, for `MaxRetries = maxRetries`: a call when `maxRetries` is
    positive, at most `maxRetries` calls, each failed but perhaps the last, nil exactly when the
    last call succeeded, and otherwise an error wrapping the last call's error (nil when no call
    was made). -/
structure RetryLaw (r : Retried σ) : Prop where
  some_call : 1 ≤ maxRetries → r.attempts ≠ []
  at_most : r.attempts.length ≤ maxRetries.toNat
  failed_before : none ∉ r.attempts.dropLast
  nil_iff : r.result = none ↔ r.attempts.getLast? = some none
  wraps : ∀ e, r.result = some e → e = failedAfter maxRetries (r.attempts.getLast?.bind id)

theorem retryLaw_of_outcome {r : Retried σ} (outcome : RetryOutcome maxRetries maxRetries.toNat none r) :
    RetryLaw maxRetries r := by
  obtain ⟨errs, ⟨attempts, short, success⟩ | ⟨attempts, full, failure⟩⟩ := outcome
  · refine ⟨fun _ => by simp [attempts], by simp [attempts]; omega, ?_, ?_, ?_⟩ <;>
      simp [attempts, success, List.dropLast_concat]
  · have lastAttempt : (errs.map some).getLast? = errs.getLast?.map some := by
      cases errs using List.reverseRecOn <;> simp
    refine ⟨fun positive => ?_, by simp [attempts, full], ?_, ?_, ?_⟩
    · rw [attempts, Ne, List.map_eq_nil_iff, ← List.length_eq_zero]; omega
    · rw [attempts]
      exact fun inside => by simpa using List.dropLast_subset _ inside
    · simp [attempts, failure, lastAttempt]
    · intro e result
      simp only [failure, Option.some.injEq] at result
      subst result
      rw [attempts, lastAttempt]
      cases errs.getLast? <;> rfl

theorem retry_law (P : σ → Prop) (calls : ∀ i s, P s → ∃ s' result, attempt i s = .ok (s', result) ∧ P s')
    (s : σ) (holds : P s) : ∃ r, retry maxRetries retryDelay attempt s = .ok r ∧ RetryLaw maxRetries r := by
  obtain ⟨r, ran⟩ := retryLoop_ok maxRetries retryDelay attempt P calls _ 0 s none holds
  exact ⟨r, ran, retryLaw_of_outcome maxRetries (retryLoop_outcome maxRetries retryDelay attempt ran)⟩

end Loop

/-- `SendWithRetry(peerID, msg)`: call `i` reads the clock at `clock i`, and its `dealer.Send`
    returns `sent i`. All calls share the message pointer. -/
def Transport.SendWithRetry (json : JsonCodec) (t : Transport) (peerID : String) (msg : Message)
    (clock : Nat → Int) (sent : Nat → Option GoError) : Except Fault (Retried (Transport × Message)) :=
  retry t.config.MaxRetries t.config.RetryDelay
    (fun i (t, msg) =>
      let (t, msg, err) := t.Send json peerID msg (clock i) (sent i)
      .ok ((t, msg), err))
    (t, msg)

/-- `BroadcastWithRetry(msg)`: call `i` reads the clock at `clock i`, and its `pub.Send` returns
    `sent i`. -/
def Transport.BroadcastWithRetry (json : JsonCodec) (t : Transport) (msg : Message)
    (clock : Nat → Int) (sent : Nat → Option GoError) : Except Fault (Retried (Transport × Message)) :=
  retry t.config.MaxRetries t.config.RetryDelay
    (fun i (t, msg) => do
      let (t, msg, err) ← t.Broadcast json msg (clock i) (sent i)
      pure ((t, msg), err))
    (t, msg)

/-- `Broadcast` on a transport whose PUB socket is not nil returns, and keeps the socket. -/
theorem Broadcast_total (json : JsonCodec) (t : Transport) (m : Message) (now : Int) (sent : Option GoError)
    (started : t.pub.isSome) :
    ∃ t' m' err, t.Broadcast json m now sent = .ok (t', m', err) ∧ t'.pub = t.pub := by
  obtain ⟨pub, found⟩ := Option.isSome_iff_exists.mp started
  simp only [Broadcast, found]
  split <;> simp [found, sendOn]

/-- The retry loops obey `RetryLaw` whatever their calls return; `BroadcastWithRetry` needs a
    PUB socket, as after `Start`. -/
theorem retry_attempts (json : JsonCodec) (t : Transport) (peerID : String) (msg : Message)
    (clock : Nat → Int) (sent : Nat → Option GoError) :
    (∃ r, t.SendWithRetry json peerID msg clock sent = .ok r ∧ RetryLaw t.config.MaxRetries r) ∧
      (t.pub.isSome → ∃ r, t.BroadcastWithRetry json msg clock sent = .ok r ∧ RetryLaw t.config.MaxRetries r) := by
  refine ⟨retry_law _ _ _ (fun _ => True) (fun _ _ _ => ⟨_, _, rfl, trivial⟩) _ trivial, fun started => ?_⟩
  refine retry_law _ _ _ (fun s => s.1.pub.isSome) (fun i s pub => ?_) _ started
  obtain ⟨t', m', err, broadcast, kept⟩ := Broadcast_total json s.1 s.2 (clock i) (sent i) pub
  exact ⟨(t', m'), err, by simp [broadcast, bind, Except.bind]; rfl, by simpa [kept] using pub⟩

/-- Node `node1` started with `DefaultConfig`: both retry loops obey `RetryLaw`. -/
theorem retry_attempts_started :
    (∃ r, (Start (New (DefaultConfig "node1" 5000)) none none).1.SendWithRetry stringsCodec "node2"
        ⟨"vote", "", "", [], 0, 0, [], 0⟩ (fun _ => 0) (fun _ => none) = .ok r ∧ RetryLaw 3 r) ∧
      ∃ r, (Start (New (DefaultConfig "node1" 5000)) none none).1.BroadcastWithRetry stringsCodec
        ⟨"vote", "", "", [], 0, 0, [], 0⟩ (fun _ => 0) (fun _ => none) = .ok r ∧ RetryLaw 3 r :=
  have attempts := retry_attempts stringsCodec (Start (New (DefaultConfig "node1" 5000)) none none).1 "node2"
    ⟨"vote", "", "", [], 0, 0, [], 0⟩ (fun _ => 0) (fun _ => none)
  ⟨attempts.1, attempts.2 rfl⟩

/-- A `MaxRetries` of -1 passes `New`, and `SendWithRetry` then makes no call at all and returns
    an error that wraps nil. -/
theorem retry_without_attempt :
    (New ⟨"node1", 5000, "", -1, 0, 0⟩).config.MaxRetries = -1 ∧
      ∃ r, (Start (New ⟨"node1", 5000, "", -1, 0, 0⟩) none none).1.SendWithRetry stringsCodec "node2"
          ⟨"vote", "", "", [], 0, 0, [], 0⟩ (fun _ => 0) (fun _ => none) = .ok r ∧
        r.attempts = [] ∧ r.result = some (.wrapNil "failed after -1 retries: %!w(<nil>)") :=
  ⟨rfl, _, rfl, rfl, rfl⟩

end Zmq4.Networking
