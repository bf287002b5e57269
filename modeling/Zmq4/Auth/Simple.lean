import Zmq4.Auth

/-!
The first `auth.go`, "simple auth": one `authStarted` flag, an `AuthCurvePublic` that only checks
that the key decodes, and allow, deny and CURVE calls that do nothing. Its `NewCurveKeypair`,
`Z85encode` and `Z85decode` are those of the second file.

The second file refines it. From any registry, over any sequence of calls, the registry runs
exactly when the first file's flag is set, and the same calls fail in both: the first fails with
`already started` exactly where the second fails with `authentication already running`
(`trace_refines`). The second `AuthCurvePublic` returns what the first returns on keys of 64
digits and rejects every other key the first accepts (`AuthCurvePublic_refines`).
-/

namespace Zmq4.SimpleAuth
open hex

/-- `AuthCurvePublic(secretKey)`: the key itself, once it decodes. -/
def AuthCurvePublic (secretKey : List UInt8) : Except GoError (List UInt8) :=
  match (DecodeString secretKey).2 with
  | some err => .error (.new err.Error)
  | none => .ok secretKey

/-- The second `AuthCurvePublic` is the first one followed by the length check. -/
theorem AuthCurvePublic_refines (secretKey : List UInt8) :
    Zmq4.AuthCurvePublic secretKey = match SimpleAuth.AuthCurvePublic secretKey with
      | .ok key => if secretKey.length = 64 then .ok key else .error (.new "invalid secret key length")
      | .error err => .error err := by
  unfold Zmq4.AuthCurvePublic SimpleAuth.AuthCurvePublic; dsimp only
  cases decoded : (DecodeString secretKey).2 with
  | some err => rfl
  | none =>
    dsimp only
    have length := DecodeString_length secretKey decoded
    by_cases sixtyFour : secretKey.length = 64
    · rw [if_pos sixtyFour, if_neg (by omega)]
    · rw [if_neg sixtyFour, if_pos (by omega)]

/-- `AuthStart()`, on `authStarted`: the flag after the call, and what the call returned. -/
def AuthStart (authStarted : Bool) : Bool × Option GoError :=
  if authStarted then (authStarted, some (.new "already started")) else (true, none)

/-- `AuthStop()`: the flag after the call. -/
def AuthStop : Bool := false

/-- A call of the first file, on `authStarted`: `AuthSetVerbose`, `AuthAllow`, `AuthDeny`,
    `AuthCurveAdd` and `AuthCurveRemove` do nothing. -/
def exec (authStarted : Bool) : Auth.Call → Bool × Option GoError
  | .start => AuthStart authStarted
  | .stop => (AuthStop, none)
  | _ => (authStarted, none)

/-- The state after `calls`, and what each call returned, in order. -/
def trace {σ : Type} (exec : σ → Auth.Call → σ × Option GoError) : σ → List Auth.Call → σ × List (Option GoError)
  | s, [] => (s, [])
  | s, call :: calls =>
    let rest := trace exec (exec s call).1 calls
    (rest.1, (exec s call).2 :: rest.2)

/-- What the second file returns where the first returns `err`. -/
def renamed (err : Option GoError) : Option GoError :=
  err.map fun _ => .new "authentication already running"

/-- One call keeps the registry's `running` field equal to the flag, and fails exactly when the
    first file's call fails. -/
theorem exec_refines (auth : Auth) (call : Auth.Call) :
    (Auth.exec auth call).1.running = (exec auth.running call).1 ∧
      (Auth.exec auth call).2 = renamed (exec auth.running call).2 := by
  cases call with
  | start => cases running : auth.running <;> simp [Auth.exec, exec, Auth.AuthStart, AuthStart, running, renamed]
  | curveRemove domain publicKey =>
    refine ⟨?_, rfl⟩
    simp only [Auth.exec, Auth.AuthCurveRemove]
    split <;> rfl
  | _ => exact ⟨rfl, rfl⟩

/-- From any registry, a run of calls keeps its `running` field equal to the first file's flag,
    and fails at exactly the calls where the first file fails. -/
theorem trace_refines (auth : Auth) (calls : List Auth.Call) :
    (trace Auth.exec auth calls).1.running = (trace exec auth.running calls).1 ∧
      (trace Auth.exec auth calls).2 = (trace exec auth.running calls).2.map renamed := by
  induction calls generalizing auth with
  | nil => exact ⟨rfl, rfl⟩
  | cons call calls ih =>
    obtain ⟨running, failed⟩ := exec_refines auth call
    obtain ⟨running', failed'⟩ := ih (Auth.exec auth call).1
    rw [running] at running' failed'
    exact ⟨running', by simp only [trace, List.map_cons, failed, failed']⟩

example : (trace exec false [.start, .start, .stop, .start]).2 = [none, some (.new "already started"), none, none] ∧
    (trace Auth.exec .initial [.start, .start, .stop, .start]).2 =
      [none, some (.new "authentication already running"), none, none] := ⟨rfl, rfl⟩

end Zmq4.SimpleAuth
