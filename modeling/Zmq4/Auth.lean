import Zmq4.Basic
import Mathlib.Tactic.IntervalCases

/-!
`auth.go`: the hex codec that stands in for Z85 (`Z85encode`, `Z85decode`), the CURVE key
helpers, and the authentication registry behind `AuthStart` and the calls next to it. A Go
`string` is a byte string here.

`Z85decode` reads back what `Z85encode` wrote (`Z85decode_Z85encode`) and accepts exactly the
texts of even length made of hex digits (`DecodeString_ok_iff`), decoding half as many bytes;
on any text it returns the bytes of the longest even run of digits the text starts with, and its
error names the first byte that is not a digit, or else the odd length (`Z85decode_spec`).
`AuthCurvePublic` accepts exactly the texts of 64 hex digits and returns them unchanged
(`AuthCurvePublic_ok_iff`), so the secret of a pair from `NewCurveKeypair` gives back its public
key (`AuthCurvePublic_keypair`). Over any run of the registry's calls, `AuthStart` fails exactly
when a start since the last `AuthStop` has succeeded (`run_running`), and the allow and deny lists
of a domain hold the addresses given for it since the last `AuthStop`, in order (`run_allow`,
`run_deny`).
-/

namespace Zmq4

/-! ### `encoding/hex` -/

namespace hex

/-- `hextable`, as bytes. -/
def hextable : List UInt8 := "0123456789abcdef".toList.map fun c => c.toNat.toUInt8

/-- `hex.EncodeToString(src)`: two digits per byte, high half first. -/
def EncodeToString (src : List UInt8) : List UInt8 :=
  src.flatMap fun v => [hextable.getD (v.toNat >>> 4) 0, hextable.getD (v.toNat &&& 0x0f) 0]

/-- `fromHexChar(c)`: the value of a hex digit of either case. -/
def fromHexChar (c : UInt8) : Option Nat :=
  if 48 ≤ c.toNat ∧ c.toNat ≤ 57 then some (c.toNat - 48)
  else if 97 ≤ c.toNat ∧ c.toNat ≤ 102 then some (c.toNat - 97 + 10)
  else if 65 ≤ c.toNat ∧ c.toNat ≤ 70 then some (c.toNat - 65 + 10)
  else none

/-- The errors of `hex.DecodeString`. -/
inductive HexError where
  | ErrLength
  | InvalidByteError (b : UInt8)
  deriving DecidableEq, Repr

/-- A digit of `%X`. -/
def upperDigit (n : Nat) : Char := "0123456789ABCDEF".toList.getD n '0'

/-- `strconv.IsPrint` on a rune below 256. -/
def isPrint (b : UInt8) : Bool :=
  (0x20 ≤ b.toNat && b.toNat ≤ 0x7E) || (0xA1 ≤ b.toNat && b.toNat != 0xAD)

/-- `err.Error()`. An invalid byte is printed by `%#U`: `U+`, four hex digits, then the character
    in quotes when it is printable. -/
def HexError.Error : HexError → String
  | .ErrLength => "encoding/hex: odd length hex string"
  | .InvalidByteError b =>
    "encoding/hex: invalid byte: U+00" ++ String.mk [upperDigit (b.toNat >>> 4), upperDigit (b.toNat &&& 0x0f)] ++
      if isPrint b then " \x27" ++ String.mk [Char.ofNat b.toNat] ++ "\x27" else ""

/-- `hex.DecodeString(s)`: the bytes decoded before the first error, and the error. Pairs are read
    left to right; a lone last digit is `ErrLength`, a lone last non-digit `InvalidByteError`. -/
def DecodeString : List UInt8 → List UInt8 × Option HexError
  | [] => ([], none)
  | [p] => ([], some (if (fromHexChar p).isSome then .ErrLength else .InvalidByteError p))
  | p :: q :: rest =>
    match fromHexChar p, fromHexChar q with
    | none, _ => ([], some (.InvalidByteError p))
    | some _, none => ([], some (.InvalidByteError q))
    | some a, some b =>
      let decoded := DecodeString rest
      ((a <<< 4 ||| b).toUInt8 :: decoded.1, decoded.2)

end hex

open hex

/-- `Z85encode(data)`, which is `hex.EncodeToString`. -/
def Z85encode (data : List UInt8) : List UInt8 := EncodeToString data

/-- `Z85decode(text)`, which is `hex.DecodeString`. -/
def Z85decode (text : List UInt8) : List UInt8 × Option HexError := DecodeString text

/-- Each of the sixteen digits reads back as its value. -/
theorem fromHexChar_hextable {n : Nat} (small : n < 16) : fromHexChar (hextable.getD n 0) = some n := by
  interval_cases n <;> rfl

/-- The two halves `hex.EncodeToString` cuts a byte into. -/
theorem byte_halves (v : UInt8) : v.toNat >>> 4 = v.toNat / 16 ∧ v.toNat &&& 0x0f = v.toNat % 16 :=
  ⟨Nat.shiftRight_eq_div_pow _ _, Nat.and_pow_two_sub_one_eq_mod _ 4⟩

/-- A byte is its high half shifted back, or-ed with its low half. -/
theorem halves (v : UInt8) : ((v.toNat >>> 4) <<< 4 ||| (v.toNat &&& 0x0f)).toUInt8 = v := by
  have pack : ∀ a < 16, ∀ b < 16, a <<< 4 ||| b = a * 16 + b := by decide
  have lt : v.toNat < 256 := v.toNat_lt_size
  apply UInt8.toNat.inj
  rw [(byte_halves v).1, (byte_halves v).2, pack _ (by omega) _ (by omega), Nat.div_add_mod']
  exact UInt8.toNat_ofNat_of_lt lt

/-- Decoding what `hex.EncodeToString` wrote, followed by anything, reads the bytes back and goes on
    with the rest. -/
theorem DecodeString_EncodeToString_append (src rest : List UInt8) :
    DecodeString (EncodeToString src ++ rest) = (src ++ (DecodeString rest).1, (DecodeString rest).2) := by
  induction src with
  | nil => rfl
  | cons v src ih =>
    have lt : v.toNat < 256 := v.toNat_lt_size
    have high : v.toNat >>> 4 < 16 := by rw [(byte_halves v).1]; omega
    have low : v.toNat &&& 0x0f < 16 := by rw [(byte_halves v).2]; omega
    have encoded : EncodeToString (v :: src) ++ rest =
        hextable.getD (v.toNat >>> 4) 0 :: hextable.getD (v.toNat &&& 0x0f) 0 :: (EncodeToString src ++ rest) := rfl
    rw [encoded, DecodeString, fromHexChar_hextable high, fromHexChar_hextable low]
    simp [ih, halves]

theorem DecodeString_EncodeToString (src : List UInt8) : DecodeString (EncodeToString src) = (src, none) := by
  simpa [DecodeString] using DecodeString_EncodeToString_append src []

theorem Z85decode_Z85encode (data : List UInt8) : Z85decode (Z85encode data) = (data, none) :=
  DecodeString_EncodeToString data

/-- `hex.DecodeString` succeeds exactly on texts of even length made of hex digits. -/
theorem DecodeString_ok_iff : ∀ s : List UInt8,
    (DecodeString s).2 = none ↔ s.length % 2 = 0 ∧ ∀ c ∈ s, (fromHexChar c).isSome
  | [] => by simp [DecodeString]
  | [p] => by simp [DecodeString]
  | p :: q :: rest => by
    have parity : (rest.length + 1 + 1) % 2 = rest.length % 2 := by omega
    cases hp : fromHexChar p <;> cases hq : fromHexChar q <;>
      simp [DecodeString, hp, hq, DecodeString_ok_iff rest, parity, and_comm]

example : DecodeString [0x61, 0x67] = ([], some (.InvalidByteError 0x67)) ∧
    (HexError.InvalidByteError 0x67).Error = "encoding/hex: invalid byte: U+0067 \x27g\x27" := by
  decide

/-- A text that decodes decodes to half as many bytes. -/
theorem DecodeString_length : ∀ s : List UInt8, (DecodeString s).2 = none → (DecodeString s).1.length * 2 = s.length
  | [] => fun _ => rfl
  | [p] => by simp [DecodeString]
  | p :: q :: rest => fun ok => by
    cases hp : fromHexChar p <;> cases hq : fromHexChar q <;> simp [DecodeString, hp, hq] at ok ⊢
    have := DecodeString_length rest ok
    omega

/-- The 32 bytes `rand.Read` fills `secret` with. -/
structure Secret where
  bytes : List UInt8
  length_eq : bytes.length = 32

/-- `NewCurveKeypair()`, given what `rand.Read` returned: the public key is a copy of the secret,
    and both are written by `hex.EncodeToString`. -/
def NewCurveKeypair (random : Except GoError Secret) : Except GoError (List UInt8 × List UInt8) :=
  match random with
  | .error err => .error err
  | .ok secret =>
    let public := secret.bytes
    .ok (EncodeToString public, EncodeToString secret.bytes)

/-- `AuthCurvePublic(secretKey)`: the key itself, once it decodes to 32 bytes. -/
def AuthCurvePublic (secretKey : List UInt8) : Except GoError (List UInt8) :=
  let decoded := DecodeString secretKey
  match decoded.2 with
  | some err => .error (.new err.Error)
  | none => if decoded.1.length ≠ 32 then .error (.new "invalid secret key length") else .ok secretKey

/-- `AuthCurvePublic` accepts exactly the texts of 64 hex digits, and returns them unchanged. -/
theorem AuthCurvePublic_ok_iff (secretKey publicKey : List UInt8) :
    AuthCurvePublic secretKey = .ok publicKey ↔
      publicKey = secretKey ∧ secretKey.length = 64 ∧ ∀ c ∈ secretKey, (fromHexChar c).isSome := by
  unfold AuthCurvePublic; dsimp only
  cases decoded : (DecodeString secretKey).2 with
  | some err =>
    have bad := (DecodeString_ok_iff secretKey).not.mp (by simp [decoded])
    exact ⟨(fun h => nomatch h), fun ⟨_, length, digits⟩ => (bad ⟨by omega, digits⟩).elim⟩
  | none =>
    have length := DecodeString_length secretKey decoded
    have digits := ((DecodeString_ok_iff secretKey).mp decoded).2
    by_cases wrong : (DecodeString secretKey).1.length = 32
    · simp only [wrong, ne_eq, not_true_eq_false, if_false, Except.ok.injEq]
      exact ⟨fun same => ⟨same.symm, by omega, digits⟩, fun h => h.1.symm⟩
    · simp only [wrong, ne_eq, not_false_eq_true, if_true]
      exact ⟨(fun h => nomatch h), fun ⟨_, sixtyFour, _⟩ => absurd (by omega) wrong⟩

/-- The secret of a key pair gives back its public key. -/
theorem AuthCurvePublic_keypair {random : Except GoError Secret} {publicKey secretKey : List UInt8}
    (made : NewCurveKeypair random = .ok (publicKey, secretKey)) : AuthCurvePublic secretKey = .ok publicKey := by
  match random, made with
  | .ok ⟨secret, length⟩, made =>
    simp only [NewCurveKeypair, Except.ok.injEq, Prod.mk.injEq] at made
    obtain ⟨rfl, rfl⟩ := made
    simp [AuthCurvePublic, DecodeString_EncodeToString, length]

/-- The key pair made from 32 zero bytes. -/
theorem AuthCurvePublic_keypair_zero :
    NewCurveKeypair (.ok ⟨List.replicate 32 0, rfl⟩) =
        .ok (EncodeToString (List.replicate 32 0), EncodeToString (List.replicate 32 0)) ∧
      AuthCurvePublic (EncodeToString (List.replicate 32 0)) = .ok (EncodeToString (List.replicate 32 0)) :=
  ⟨rfl, @AuthCurvePublic_keypair (.ok ⟨List.replicate 32 0, rfl⟩) _ _ rfl⟩

/-! ### The registry -/

/-- `Auth`, the state behind `getAuth()`. `allow` and `deny` map a domain to its addresses. -/
structure Auth where
  verbose : Bool
  running : Bool
  curveKeys : GoMap String String
  allow : GoMap String (List String)
  deny : GoMap String (List String)

namespace Auth

/-- `getAuth()` the first time: nothing configured, not running. -/
def initial : Auth := ⟨false, false, .empty, .empty, .empty⟩

/-- What `AuthAllow` and `AuthDeny` do to their map: a nil list is made empty, then the addresses
    are appended. -/
def appendAddresses (m : GoMap String (List String)) (domain : String) (addresses : List String) :
    GoMap String (List String) :=
  let m := if (m.get domain).isNone then m.set domain [] else m
  m.set domain ((m.get domain).getD [] ++ addresses)

theorem get_appendAddresses (m : GoMap String (List String)) (domain domain' : String)
    (addresses : List String) :
    (appendAddresses m domain addresses).get domain' =
      if domain' = domain then some ((m.get domain).getD [] ++ addresses) else m.get domain' := by
  unfold appendAddresses
  split <;> rename_i absent <;> by_cases same : domain' = domain <;> simp_all

/-- `AuthStart()`. -/
def AuthStart (auth : Auth) : Auth × Option GoError :=
  if auth.running then (auth, some (.new "authentication already running"))
  else ({ auth with running := true }, none)

/-- `AuthStop()`: not running, and nothing configured. -/
def AuthStop (auth : Auth) : Auth :=
  { auth with running := false, curveKeys := .empty, allow := .empty, deny := .empty }

/-- `AuthSetVerbose(verbose)`. -/
def AuthSetVerbose (auth : Auth) (verbose : Bool) : Auth := { auth with verbose }

/-- `AuthAllow(domain, addresses...)`. -/
def AuthAllow (auth : Auth) (domain : String) (addresses : List String) : Auth :=
  { auth with allow := appendAddresses auth.allow domain addresses }

/-- `AuthDeny(domain, addresses...)`. -/
def AuthDeny (auth : Auth) (domain : String) (addresses : List String) : Auth :=
  { auth with deny := appendAddresses auth.deny domain addresses }

/-- `AuthCurveAdd(domain, publicKey)`. -/
def AuthCurveAdd (auth : Auth) (domain publicKey : String) : Auth :=
  { auth with curveKeys := auth.curveKeys.set domain publicKey }

/-- `AuthCurveRemove(domain, publicKey)`: only the domain's own key is removed; an absent key
    reads as the empty string. -/
def AuthCurveRemove (auth : Auth) (domain publicKey : String) : Auth :=
  if (auth.curveKeys.get domain).getD "" = publicKey then
    { auth with curveKeys := auth.curveKeys.delete domain }
  else auth

/-- A call on the registry. -/
inductive Call where
  | start
  | stop
  | setVerbose (verbose : Bool)
  | allow (domain : String) (addresses : List String)
  | deny (domain : String) (addresses : List String)
  | curveAdd (domain publicKey : String)
  | curveRemove (domain publicKey : String)
  deriving DecidableEq

/-- The registry after a call, and what the call returned. -/
def exec (auth : Auth) : Call → Auth × Option GoError
  | .start => auth.AuthStart
  | .stop => (auth.AuthStop, none)
  | .setVerbose verbose => (auth.AuthSetVerbose verbose, none)
  | .allow domain addresses => (auth.AuthAllow domain addresses, none)
  | .deny domain addresses => (auth.AuthDeny domain addresses, none)
  | .curveAdd domain publicKey => (auth.AuthCurveAdd domain publicKey, none)
  | .curveRemove domain publicKey => (auth.AuthCurveRemove domain publicKey, none)

/-- The registry after a run of calls. -/
def run (calls : List Call) : Auth := calls.foldl (fun auth call => (exec auth call).1) .initial

/-- The calls since the last `AuthStop`. -/
def sinceStop (calls : List Call) : List Call :=
  calls.foldl (fun since call => if call = .stop then [] else since ++ [call]) []

/-- The address lists that the calls picked by `pick` give `domain`, one per call. -/
def given (pick : Call → Option (String × List String)) (domain : String) (calls : List Call) :
    List (List String) :=
  calls.filterMap fun call => (pick call).bind fun p => if p.1 = domain then some p.2 else none

/-- The arguments of an `AuthAllow` call. -/
def allowArgs : Call → Option (String × List String)
  | .allow domain addresses => some (domain, addresses)
  | _ => none

/-- The arguments of an `AuthDeny` call. -/
def denyArgs : Call → Option (String × List String)
  | .deny domain addresses => some (domain, addresses)
  | _ => none

theorem run_concat (calls : List Call) (call : Call) : run (calls ++ [call]) = (exec (run calls) call).1 := by
  simp [run]

theorem sinceStop_concat (calls : List Call) (call : Call) :
    sinceStop (calls ++ [call]) = if call = .stop then [] else sinceStop calls ++ [call] := by
  simp [sinceStop]

/-- The registry runs exactly when a start since the last `AuthStop` succeeded. -/
theorem running_sinceStop (calls : List Call) : (run calls).running = decide (Call.start ∈ sinceStop calls) := by
  induction calls using List.reverseRecOn with
  | nil => rfl
  | append_singleton calls call ih =>
    rw [run_concat, sinceStop_concat]
    cases call <;>
      simp [exec, AuthStart, AuthStop, AuthSetVerbose, AuthAllow, AuthDeny,
        AuthCurveAdd, AuthCurveRemove, ih] <;> split <;> simp_all

/-- `AuthStart` fails exactly when a start since the last `AuthStop` succeeded, and the registry
    runs exactly then. -/
theorem run_running (calls : List Call) :
    (run calls).running = decide (Call.start ∈ sinceStop calls) ∧
      (run calls).AuthStart.2 =
        if Call.start ∈ sinceStop calls then some (.new "authentication already running") else none := by
  have running := running_sinceStop calls
  exact ⟨running, by simp [AuthStart, running, apply_ite Prod.snd]⟩

theorem given_concat (pick : Call → Option (String × List String)) (domain : String) (calls : List Call)
    (call : Call) :
    given pick domain (calls ++ [call]) =
      given pick domain calls ++ ((pick call).bind fun p => if p.1 = domain then some p.2 else none).toList := by
  unfold given; rw [List.filterMap_append]
  cases picked : pick call with
  | none => simp [picked]
  | some p => by_cases same : p.1 = domain <;> simp [picked, same]

/-- What a call does to a map of address lists kept from the calls `pick` picks: `AuthStop` empties
    it, a picked call appends to it, and every other call leaves it. -/
def stepAddresses (pick : Call → Option (String × List String)) (m : GoMap String (List String))
    (call : Call) : GoMap String (List String) :=
  if call = .stop then .empty
  else match pick call with
    | some (domain, addresses) => appendAddresses m domain addresses
    | none => m

theorem exec_allow (auth : Auth) (call : Call) : (exec auth call).1.allow = stepAddresses allowArgs auth.allow call := by
  cases call <;> first | rfl | (simp only [exec, AuthStart, AuthCurveRemove]; split <;> rfl)

theorem exec_deny (auth : Auth) (call : Call) : (exec auth call).1.deny = stepAddresses denyArgs auth.deny call := by
  cases call <;> first | rfl | (simp only [exec, AuthStart, AuthCurveRemove]; split <;> rfl)

section Lists
variable (pick : Call → Option (String × List String)) (field : Auth → GoMap String (List String))

/-- A map that every call changes by `stepAddresses` holds, for each domain, the addresses the
    picked calls since the last `AuthStop` gave it. -/
theorem run_lists (step : ∀ auth call, field (exec auth call).1 = stepAddresses pick (field auth) call)
    (initial : field .initial = .empty) (calls : List Call) (domain : String) :
    (field (run calls)).get domain =
      if given pick domain (sinceStop calls) = [] then none else some (given pick domain (sinceStop calls)).flatten := by
  induction calls using List.reverseRecOn with
  | nil => simp [run, sinceStop, given, initial]
  | append_singleton calls call ih =>
    rw [run_concat, sinceStop_concat, step, stepAddresses]
    by_cases stop : call = .stop
    · simp [stop, given]
    · rw [if_neg stop, if_neg stop, given_concat]
      cases args : pick call with
      | none => simpa using ih
      | some p =>
        obtain ⟨domain', addresses⟩ := p
        rw [get_appendAddresses]
        by_cases same : domain = domain'
        · subst same; rw [ih]
          by_cases empty : given pick domain (sinceStop calls) = [] <;> simp [empty]
        · simp [same, Ne.symm same, ih]

end Lists

/-- The allow list of a domain holds the addresses given for it since the last `AuthStop`. -/
theorem run_allow (calls : List Call) (domain : String) :
    (run calls).allow.get domain =
      if given allowArgs domain (sinceStop calls) = [] then none
      else some (given allowArgs domain (sinceStop calls)).flatten :=
  run_lists allowArgs allow exec_allow rfl calls domain

/-- The deny list of a domain holds the addresses given for it since the last `AuthStop`. -/
theorem run_deny (calls : List Call) (domain : String) :
    (run calls).deny.get domain =
      if given denyArgs domain (sinceStop calls) = [] then none
      else some (given denyArgs domain (sinceStop calls)).flatten :=
  run_lists denyArgs deny exec_deny rfl calls domain

end Auth

end Zmq4
