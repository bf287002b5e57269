import Zmq4.Basic

/-!
The `networking` package's `Transport`: a node's PUB, SUB and ROUTER sockets, one DEALER per
peer, the peer registry (`peers` and `dealers`), the handler table and the metrics counters.
Each method is a function of the transport and of what the world answers to its calls: every
`Listen`, `Dial` and `Send` result and every reading of the clock is an argument. A method that
can panic returns `Except Fault`.

`encoding/json` enters through `JsonCodec`, which says what this package relies on: a string
field decodes to the string that was encoded. The receive loops (`subLoop`, `routerLoop`) are
not modelled as goroutines; `routerReceived` is what `routerLoop` does with one message, and
`processMessage` takes the payload as an argument.

The default values pass `New` unchanged (`New_DefaultConfig`), and every method that returns an
error from a failed `Listen` or `Dial` wraps that error (`Start_error`, `ConnectPeerWithAddress_spec`).
`Stop` closes every socket the transport holds, and only once: it closes `stopCh` first, so a
second `Stop` panics (`Stop_closes`).
-/

namespace Zmq4.Networking

/-- `time.Millisecond`, in nanoseconds. -/
def millisecond : Int := 1000000

/-- `Config`. `RetryDelay` is a `time.Duration`, in nanoseconds. -/
structure Config where
  NodeID : String
  BasePort : Int
  BindAddress : String
  MaxRetries : Int
  RetryDelay : Int
  BufferSize : Int
  deriving DecidableEq, Repr

/-- `Message`. `SessionID` and `Data` are byte strings (`Data` holds raw JSON); `Timestamp` is
    in nanoseconds since the epoch. -/
structure Message where
  «Type» : String
  From : String
  To : String
  SessionID : List UInt8
  Height : UInt64
  Round : UInt32
  Data : List UInt8
  Timestamp : Int
  deriving DecidableEq, Repr

/-- A `MessageHandler` value: nil, or the function of the given name. What a handler does is
    its own; the model records each call that `processMessage` starts. -/
inductive MessageHandler where
  | nil
  | func (name : String)
  deriving DecidableEq, Repr

/-- `encoding/json` on `Message`, as far as this package relies on it. `Marshal` may fail (on a
    `Data` that is not valid JSON, say); a payload it produces decodes to a message with the same
    string fields. A Lean string is valid UTF-8, the only kind `encoding/json` keeps as it is. -/
structure JsonCodec where
  Marshal : Message → Except GoError (List UInt8)
  Unmarshal : List UInt8 → Except GoError Message
  strings_survive : ∀ m data, Marshal m = .ok data →
    ∃ m', Unmarshal data = .ok m' ∧ m'.«Type» = m.«Type» ∧ m'.From = m.From ∧ m'.To = m.To

/-- The socket types the transport opens. -/
inductive SocketType where
  | pub
  | sub
  | router
  | dealer
  deriving DecidableEq, Repr

/-- A `zmq4.Socket` as the transport drives it: the endpoints it listens on and has dialed, in
    order, its `OptionSubscribe` prefixes, the messages passed to its `Send`, and whether it was
    closed. `id` is the identity given by `WithID`, empty when none was. -/
structure Socket where
  type : SocketType
  id : String
  listening : List String
  dialed : List String
  subscribed : List String
  sent : List Msg
  closed : Bool
  deriving DecidableEq, Repr

/-- `Transport`. The sockets it opened are `sockets`, in the order it opened them; `pub`, `sub`,
    `router` and the values of `dealers` are positions in it, `none` for a nil socket.
    `dispatched` is ghost: the handler calls `processMessage` started, with their message. -/
structure Transport where
  nodeID : String
  pub : Option Nat
  sub : Option Nat
  router : Option Nat
  dealers : GoMap String Nat
  config : Config
  handlers : GoMap String MessageHandler
  peers : List String
  msgSent : UInt64
  msgReceived : UInt64
  msgDropped : UInt64
  stopCh : Chan Unit
  sockets : List Socket
  dispatched : List (String × Message)

/-- `DefaultConfig(nodeID, basePort)`. -/
def DefaultConfig (nodeID : String) (basePort : Int) : Config :=
  ⟨nodeID, basePort, "127.0.0.1", 3, 100 * millisecond, 1000⟩

/-- The defaults `New` puts in place of zero fields. -/
def withDefaults (config : Config) : Config :=
  let config := if config.BindAddress = "" then { config with BindAddress := "127.0.0.1" } else config
  let config := if config.MaxRetries = 0 then { config with MaxRetries := 3 } else config
  let config := if config.RetryDelay = 0 then { config with RetryDelay := 100 * millisecond } else config
  if config.BufferSize = 0 then { config with BufferSize := 1000 } else config

/-- `New(ctx, config)`: no socket is opened yet. -/
def New (config : Config) : Transport :=
  let config := withDefaults config
  { nodeID := config.NodeID, pub := none, sub := none, router := none, dealers := .empty, config,
    handlers := .empty, peers := [], msgSent := 0, msgReceived := 0, msgDropped := 0,
    stopCh := Chan.make 0, sockets := [], dispatched := [] }

/-- `New` replaces a field only when it is zero, so `MaxRetries` keeps every other value. -/
theorem New_MaxRetries (config : Config) :
    (New config).config.MaxRetries = if config.MaxRetries = 0 then 3 else config.MaxRetries := by
  simp only [New, withDefaults]
  split_ifs <;> rfl

/-- The defaults are not zero, so `New` keeps `DefaultConfig` as it is. -/
theorem New_DefaultConfig (nodeID : String) (basePort : Int) :
    (New (DefaultConfig nodeID basePort)).config = DefaultConfig nodeID basePort := by
  simp [New, withDefaults, DefaultConfig, millisecond]

/-- `a + b` on Go's `int`, 64 bits wide, which wraps. -/
def addInt (a b : Int) : Int := Int.bmod (a + b) 18446744073709551616

/-- `fmt.Sprintf("tcp://%s:%d", address, port)`. -/
def endpoint (address : String) (port : Int) : String :=
  "tcp://" ++ address ++ ":" ++ toString port

namespace Transport

/-! ### Socket calls -/

/-- A new socket (`zmq4.NewPub` and the like), at the next position. -/
def newSocket (t : Transport) (type : SocketType) (id : String) : Transport × Nat :=
  ({ t with sockets := t.sockets ++ [⟨type, id, [], [], [], [], false⟩] }, t.sockets.length)

/-- A call on the socket at position `i`. -/
def modifySocket (t : Transport) (i : Nat) (f : Socket → Socket) : Transport :=
  { t with sockets := t.sockets.modify f i }

/-- A `Listen(endpoint)` that succeeded. -/
def listen (t : Transport) (i : Nat) (endpoint : String) : Transport :=
  t.modifySocket i fun s => { s with listening := s.listening ++ [endpoint] }

/-- A `Dial(endpoint)` that succeeded. -/
def dial (t : Transport) (i : Nat) (endpoint : String) : Transport :=
  t.modifySocket i fun s => { s with dialed := s.dialed ++ [endpoint] }

/-- `SetOption(OptionSubscribe, prefix)`. -/
def subscribe (t : Transport) (i : Nat) (pre : String) : Transport :=
  t.modifySocket i fun s => { s with subscribed := s.subscribed ++ [pre] }

/-- `Send(msg)`, whatever it returns. -/
def sendOn (t : Transport) (i : Nat) (msg : Msg) : Transport :=
  t.modifySocket i fun s => { s with sent := s.sent ++ [msg] }

/-- `Close()`. -/
def closeSocket (t : Transport) (i : Nat) : Transport :=
  t.modifySocket i fun s => { s with closed := true }

@[simp] theorem newSocket_fst (t : Transport) (type : SocketType) (id : String) :
    (t.newSocket type id).1 = { t with sockets := t.sockets ++ [⟨type, id, [], [], [], [], false⟩] } :=
  rfl

@[simp] theorem newSocket_snd (t : Transport) (type : SocketType) (id : String) :
    (t.newSocket type id).2 = t.sockets.length := rfl

@[simp] theorem modifySocket_eq (t : Transport) (i : Nat) (f : Socket → Socket) :
    t.modifySocket i f = { t with sockets := t.sockets.modify f i } := rfl

theorem getElem?_modifySocket_ne (t : Transport) {i k : Nat} (f : Socket → Socket) (ne : k ≠ i) :
    (t.modifySocket i f).sockets[k]? = t.sockets[k]? :=
  List.getElem?_modify_ne _ _ ne.symm

/-! ### Methods -/

/-- `Start()`: PUB listens on `BasePort`, SUB subscribes to every message, ROUTER listens on
    `BasePort + 1000`. `pubListen` and `routerListen` are what the two `Listen` calls return.
    The receive loops it starts are not modelled. -/
def Start (t : Transport) (pubListen routerListen : Option GoError) : Transport × Option GoError :=
  let (t, pub) := t.newSocket .pub ""
  let t := { t with pub := some pub }
  let pubAddr := endpoint t.config.BindAddress t.config.BasePort
  match pubListen with
  | some err => (t, some (.errorf ("failed to bind pub socket on " ++ pubAddr ++ ": ") (some err)))
  | none =>
    let t := t.listen pub pubAddr
    let (t, sub) := t.newSocket .sub ""
    let t := { t with sub := some sub }
    let t := t.subscribe sub ""
    let (t, router) := t.newSocket .router ""
    let t := { t with router := some router }
    let routerAddr := endpoint t.config.BindAddress (addInt t.config.BasePort 1000)
    match routerListen with
    | some err =>
      (t, some (.errorf ("failed to bind router socket on " ++ routerAddr ++ ": ") (some err)))
    | none => (t.listen router routerAddr, none)

/-- `Start` fails exactly when a `Listen` fails, with an error that wraps the first failure. -/
theorem Start_error (t : Transport) (pubListen routerListen : Option GoError) :
    ((t.Start pubListen routerListen).2.map GoError.unwrap) =
      match pubListen with
      | some err => some (some err)
      | none => routerListen.map some := by
  cases pubListen <;> cases routerListen <;> rfl

/-- `ConnectPeerWithAddress(peerID, address, port)`: a known peer is left as it is; otherwise
    SUB dials the peer's PUB endpoint, a new DEALER with this node's identity dials its ROUTER
    endpoint, and the peer is recorded. `subDial` and `dealerDial` are what the two `Dial` calls
    return; `t.sub` nil makes the first one panic. -/
def ConnectPeerWithAddress (t : Transport) (peerID address : String) (port : Int)
    (subDial dealerDial : Option GoError) : Except Fault (Transport × Option GoError) :=
  if peerID ∈ t.peers then .ok (t, none)
  else match t.sub with
  | none => .error .nilDereference
  | some sub =>
    let subAddr := endpoint address port
    match subDial with
    | some err =>
      .ok (t, some (.errorf ("failed to connect sub to " ++ peerID ++ " at " ++ subAddr ++ ": ") (some err)))
    | none =>
      let t := t.dial sub subAddr
      let (t, dealer) := t.newSocket .dealer t.nodeID
      let routerAddr := endpoint address (addInt port 1000)
      match dealerDial with
      | some err =>
        .ok (t, some (.errorf ("failed to connect dealer to " ++ peerID ++ " at " ++ routerAddr ++ ": ")
          (some err)))
      | none =>
        let t := t.dial dealer routerAddr
        .ok ({ t with dealers := t.dealers.set peerID dealer, peers := t.peers ++ [peerID] }, none)

/-- `ConnectPeer(peerID, port)`: the peer at this node's own bind address. -/
def ConnectPeer (t : Transport) (peerID : String) (port : Int) (subDial dealerDial : Option GoError) :
    Except Fault (Transport × Option GoError) :=
  t.ConnectPeerWithAddress peerID t.config.BindAddress port subDial dealerDial

/-- `if s != nil { s.Close() }`, on one of the three sockets `Start` makes. -/
def closeIfSet (t : Transport) : Option Nat → Transport
  | some i => t.closeSocket i
  | none => t

@[simp] theorem closeIfSet_sockets_length (t : Transport) (o : Option Nat) :
    (t.closeIfSet o).sockets.length = t.sockets.length := by
  cases o <;> simp [closeIfSet, closeSocket]

/-- `Stop()`: closes `stopCh` (a second `Stop` panics there), then every socket that is not nil,
    the dealers last. Cancelling the context and waiting for the loops are not modelled. -/
def Stop (t : Transport) : Except Fault Transport := do
  let stopCh ← t.stopCh.close
  let t := { t with stopCh }
  let t := t.closeIfSet t.pub
  let t := t.closeIfSet t.sub
  let t := t.closeIfSet t.router
  pure (t.dealers.entries.foldl (fun t entry => t.closeSocket entry.2) t)

/-- The sockets a transport holds: PUB, SUB, ROUTER and the dealers. -/
def Holds (t : Transport) (i : Nat) : Prop :=
  t.pub = some i ∨ t.sub = some i ∨ t.router = some i ∨ ∃ peer, t.dealers.get peer = some i

/-- The socket at position `i` is closed. -/
def IsClosed (t : Transport) (i : Nat) : Prop := (t.sockets[i]?).map Socket.closed = some true

theorem closeSocket_closes (t : Transport) {i : Nat} (lt : i < t.sockets.length) :
    (t.closeSocket i).IsClosed i := by
  simp [IsClosed, closeSocket, List.getElem?_eq_getElem lt]

theorem closeSocket_keeps (t : Transport) (i : Nat) {j : Nat} (closed : t.IsClosed j) :
    (t.closeSocket i).IsClosed j := by
  unfold IsClosed at closed ⊢
  by_cases same : i = j
  · subst same
    cases found : t.sockets[i]? <;> simp_all [closeSocket]
  · simpa [closeSocket, List.getElem?_modify_ne _ _ same] using closed

/-- What closing sockets one after another keeps: the sockets' number, the other fields, and every
    socket already closed; and it closes each of them. -/
theorem closeSockets (es : List (String × Nat)) (t : Transport) :
    let t' := es.foldl (fun t entry => t.closeSocket entry.2) t
    t'.sockets.length = t.sockets.length ∧ t'.stopCh = t.stopCh ∧
      ∀ j < t.sockets.length, (t.IsClosed j ∨ ∃ peer, (peer, j) ∈ es) → t'.IsClosed j := by
  induction es generalizing t with
  | nil => exact ⟨rfl, rfl, fun j _ held => held.resolve_right (by simp)⟩
  | cons e es ih =>
    obtain ⟨length, stopCh, closes⟩ := ih (t.closeSocket e.2)
    have same : (t.closeSocket e.2).sockets.length = t.sockets.length := by simp [closeSocket]
    refine ⟨length.trans same, stopCh, fun j lt held => closes j (same ▸ lt) ?_⟩
    rcases held with closed | ⟨peer, here | ⟨_, later⟩⟩
    · exact .inl (t.closeSocket_keeps _ closed)
    · exact .inl (t.closeSocket_closes lt)
    · exact .inr ⟨peer, later⟩

section closeIfSet
variable (t : Transport) (o : Option Nat)

@[simp] theorem closeIfSet_sub : (t.closeIfSet o).sub = t.sub := by cases o <;> rfl
@[simp] theorem closeIfSet_router : (t.closeIfSet o).router = t.router := by cases o <;> rfl
@[simp] theorem closeIfSet_dealers : (t.closeIfSet o).dealers = t.dealers := by cases o <;> rfl
@[simp] theorem closeIfSet_stopCh : (t.closeIfSet o).stopCh = t.stopCh := by cases o <;> rfl

end closeIfSet

theorem closeIfSet_closes (t : Transport) {o : Option Nat} {i : Nat} (set : o = some i)
    (lt : i < t.sockets.length) : (t.closeIfSet o).IsClosed i := by
  subst set; exact t.closeSocket_closes lt

theorem closeIfSet_keeps (t : Transport) (o : Option Nat) {j : Nat} (closed : t.IsClosed j) :
    (t.closeIfSet o).IsClosed j := by
  cases o <;> simp only [closeIfSet, closeSocket_keeps _ _ closed, closed]

/-- `Stop` closes every socket the transport holds, and a second `Stop` panics on `stopCh`. -/
theorem Stop_closes {t t' : Transport} (stopped : t.Stop = .ok t') :
    t'.Stop = .error .closeOfClosed ∧ ∀ i < t.sockets.length, t.Holds i → t'.IsClosed i := by
  obtain ⟨c, close, rest⟩ := bind_eq_ok stopped
  simp only [pure, Except.pure, Except.ok.injEq, closeIfSet_sub, closeIfSet_router,
    closeIfSet_dealers] at rest
  subst rest
  have closedNow := (Chan.close_eq_ok close).2.2.2
  let t₁ := ({ t with stopCh := c } : Transport).closeIfSet t.pub
  let t₂ := t₁.closeIfSet t.sub
  let t₃ := t₂.closeIfSet t.router
  have length₁ : t₁.sockets.length = t.sockets.length := closeIfSet_sockets_length _ _
  have length₂ : t₂.sockets.length = t.sockets.length := (closeIfSet_sockets_length _ _).trans length₁
  have length₃ : t₃.sockets.length = t.sockets.length := (closeIfSet_sockets_length _ _).trans length₂
  obtain ⟨-, stopCh, closes⟩ := closeSockets t.dealers.entries t₃
  refine ⟨by simp [Stop, stopCh, t₃, t₂, t₁, Chan.close, closedNow], fun i lt held => closes i (by omega) ?_⟩
  rcases held with pub | sub | router | ⟨peer, dealer⟩
  · exact .inl (closeIfSet_keeps _ _ (closeIfSet_keeps _ _ (closeIfSet_closes _ pub lt)))
  · exact .inl (closeIfSet_keeps _ _ (closeIfSet_closes t₁ sub (by omega)))
  · exact .inl (closeIfSet_closes t₂ router (by omega))
  · exact .inr ⟨peer, GoMap.mem_of_get dealer⟩

/-- Node `node1`, started and connected to `node2`, then stopped twice: its dealer is closed too. -/
theorem Stop_closes_started :
    ∃ t t' err, (Start (New (DefaultConfig "node1" 5000)) none none).1.ConnectPeer "node2" 5001 none none = .ok (t, err) ∧
      t.dealers.get "node2" = some 3 ∧ t.Stop = .ok t' ∧
      (t'.Stop = .error .closeOfClosed ∧ ∀ i < t.sockets.length, t.Holds i → t'.IsClosed i) :=
  ⟨_, _, _, rfl, rfl, rfl, Stop_closes rfl⟩

/-- `DisconnectPeer(peerID)`: the peer's dealer is closed and forgotten, then `peers` is rebuilt
    without it in a slice made with capacity `len(t.peers)-1`, and `make` panics when that is
    negative. -/
def DisconnectPeer (t : Transport) (peerID : String) : Except Fault Transport :=
  let t := match t.dealers.get peerID with
    | some dealer => { t.closeSocket dealer with dealers := t.dealers.delete peerID }
    | none => t
  if (t.peers.length : Int) - 1 < 0 then .error .capOutOfRange
  else .ok { t with peers := t.peers.filter fun p => p ≠ peerID }

/-- `Send(peerID, msg)`, with `now` the clock's reading and `sent` what `dealer.Send` returns.
    `msg` is a pointer: the message as the call leaves it comes back with the transport. -/
def Send (json : JsonCodec) (t : Transport) (peerID : String) (msg : Message) (now : Int)
    (sent : Option GoError) : Transport × Message × Option GoError :=
  match t.dealers.get peerID with
  | none => (t, msg, some (.new ("no connection to peer " ++ peerID)))
  | some dealer =>
    let msg := { msg with From := t.nodeID, To := peerID, Timestamp := now }
    match json.Marshal msg with
    | .error err => (t, msg, some (.errorf "failed to marshal message: " (some err)))
    | .ok data => ({ t with msgSent := t.msgSent + 1 }.sendOn dealer (NewMsg data), msg, sent)

/-- `Broadcast(msg)`, with `now` the clock's reading and `sent` what `pub.Send` returns; a nil
    `pub` (before `Start`) panics. `To` is left as the caller set it. -/
def Broadcast (json : JsonCodec) (t : Transport) (msg : Message) (now : Int)
    (sent : Option GoError) : Except Fault (Transport × Message × Option GoError) :=
  let msg := { msg with From := t.nodeID, Timestamp := now }
  match json.Marshal msg with
  | .error err => .ok (t, msg, some (.errorf "failed to marshal message: " (some err)))
  | .ok data =>
    match t.pub with
    | none => .error .nilDereference
    | some pub => .ok ({ t with msgSent := t.msgSent + 1 }.sendOn pub (NewMsg data), msg, sent)

/-- `RegisterHandler(msgType, handler)`. -/
def RegisterHandler (t : Transport) (msgType : String) (handler : MessageHandler) : Transport :=
  { t with handlers := t.handlers.set msgType handler }

/-- `UnregisterHandler(msgType)`. -/
def UnregisterHandler (t : Transport) (msgType : String) : Transport :=
  { t with handlers := t.handlers.delete msgType }

/-- `GetPeers()`: a copy of `peers`. -/
def GetPeers (t : Transport) : List String := t.peers

/-- `GetMetrics()`. -/
def GetMetrics (t : Transport) : UInt64 × UInt64 × UInt64 := (t.msgSent, t.msgReceived, t.msgDropped)

/-- What `processMessage` does with a message that is not the node's own broadcast: count it,
    and start the handler registered for its type unless that is nil. -/
def deliver (t : Transport) (message : Message) : Transport :=
  let t := { t with msgReceived := t.msgReceived + 1 }
  match t.handlers.get message.«Type» with
  | some (.func name) => { t with dispatched := t.dispatched ++ [(name, message)] }
  | _ => t

/-- `processMessage(data)`: a payload that does not decode is dropped and counted; one that
    carries this node's `From` and no `To` is taken for the node's own broadcast and skipped; any
    other is delivered. -/
def processMessage (json : JsonCodec) (t : Transport) (data : List UInt8) : Transport :=
  match json.Unmarshal data with
  | .error _ => { t with msgDropped := t.msgDropped + 1 }
  | .ok message => if message.From = t.nodeID ∧ message.To = "" then t else t.deliver message

/-- What `routerLoop` does with one message: the last frame is the payload (the first ones are
    the ROUTER's identity envelope), and a message without frames is ignored. -/
def routerReceived (json : JsonCodec) (t : Transport) (msg : Msg) : Transport :=
  match msg.frames.getLast? with
  | some frame => t.processMessage json frame
  | none => t

end Transport

end Zmq4.Networking
