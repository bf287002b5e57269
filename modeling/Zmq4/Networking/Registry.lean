import Zmq4.Networking.Retry
import Mathlib.Data.List.Nodup

/-!
The peer registry over whole runs. After `Start` returned nil, any sequence of calls (connects
and disconnects with any `Dial` outcome, sends, broadcasts and their retrying forms, handler
changes and received payloads) keeps `Registry`: `peers` has no duplicate and holds exactly the
keys of `dealers`, distinct peers have distinct dealers, and each dealer is an open DEALER socket
that dialed its peer's ROUTER endpoint once, the matching PUB endpoint being dialed by SUB
(`reachable_registry`). SUB never undials: what it dialed only grows (`exec_registry`), so
`DisconnectPeer` after a connect restores `peers` and `dealers` but leaves SUB dialed to the peer
(`disconnect_after_connect`). A connect that fails changes neither `peers` nor `dealers`, but one
whose dealer `Dial` failed leaves SUB dialed and the new DEALER open and unrecorded
(`connect_error`), and `Stop` does not close it either: the DEALER leaks
(`failed_connect_leaks_dealer`). `DisconnectPeer` panics exactly when `peers` is empty
(`DisconnectPeer_eq`).
-/

namespace Zmq4.Networking
open Transport

/-! ### The registry -/

/-- What SUB has dialed, in order; nothing when it is nil. -/
def Transport.subDialed (t : Transport) : List String :=
  match t.sub with
  | some j => ((t.sockets[j]?).map Socket.dialed).getD []
  | none => []

/-- The registry agrees with the sockets: `peers` has no duplicate and holds exactly the keys of
    `dealers`; SUB is a SUB socket; every dealer is an open DEALER socket that dialed one ROUTER
    endpoint, `tcp://address:(port+1000)`, whose PUB endpoint `tcp://address:port` SUB dialed;
    and distinct peers have distinct dealers. -/
structure Registry (t : Transport) : Prop where
  nodup : t.peers.Nodup
  keys : ∀ p, p ∈ t.peers ↔ (t.dealers.get p).isSome
  sub : ∃ j sock, t.sub = some j ∧ t.sockets[j]? = some sock ∧ sock.type = .sub
  dealer : ∀ p i, t.dealers.get p = some i → ∃ sock address port, t.sockets[i]? = some sock ∧
    sock.type = .dealer ∧ sock.closed = false ∧ sock.dialed = [endpoint address (addInt port 1000)] ∧
    endpoint address port ∈ t.subDialed
  distinct : ∀ p q i, t.dealers.get p = some i → t.dealers.get q = some i → p = q

/-- `Start` on a new transport, both `Listen` calls succeeding, sets the registry up. -/
theorem registry_start (config : Config) : Registry (Start (New config) none none).1 := by
  have peers : (Start (New config) none none).1.peers = [] := rfl
  have dealers : (Start (New config) none none).1.dealers = .empty := rfl
  refine ⟨peers ▸ List.nodup_nil, fun p => by simp [peers, dealers], ⟨1, _, rfl, rfl, rfl⟩,
    fun p i got => ?_, fun p q i got => ?_⟩ <;> simp [dealers] at got

/-! ### Calls that keep the registry -/

/-- `t'` keeps SUB and every socket of `t`, each with its type, its open or closed state and
    what it dialed, except that SUB may have dialed more. -/
structure Grows (t t' : Transport) : Prop where
  sub : t'.sub = t.sub
  sockets : ∀ (k : Nat) (sock : Socket), t.sockets[k]? = some sock → ∃ sock', t'.sockets[k]? = some sock' ∧
    sock'.type = sock.type ∧ sock'.closed = sock.closed ∧ sock.dialed <+: sock'.dialed ∧
    (sock.type = .dealer → sock'.dialed = sock.dialed)

theorem Grows.of_eq {t t' : Transport} (sub : t'.sub = t.sub) (sockets : t'.sockets = t.sockets) :
    Grows t t' :=
  ⟨sub, fun _ sock found => ⟨sock, sockets ▸ found, rfl, rfl, List.prefix_refl _, fun _ => rfl⟩⟩

theorem Grows.trans {t t' t'' : Transport} (first : Grows t t') (second : Grows t' t'') : Grows t t'' := by
  refine ⟨second.sub.trans first.sub, fun k sock found => ?_⟩
  obtain ⟨sock', found', type', closed', dialed', same'⟩ := first.sockets k sock found
  obtain ⟨sock'', found'', type'', closed'', dialed'', same''⟩ := second.sockets k sock' found'
  exact ⟨sock'', found'', type''.trans type', closed''.trans closed', dialed'.trans dialed'',
    fun dealer => (same'' (type'.trans dealer)).trans (same' dealer)⟩

theorem grows_modifySocket {t : Transport} {i : Nat} {f : Socket → Socket}
    (keeps : ∀ sock, t.sockets[i]? = some sock → (f sock).type = sock.type ∧
      (f sock).closed = sock.closed ∧ sock.dialed <+: (f sock).dialed ∧
      (sock.type = .dealer → (f sock).dialed = sock.dialed)) :
    Grows t (t.modifySocket i f) := by
  refine ⟨rfl, fun k sock found => ?_⟩
  by_cases same : i = k
  · subst same
    exact ⟨f sock, by simp [found], keeps sock found⟩
  · exact ⟨sock, by simp [List.getElem?_modify_ne _ _ same, found], rfl, rfl, List.prefix_refl _,
      fun _ => rfl⟩

theorem grows_newSocket (t : Transport) (type : SocketType) (id : String) :
    Grows t (t.newSocket type id).1 :=
  ⟨rfl, fun k sock found => ⟨sock,
    by simp [List.getElem?_append_left (List.getElem?_eq_some_iff.mp found).1, found],
    rfl, rfl, List.prefix_refl _, fun _ => rfl⟩⟩

theorem Grows.subDialed {t t' : Transport} (grows : Grows t t') : t.subDialed <+: t'.subDialed := by
  unfold Transport.subDialed
  rw [grows.sub]
  rcases t.sub with _ | j
  · exact List.prefix_refl _
  · dsimp only
    cases found : t.sockets[j]? with
    | none => exact List.nil_prefix
    | some sock =>
      obtain ⟨sock', found', -, -, dialed, -⟩ := grows.sockets j sock found
      simpa [found'] using dialed

theorem Registry.of_grows {t t' : Transport} (registry : Registry t) (grows : Grows t t')
    (peers : t'.peers = t.peers) (dealers : t'.dealers = t.dealers) : Registry t' := by
  obtain ⟨nodup, keys, ⟨j, sock, sub, found, type⟩, dealer, distinct⟩ := registry
  refine ⟨peers ▸ nodup, by simpa [peers, dealers] using keys, ?_, ?_, by simpa [dealers] using distinct⟩
  · obtain ⟨sock', found', type', -⟩ := grows.sockets j sock found
    exact ⟨j, sock', grows.sub ▸ sub, found', type' ▸ type⟩
  · intro p i got
    rw [dealers] at got
    obtain ⟨sock, address, port, found, type, closed, dialed, subscribed⟩ := dealer p i got
    obtain ⟨sock', found', type', closed', -, same⟩ := grows.sockets i sock found
    exact ⟨sock', address, port, found', type' ▸ type, closed' ▸ closed, (same type).trans dialed,
      grows.subDialed.subset subscribed⟩

/-- `t'` keeps the registry of `t`, and its sockets grow. -/
structure Keeps (t t' : Transport) : Prop where
  grows : Grows t t'
  peers : t'.peers = t.peers
  dealers : t'.dealers = t.dealers

theorem Keeps.of_eq {t t' : Transport} (sub : t'.sub = t.sub) (sockets : t'.sockets = t.sockets)
    (peers : t'.peers = t.peers) (dealers : t'.dealers = t.dealers) : Keeps t t' :=
  ⟨.of_eq sub sockets, peers, dealers⟩

theorem Keeps.trans {t t' t'' : Transport} (first : Keeps t t') (second : Keeps t' t'') : Keeps t t'' :=
  ⟨first.grows.trans second.grows, second.peers.trans first.peers, second.dealers.trans first.dealers⟩

theorem Keeps.sendOn {t t' : Transport} (keeps : Keeps t t') (i : Nat) (msg : Msg) :
    Keeps t (t'.sendOn i msg) :=
  ⟨keeps.grows.trans (grows_modifySocket fun _ _ => ⟨rfl, rfl, List.prefix_refl _, fun _ => rfl⟩),
    keeps.peers, keeps.dealers⟩

theorem keeps_msgSent (t : Transport) (n : UInt64) : Keeps t { t with msgSent := n } :=
  .of_eq rfl rfl rfl rfl

theorem Send_keeps (json : JsonCodec) (t : Transport) (peerID : String) (m : Message) (now : Int)
    (sent : Option GoError) : Keeps t (t.Send json peerID m now sent).1 := by
  unfold Send
  split
  · exact .of_eq rfl rfl rfl rfl
  · dsimp only
    split
    · exact .of_eq rfl rfl rfl rfl
    · exact (keeps_msgSent t _).sendOn _ _

theorem Broadcast_keeps {json : JsonCodec} {t t' : Transport} {m m' : Message} {now : Int}
    {sent err : Option GoError} (broadcast : t.Broadcast json m now sent = .ok (t', m', err)) :
    Keeps t t' := by
  obtain ⟨-, ⟨_, -, rfl, -⟩ | ⟨data, pub, -, -, rfl, -⟩⟩ := Broadcast_ok broadcast
  · exact .of_eq rfl rfl rfl rfl
  · exact (keeps_msgSent t _).sendOn _ _

theorem processMessage_keeps (json : JsonCodec) (t : Transport) (data : List UInt8) :
    Keeps t (t.processMessage json data) := by
  unfold processMessage deliver
  split
  · exact .of_eq rfl rfl rfl rfl
  · split
    · exact .of_eq rfl rfl rfl rfl
    · dsimp only; split <;> exact .of_eq rfl rfl rfl rfl

theorem SendWithRetry_keeps {json : JsonCodec} {t : Transport} {peerID : String} {m : Message}
    {clock : Nat → Int} {sent : Nat → Option GoError} {r : Retried (Transport × Message)}
    (ran : t.SendWithRetry json peerID m clock sent = .ok r) : Keeps t r.state.1 := by
  refine retryLoop_state _ _ _ (fun s => Keeps t s.1) (fun i s s' result keeps called => ?_)
    (Keeps.of_eq rfl rfl rfl rfl) ran
  obtain ⟨t₁, m₁⟩ := s
  dsimp only at called
  simp only [Except.ok.injEq, Prod.mk.injEq] at called
  obtain ⟨rfl, -⟩ := called
  exact keeps.trans (Send_keeps json t₁ peerID m₁ (clock i) (sent i))

theorem BroadcastWithRetry_keeps {json : JsonCodec} {t : Transport} {m : Message}
    {clock : Nat → Int} {sent : Nat → Option GoError} {r : Retried (Transport × Message)}
    (ran : t.BroadcastWithRetry json m clock sent = .ok r) : Keeps t r.state.1 := by
  refine retryLoop_state _ _ _ (fun s => Keeps t s.1) (fun i s s' result keeps called => ?_)
    (Keeps.of_eq rfl rfl rfl rfl) ran
  obtain ⟨t₁, m₁⟩ := s
  dsimp only at called
  obtain ⟨⟨t₂, m₂, err⟩, broadcast, done⟩ := bind_eq_ok called
  cases done
  exact keeps.trans (Broadcast_keeps broadcast)

/-! ### Connecting -/

/-- Every outcome of `ConnectPeerWithAddress`: a known peer changes nothing; a failed SUB `Dial`
    changes nothing and is wrapped; a failed dealer `Dial` leaves SUB dialed and the new dealer
    open, and is wrapped; otherwise the new dealer dialed the peer's ROUTER endpoint and the peer
    is recorded. -/
theorem ConnectPeerWithAddress_spec {t t' : Transport} {peerID address : String} {port : Int}
    {subDial dealerDial err : Option GoError}
    (connected : t.ConnectPeerWithAddress peerID address port subDial dealerDial = .ok (t', err)) :
    (peerID ∈ t.peers ∧ t' = t ∧ err = none) ∨
    (peerID ∉ t.peers ∧ ∃ j, t.sub = some j ∧
      ((∃ e, subDial = some e ∧ t' = t ∧ err = some (.errorf
          ("failed to connect sub to " ++ peerID ++ " at " ++ endpoint address port ++ ": ") (some e))) ∨
        (subDial = none ∧ ∃ e, dealerDial = some e ∧
          t' = ((t.dial j (endpoint address port)).newSocket .dealer t.nodeID).1 ∧
          err = some (.errorf ("failed to connect dealer to " ++ peerID ++ " at " ++
            endpoint address (addInt port 1000) ++ ": ") (some e))) ∨
        (subDial = none ∧ dealerDial = none ∧ err = none ∧
          t' = { ((t.dial j (endpoint address port)).newSocket .dealer t.nodeID).1.dial t.sockets.length
              (endpoint address (addInt port 1000)) with
            dealers := t.dealers.set peerID t.sockets.length, peers := t.peers ++ [peerID] }))) := by
  unfold ConnectPeerWithAddress at connected
  split at connected
  · cases connected; exact .inl ⟨‹_›, rfl, rfl⟩
  · rename_i fresh
    split at connected
    · cases connected
    · rename_i j sub
      refine .inr ⟨fresh, j, sub, ?_⟩
      split at connected
      · cases connected; exact .inl ⟨_, rfl, rfl, rfl⟩
      · dsimp only at connected
        split at connected
        · cases connected; exact .inr (.inl ⟨rfl, _, rfl, rfl, rfl⟩)
        · cases connected; exact .inr (.inr ⟨rfl, rfl, rfl, by simp [dial]⟩)

/-- A call on a socket other than SUB leaves what SUB dialed. -/
theorem subDialed_modifySocket_ne {t : Transport} {i j : Nat} (sub : t.sub = some j) (ne : i ≠ j)
    (f : Socket → Socket) : (t.modifySocket i f).subDialed = t.subDialed := by
  simp [subDialed, sub, List.getElem?_modify_ne _ _ ne]

/-- A new socket leaves what SUB dialed. -/
theorem subDialed_newSocket {t : Transport} {j : Nat} (sub : t.sub = some j) (bound : j < t.sockets.length)
    (type : SocketType) (id : String) : (t.newSocket type id).1.subDialed = t.subDialed := by
  simp [subDialed, sub, List.getElem?_append_left bound]

/-- What SUB dialed after a `Dial` on it succeeded. -/
theorem subDialed_dial_sub {t : Transport} {j : Nat} {sock : Socket} (sub : t.sub = some j)
    (found : t.sockets[j]? = some sock) (e : String) :
    (t.dial j e).subDialed = t.subDialed ++ [e] := by
  simp [subDialed, dial, sub, found]

/-- What SUB dialed once it dialed `e` and a new socket was opened. -/
theorem subDialed_dial_newSocket {t : Transport} {j : Nat} {sock : Socket} (sub : t.sub = some j)
    (found : t.sockets[j]? = some sock) (e id : String) :
    ((t.dial j e).newSocket .dealer id).1.subDialed = t.subDialed ++ [e] :=
  (@subDialed_newSocket (t.dial j e) j sub (by simpa [dial] using (List.getElem?_eq_some_iff.mp found).1) _ _).trans
    (subDialed_dial_sub sub found _)

/-- The DEALER a connect opens comes, fresh, after the sockets there were. -/
theorem dial_newSocket_opened (t : Transport) (j : Nat) (e id : String) :
    ((t.dial j e).newSocket .dealer id).1.sockets[t.sockets.length]? =
      some ⟨.dealer, id, [], [], [], [], false⟩ := by
  simp [dial]

/-- What SUB dialed after a connect that recorded the peer. -/
theorem subDialed_connected {t : Transport} {j : Nat} {sock : Socket} (sub : t.sub = some j)
    (found : t.sockets[j]? = some sock) (peerID address : String) (port : Int) :
    ({ ((t.dial j (endpoint address port)).newSocket .dealer t.nodeID).1.dial t.sockets.length
        (endpoint address (addInt port 1000)) with
      dealers := t.dealers.set peerID t.sockets.length, peers := t.peers ++ [peerID] } : Transport).subDialed =
      t.subDialed ++ [endpoint address port] :=
  (@subDialed_modifySocket_ne ((t.dial j (endpoint address port)).newSocket .dealer t.nodeID).1
    t.sockets.length j sub (by have := (List.getElem?_eq_some_iff.mp found).1; omega) _).trans
    (subDialed_dial_newSocket sub found _ _)

/-- Sockets of different types are at different positions. -/
theorem ne_of_type {t : Transport} {i j : Nat} {a b : Socket} (found : t.sockets[i]? = some a)
    (found' : t.sockets[j]? = some b) (differ : a.type ≠ b.type) : i ≠ j := by
  rintro rfl
  rw [found, Option.some.injEq] at found'
  exact differ (congrArg Socket.type found')

/-- Recording a peer whose new DEALER, opened at `i`, dials the peer's ROUTER endpoint, when SUB
    has dialed the peer's PUB endpoint, keeps the registry. -/
theorem Registry.record {t : Transport} (registry : Registry t) {peerID address id : String}
    {port : Int} {i : Nat} (fresh : peerID ∉ t.peers)
    (opened : t.sockets[i]? = some ⟨.dealer, id, [], [], [], [], false⟩)
    (subscribed : endpoint address port ∈ t.subDialed) :
    Registry { t.dial i (endpoint address (addInt port 1000)) with
      dealers := t.dealers.set peerID i, peers := t.peers ++ [peerID] } := by
  obtain ⟨nodup, keys, ⟨j, subSock, sub, subFound, subType⟩, dealer, distinct⟩ := registry
  have unused : ∀ q k, t.dealers.get q = some k → k ≠ i := by
    rintro q k got rfl
    obtain ⟨sock, address', port', found, -, -, dialed, -⟩ := dealer q k got
    rw [opened, Option.some.injEq] at found
    subst found
    simp at dialed
  have subNe : i ≠ j := ne_of_type opened subFound (by simp [subType])
  have untouched : ∀ k, k ≠ i → (t.dial i (endpoint address (addInt port 1000))).sockets[k]? = t.sockets[k]? :=
    fun k ne => getElem?_modifySocket_ne t _ ne
  have subDialed' : ({ t.dial i (endpoint address (addInt port 1000)) with
      dealers := t.dealers.set peerID i, peers := t.peers ++ [peerID] } : Transport).subDialed = t.subDialed :=
    subDialed_modifySocket_ne sub subNe _
  refine ⟨?_, fun q => ?_, ⟨j, subSock, sub, (untouched j subNe.symm).trans subFound, subType⟩,
    fun q k got => ?_, fun q q' k got got' => ?_⟩
  · exact List.nodup_append.mpr ⟨nodup, List.nodup_singleton _, by simpa using fresh⟩
  · by_cases same : q = peerID <;> simp [same, keys]
  · by_cases same : q = peerID
    · simp only [GoMap.get_set, same, if_true, Option.some.injEq] at got
      subst got
      exact ⟨⟨.dealer, id, [], [endpoint address (addInt port 1000)], [], [], false⟩, address, port,
        by simp [dial, opened], rfl, rfl, rfl, subDialed' ▸ subscribed⟩
    · simp only [GoMap.get_set, same, if_false] at got
      obtain ⟨sock, address', port', found, type, closed, dialed, subscribed'⟩ := dealer q k got
      exact ⟨sock, address', port', (untouched k (unused q k got)).trans found, type, closed, dialed,
        subDialed' ▸ subscribed'⟩
  · simp only [GoMap.get_set] at got got'
    split_ifs at got got' with same same'
    · exact same.trans same'.symm
    · exact absurd (Option.some.inj got).symm (unused q' k got')
    · exact absurd (Option.some.inj got').symm (unused q k got)
    · exact distinct q q' k got got'

theorem connect_registry {t t' : Transport} {peerID address : String} {port : Int}
    {subDial dealerDial err : Option GoError} (registry : Registry t)
    (connected : t.ConnectPeerWithAddress peerID address port subDial dealerDial = .ok (t', err)) :
    Registry t' ∧ t.subDialed <+: t'.subDialed := by
  obtain ⟨j, sock, sub, found, type⟩ := registry.sub
  have dialSub : Grows t (t.dial j (endpoint address port)) :=
    grows_modifySocket fun sock' found' => ⟨rfl, rfl, List.prefix_append _ _,
      fun dealer => by rw [found] at found'; cases found'; rw [type] at dealer; cases dealer⟩
  have opened := dialSub.trans (grows_newSocket _ .dealer t.nodeID)
  have registry' := registry.of_grows opened rfl rfl
  rcases ConnectPeerWithAddress_spec connected with ⟨-, rfl, -⟩ | ⟨fresh, j', sub', outcome⟩
  · exact ⟨registry, List.prefix_refl _⟩
  cases sub.symm.trans sub'
  rcases outcome with ⟨_, -, rfl, -⟩ | ⟨-, _, -, rfl, -⟩ | ⟨-, -, -, rfl⟩
  · exact ⟨registry, List.prefix_refl _⟩
  · exact ⟨registry', opened.subDialed⟩
  · refine ⟨registry'.record fresh (dial_newSocket_opened _ _ _ _)
      (by rw [subDialed_dial_newSocket sub found]; simp), ?_⟩
    rw [subDialed_connected sub found]
    exact List.prefix_append _ _

/-! ### Disconnecting -/

/-- `DisconnectPeer` panics exactly when `peers` is empty; otherwise it closes and forgets the
    peer's dealer, if there is one, and drops the peer from `peers`, keeping the others' order. -/
theorem DisconnectPeer_eq (t : Transport) (peerID : String) :
    t.DisconnectPeer peerID = if t.peers = [] then .error .capOutOfRange else .ok
      (match t.dealers.get peerID with
        | some dealer => { t.closeSocket dealer with
            dealers := t.dealers.delete peerID, peers := t.peers.filter fun p => p ≠ peerID }
        | none => { t with peers := t.peers.filter fun p => p ≠ peerID }) := by
  have empty : ((t.peers.length : Int) - 1 < 0) ↔ t.peers = [] := by
    rw [← List.length_eq_zero]; omega
  unfold DisconnectPeer
  by_cases none : t.peers = []
  · cases t.dealers.get peerID <;> simp [none, closeSocket]
  · cases t.dealers.get peerID <;>
      simp only [closeSocket, modifySocket_eq, if_neg none, if_neg (mt empty.mp none)]

/-- A `DisconnectPeer` that returns keeps the registry, drops the peer from `peers`, keeping the
    others in order, and from the keys of `dealers`, and leaves what SUB dialed. -/
theorem disconnect_registry {t t' : Transport} {peerID : String} (registry : Registry t)
    (disconnected : t.DisconnectPeer peerID = .ok t') :
    Registry t' ∧ t'.peers = t.peers.filter (fun p => p ≠ peerID) ∧ t'.dealers.get peerID = none ∧
      t'.subDialed = t.subDialed := by
  rw [DisconnectPeer_eq] at disconnected
  split at disconnected
  · cases disconnected
  cases disconnected
  obtain ⟨nodup, keys, ⟨j, subSock, sub, subFound, subType⟩, dealer, distinct⟩ := registry
  have nodup' : (t.peers.filter fun p => p ≠ peerID).Nodup := nodup.filter _
  cases found : t.dealers.get peerID with
  | none =>
    refine ⟨⟨nodup', fun q => ?_, ⟨j, subSock, sub, subFound, subType⟩, dealer, distinct⟩, rfl, found, rfl⟩
    by_cases same : q = peerID
    · subst same; simp [found]
    · simp [same, keys]
  | some i =>
    obtain ⟨sock, -, -, dealerFound, dealerType, -⟩ := dealer peerID i found
    have subNe : i ≠ j := ne_of_type dealerFound subFound (by simp [dealerType, subType])
    have untouched : ∀ k, k ≠ i → (t.closeSocket i).sockets[k]? = t.sockets[k]? :=
      fun k ne => getElem?_modifySocket_ne t _ ne
    have subDialed' : ({ t.closeSocket i with
        dealers := t.dealers.delete peerID, peers := t.peers.filter fun p => p ≠ peerID } : Transport).subDialed =
          t.subDialed :=
      subDialed_modifySocket_ne sub subNe _
    refine ⟨⟨nodup', fun q => ?_, ⟨j, subSock, sub, (untouched j subNe.symm).trans subFound, subType⟩,
      fun q k got => ?_, fun q q' k got got' => ?_⟩, rfl, by simp, subDialed'⟩
    · by_cases same : q = peerID <;> simp [same, keys]
    · by_cases same : q = peerID
      · simp [same] at got
      · simp only [GoMap.get_delete, same, if_false] at got
        have ne : k ≠ i := fun eq => same (distinct q peerID k got (eq ▸ found))
        obtain ⟨sock, address, port, found', type, closed, dialed, subscribed⟩ := dealer q k got
        exact ⟨sock, address, port, (untouched k ne).trans found', type, closed, dialed, subDialed' ▸ subscribed⟩
    · simp only [GoMap.get_delete] at got got'
      split_ifs at got got'
      exact distinct q q' k got got'

/-! ### Runs -/

/-- A call on a started transport, with what the world answers to it. -/
inductive Op where
  | connectPeer (peerID : String) (port : Int) (subDial dealerDial : Option GoError)
  | connectPeerWithAddress (peerID address : String) (port : Int) (subDial dealerDial : Option GoError)
  | disconnectPeer (peerID : String)
  | send (peerID : String) (msg : Message) (now : Int) (sent : Option GoError)
  | broadcast (msg : Message) (now : Int) (sent : Option GoError)
  | sendWithRetry (peerID : String) (msg : Message) (clock : Nat → Int) (sent : Nat → Option GoError)
  | broadcastWithRetry (msg : Message) (clock : Nat → Int) (sent : Nat → Option GoError)
  | registerHandler (msgType : String) (handler : MessageHandler)
  | unregisterHandler (msgType : String)
  | receive (data : List UInt8)
  | receiveRouter (msg : Msg)

/-- The transport after a call, or the panic the call ends in. -/
def exec (json : JsonCodec) (t : Transport) : Op → Except Fault Transport
  | .connectPeer peerID port subDial dealerDial =>
    (t.ConnectPeer peerID port subDial dealerDial).map Prod.fst
  | .connectPeerWithAddress peerID address port subDial dealerDial =>
    (t.ConnectPeerWithAddress peerID address port subDial dealerDial).map Prod.fst
  | .disconnectPeer peerID => t.DisconnectPeer peerID
  | .send peerID msg now sent => .ok (t.Send json peerID msg now sent).1
  | .broadcast msg now sent => (t.Broadcast json msg now sent).map Prod.fst
  | .sendWithRetry peerID msg clock sent => (t.SendWithRetry json peerID msg clock sent).map (·.state.1)
  | .broadcastWithRetry msg clock sent => (t.BroadcastWithRetry json msg clock sent).map (·.state.1)
  | .registerHandler msgType handler => .ok (t.RegisterHandler msgType handler)
  | .unregisterHandler msgType => .ok (t.UnregisterHandler msgType)
  | .receive data => .ok (t.processMessage json data)
  | .receiveRouter msg => .ok (t.routerReceived json msg)

/-- The transports `Start` returned nil for, and what any calls make of them. -/
inductive Reachable (json : JsonCodec) : Transport → Prop
  | start (config : Config) : Reachable json (Start (New config) none none).1
  | step {t t' : Transport} (op : Op) : Reachable json t → exec json t op = .ok t' → Reachable json t'

/-- Every call keeps the registry, and SUB only dials more. -/
theorem exec_registry {json : JsonCodec} {t t' : Transport} {op : Op} (registry : Registry t)
    (ran : exec json t op = .ok t') : Registry t' ∧ t.subDialed <+: t'.subDialed := by
  have keeps : Keeps t t' → Registry t' ∧ t.subDialed <+: t'.subDialed :=
    fun keeps => ⟨registry.of_grows keeps.grows keeps.peers keeps.dealers, keeps.grows.subDialed⟩
  cases op with
  | connectPeer peerID port subDial dealerDial =>
    obtain ⟨⟨t', err⟩, connected, rfl⟩ := map_eq_ok ran
    exact connect_registry registry connected
  | connectPeerWithAddress peerID address port subDial dealerDial =>
    obtain ⟨⟨t', err⟩, connected, rfl⟩ := map_eq_ok ran
    exact connect_registry registry connected
  | disconnectPeer peerID =>
    obtain ⟨registry', -, -, same⟩ := disconnect_registry registry ran
    exact ⟨registry', same ▸ List.prefix_refl _⟩
  | send peerID msg now sent =>
    cases ran
    exact keeps (Send_keeps json t peerID msg now sent)
  | broadcast msg now sent =>
    obtain ⟨⟨t', m', err⟩, broadcast, rfl⟩ := map_eq_ok ran
    exact keeps (Broadcast_keeps broadcast)
  | sendWithRetry peerID msg clock sent =>
    obtain ⟨r, retried, rfl⟩ := map_eq_ok ran
    exact keeps (SendWithRetry_keeps retried)
  | broadcastWithRetry msg clock sent =>
    obtain ⟨r, retried, rfl⟩ := map_eq_ok ran
    exact keeps (BroadcastWithRetry_keeps retried)
  | registerHandler msgType handler =>
    cases ran
    exact keeps (.of_eq rfl rfl rfl rfl)
  | unregisterHandler msgType =>
    cases ran
    exact keeps (.of_eq rfl rfl rfl rfl)
  | receive data =>
    cases ran
    exact keeps (processMessage_keeps json t data)
  | receiveRouter msg =>
    cases ran
    refine keeps ?_
    unfold routerReceived
    split
    · exact processMessage_keeps json t _
    · exact .of_eq rfl rfl rfl rfl

theorem reachable_registry {json : JsonCodec} {t : Transport} (reach : Reachable json t) : Registry t := by
  induction reach with
  | start config => exact registry_start config
  | step op _ ran registry => exact (exec_registry registry ran).1

/-! ### Failed connects and disconnects -/

/-- A connect that returns an error changes neither `peers` nor `dealers`. A failed SUB `Dial`
    changes nothing; after a failed dealer `Dial`, SUB stays dialed to the peer's PUB endpoint
    and the new DEALER stays open without being a value of `dealers`. -/
theorem connect_error {t t' : Transport} {peerID address : String} {port : Int}
    {subDial dealerDial : Option GoError} {e : GoError} (registry : Registry t)
    (connected : t.ConnectPeerWithAddress peerID address port subDial dealerDial = .ok (t', some e)) :
    t'.peers = t.peers ∧ t'.dealers = t.dealers ∧ (subDial.isSome → t' = t) ∧
      (subDial = none → t'.subDialed = t.subDialed ++ [endpoint address port] ∧
        t'.sockets[t.sockets.length]? = some ⟨.dealer, t.nodeID, [], [], [], [], false⟩ ∧
        ∀ q, t'.dealers.get q ≠ some t.sockets.length) := by
  obtain ⟨j, sock, sub, found, -⟩ := registry.sub
  rcases ConnectPeerWithAddress_spec connected with ⟨-, -, none⟩ | ⟨-, j', sub', outcome⟩
  · cases none
  cases sub.symm.trans sub'
  rcases outcome with ⟨_, rfl, rfl, -⟩ | ⟨rfl, _, -, rfl, -⟩ | ⟨-, -, none, -⟩
  · exact ⟨rfl, rfl, fun _ => rfl, fun none => by cases none⟩
  · refine ⟨rfl, rfl, fun dialed => (by cases dialed), fun _ => ⟨subDialed_dial_newSocket sub found _ _,
      dial_newSocket_opened _ _ _ _, fun q got => ?_⟩⟩
    obtain ⟨sock', -, -, found', -⟩ := registry.dealer q _ got
    exact absurd (List.getElem?_eq_some_iff.mp found').1 (Nat.lt_irrefl _)
  · cases none

/-- `DisconnectPeer` after a connect that recorded a new peer gives `peers` and `dealers` back and
    closes the peer's dealer, but SUB stays dialed to the peer's PUB endpoint. -/
theorem disconnect_after_connect {t t' : Transport} {peerID address : String} {port : Int}
    {subDial dealerDial : Option GoError} (registry : Registry t) (fresh : peerID ∉ t.peers)
    (connected : t.ConnectPeerWithAddress peerID address port subDial dealerDial = .ok (t', none)) :
    ∃ t'', t'.DisconnectPeer peerID = .ok t'' ∧ t''.peers = t.peers ∧ t''.dealers = t.dealers ∧
      t''.subDialed = t.subDialed ++ [endpoint address port] ∧
      (t''.sockets[t.sockets.length]?).map Socket.closed = some true := by
  obtain ⟨j, sock, sub, found, -⟩ := registry.sub
  rcases ConnectPeerWithAddress_spec connected with ⟨known, -⟩ | ⟨-, j', sub', outcome⟩
  · exact absurd known fresh
  cases sub.symm.trans sub'
  rcases outcome with ⟨_, -, -, failed⟩ | ⟨-, _, -, -, failed⟩ | ⟨-, -, -, recorded⟩
  · cases failed
  · cases failed
  have absent : t.dealers.get peerID = none := by
    simpa using (not_congr (registry.keys peerID)).mp fresh
  have registry' := (connect_registry registry connected).1
  have lookup : t'.dealers.get peerID = some t.sockets.length := by rw [recorded]; simp
  have disconnected := DisconnectPeer_eq t' peerID
  rw [if_neg (by rw [recorded]; simp)] at disconnected
  simp only [lookup] at disconnected
  obtain ⟨-, peers, -, subDialed⟩ := disconnect_registry registry' disconnected
  refine ⟨_, disconnected, ?_, ?_, ?_, ?_⟩
  · rw [peers, recorded]
    simp [List.filter_eq_self]
    exact fun q inside same => fresh (same ▸ inside)
  · show t'.dealers.delete peerID = t.dealers
    rw [recorded]
    exact GoMap.delete_set_of_absent _ absent
  · rw [subDialed, recorded, subDialed_connected sub found]
  · show ((t'.closeSocket t.sockets.length).sockets[t.sockets.length]?).map Socket.closed = some true
    rw [recorded]
    simp [closeSocket, dial]

/-! ### The registry over runs -/

/-- For every run of a started transport: the registry holds; SUB only dials more; a connect that
    fails leaves `peers` and `dealers`, and after a failed dealer `Dial` SUB stays dialed and the
    new DEALER open and unrecorded; and `DisconnectPeer` after connecting a new peer restores
    `peers` and `dealers` while SUB stays dialed to the peer. -/
theorem registry_consistent (json : JsonCodec) :
    (∀ t, Reachable json t → Registry t) ∧
    (∀ t t' op, Reachable json t → exec json t op = .ok t' → t.subDialed <+: t'.subDialed) ∧
    (∀ t t' peerID address port subDial dealerDial e, Reachable json t →
      t.ConnectPeerWithAddress peerID address port subDial dealerDial = .ok (t', some e) →
      t'.peers = t.peers ∧ t'.dealers = t.dealers ∧ (subDial.isSome → t' = t) ∧
      (subDial = none → t'.subDialed = t.subDialed ++ [endpoint address port] ∧
        t'.sockets[t.sockets.length]? = some ⟨.dealer, t.nodeID, [], [], [], [], false⟩ ∧
        ∀ q, t'.dealers.get q ≠ some t.sockets.length)) ∧
    (∀ t t' peerID address port subDial dealerDial, Reachable json t → peerID ∉ t.peers →
      t.ConnectPeerWithAddress peerID address port subDial dealerDial = .ok (t', none) →
      ∃ t'', t'.DisconnectPeer peerID = .ok t'' ∧ t''.peers = t.peers ∧ t''.dealers = t.dealers ∧
        t''.subDialed = t.subDialed ++ [endpoint address port] ∧
        (t''.sockets[t.sockets.length]?).map Socket.closed = some true) :=
  ⟨fun _ reach => reachable_registry reach,
    fun _ _ _ reach ran => (exec_registry (reachable_registry reach) ran).2,
    fun _ _ _ _ _ _ _ _ reach connected => connect_error (reachable_registry reach) connected,
    fun _ _ _ _ _ _ _ reach fresh connected => disconnect_after_connect (reachable_registry reach) fresh connected⟩

/-- A connect whose dealer `Dial` fails leaks the DEALER it made: `node1` connects `node2` at
    `127.0.0.1:5001`, the DEALER's `Dial` to `tcp://127.0.0.1:6001` fails, and after `Stop` the fourth
    socket is that DEALER, never closed and no value of `dealers`. Apart from that, `DisconnectPeer`
    after a successful connect leaves SUB dialed to the peer's PUB endpoint. -/
theorem failed_connect_leaks_dealer :
    (∃ t t', (Start (New (DefaultConfig "node1" 5000)) none none).1.ConnectPeer "node2" 5001 none
        (some (.new "connection refused")) =
          .ok (t, some (.errorf "failed to connect dealer to node2 at tcp://127.0.0.1:6001: "
            (some (.new "connection refused")))) ∧
      t.Stop = .ok t' ∧ t'.dealers.entries = [] ∧
      (t'.sockets[3]?).map (fun s => (s.type, s.closed)) = some (.dealer, false)) ∧
    ∃ t t', (Start (New (DefaultConfig "node1" 5000)) none none).1.ConnectPeer "node2" 5001 none none =
        .ok (t, none) ∧ t.DisconnectPeer "node2" = .ok t' ∧ t'.peers = [] ∧
        t'.subDialed = ["tcp://127.0.0.1:5001"] :=
  ⟨⟨_, _, rfl, rfl, rfl, rfl⟩, _, _, rfl, rfl, rfl, rfl⟩

/-! ### `DisconnectPeer` on an empty registry -/

/-- `DisconnectPeer` panics on a freshly started transport, and on a peer disconnected twice. -/
theorem disconnect_empty_panics :
    (Start (New (DefaultConfig "node1" 5000)) none none).1.DisconnectPeer "node2" = .error .capOutOfRange ∧
    ∃ t t', (Start (New (DefaultConfig "node1" 5000)) none none).1.ConnectPeer "node2" 5001 none none =
        .ok (t, none) ∧ t.DisconnectPeer "node2" = .ok t' ∧ t'.DisconnectPeer "node2" = .error .capOutOfRange :=
  ⟨rfl, _, _, rfl, rfl, rfl⟩

end Zmq4.Networking
