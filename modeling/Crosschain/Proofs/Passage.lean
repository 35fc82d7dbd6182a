import Crosschain.Proofs.Sites

/-!
# Steps of a channel that goes well

Opening a channel of any version, turning an unordered channel ordered, and passing a packet with
any data over an ordered channel: what each step does to a chain with one channel, when the other
chain's newest block shows what the step asks for.
-/

namespace Crosschain

namespace Passage

variable {o : Order} {v : ChannelVersion} {data : Bytes}

/-! ### Ends and messages -/

/-- An end that was never upgraded. -/
def endAs (state : ChannelState) (o : Order) (peer : ChannelPeer) (v : ChannelVersion) :
    ChannelEnd := .ofParts state o peer [hop] v

def proposed (o : Order) (v : ChannelVersion) : ChannelEnd := endAs .init o ⟨port, none⟩ v

def answered (o : Order) (v : ChannelVersion) : ChannelEnd := endAs .tryOpen o (.ofEnd owner) v

def opened (o : Order) (v : ChannelVersion) : ChannelEnd := endAs .opened o (.ofEnd owner) v

def openInit (o : Order) (v : ChannelVersion) : OpenInit := ⟨port, proposed o v⟩

def openTry (o : Order) (v : ChannelVersion) (b : Block) : OpenTry :=
  ⟨port, answered o v, v, ⟨b.proof, none, b.height⟩⟩

def openAck (v : ChannelVersion) (b : Block) : OpenAck :=
  ⟨owner, .channel 0, v, ⟨b.proof, none, b.height⟩⟩

def openConfirm (b : Block) : OpenConfirm := ⟨owner, ⟨b.proof, none, b.height⟩⟩

/-- A time long after the first blocks. -/
def deadline : UInt64 := 1700000000000000000

def due : Timestamp := .ofNanoseconds deadline

/-- The upgrade that turns a channel ordered, as either end proposes it before it has sent
anything. -/
def pledge (v : ChannelVersion) : Upgrade :=
  ⟨⟨.ordered, [hop], v⟩, .atTimestamp due, 0⟩

/-- An unordered end on its way to being ordered. -/
def turning (state : ChannelState) (v : ChannelVersion) : ChannelEnd :=
  { opened .unordered v with state, upgradeSequence := 1 }

def turned (v : ChannelVersion) : ChannelEnd := { opened .ordered v with upgradeSequence := 1 }

def pledged (v : ChannelVersion) : Shelf :=
  { Shelf.fresh (turning .initUpgrade v) with upgrade := some (pledge v) }

def pledgedBoth (state : ChannelState) (v : ChannelVersion) : Shelf :=
  { Shelf.fresh (turning state v) with
    upgrade := some (pledge v), peerUpgrade := some (pledge v) }

def upgradeInit (v : ChannelVersion) : UpgradeInit :=
  ⟨owner, (pledge v).fields, some (pledge v).timeout⟩

def upgradeTry (v : ChannelVersion) (b : Block) : UpgradeTry :=
  ⟨owner, [hop], (pledge v).timeout, pledge v, 1, ⟨b.proof, some b.proof, b.height⟩⟩

def upgradeAck (v : ChannelVersion) (b : Block) : UpgradeAck :=
  ⟨owner, pledge v, ⟨b.proof, some b.proof, b.height⟩⟩

def upgradeConfirm (b : Block) : UpgradeConfirm := ⟨owner, ⟨b.proof, none, b.height⟩⟩

def upgradeOpen (b : Block) : UpgradeOpen := ⟨owner, .opened, ⟨b.proof, none, b.height⟩⟩

/-- A packet that may be the first one over the channel. -/
structure First (p : Packet) : Prop where
  sequence : p.sequence = 1
  source : p.source = owner
  destination : p.destination = owner

def packet (data : Bytes) : Packet := ⟨1, owner, owner, data, .never, due⟩

theorem first_packet : First (packet data) := ⟨rfl, rfl, rfl⟩

def outgoing (data : Bytes) : OutgoingPacket := (packet data).outgoing

def commitment [Digest] (data : Bytes) : Bytes :=
  Digest.hash (Commitment.packetInput data .never deadline)

theorem ofPacket?_packet [Digest] :
    Commitment.ofPacket? (packet data) = some (commitment data) := by
  have time : (packet data).timeoutTime.nanoseconds? = some deadline :=
    Timestamp.nanoseconds?_ofNanoseconds deadline
  rw [Commitment.ofPacket?, Commitment.ofParts?, time]
  rfl

/-- A first packet that can be sent, and one that stands for it by their one commitment. -/
structure Twins [Digest] (p q : Packet) (c : Bytes) : Prop where
  first : First p
  filled : p.data ≠ []
  bounded : p.timeoutHeight.isSet || p.timeoutTime.isSet
  commits : Commitment.ofPacket? p = some c
  other : First q
  agrees : Commitment.ofPacket? q = some c

theorem Twins.self [Digest] {p q : Packet} {c : Bytes} (twins : Twins p q c) : Twins p p c :=
  ⟨twins.first, twins.filled, twins.bounded, twins.commits, twins.first, twins.commits⟩

theorem twins_packet [Digest] (filled : data ≠ []) :
    Twins (packet data) (packet data) (commitment data) :=
  ⟨first_packet, filled, rfl, ofPacket?_packet, first_packet, ofPacket?_packet⟩

def receive (p : Packet) (b : Block) : ReceivePacket := ⟨p, ⟨b.proof, none, b.height⟩⟩

structure Ordered (x : ChannelEnd) : Prop where
  state : x.state = .opened
  ordering : x.ordering = .ordered
  hops : x.hops = [hop]
  peer : x.peer = .ofEnd owner

theorem Ordered.allowsPackets {x : ChannelEnd} (ordered : Ordered x) : x.state.allowsPackets := by
  rw [ordered.state]
  rfl

def sent (x : ChannelEnd) (c : Bytes) : Shelf :=
  { Shelf.fresh x with nextSend := 2, commitment := some c }

def received (x : ChannelEnd) : Shelf := { Shelf.fresh x with nextRecv := 2 }

/-- The time of a height is before the deadline. -/
structure Early (n : UInt64) : Prop where
  time : blockTime? ⟨0, n⟩ = some (.ofNanoseconds (genesisNanoseconds + blockNanoseconds * n))
  before : due.reachedAt (.ofNanoseconds (genesisNanoseconds + blockNanoseconds * n)) = false

theorem Early.of_low {n : UInt64} (low : n.toNat < 1000) : Early n := by
  have time := blockTime?_of_low low
  refine ⟨time, ?_⟩
  obtain ⟨m, same, value⟩ := blockTime?_eq_some time
  have genesis : genesisNanoseconds.toNat = 1650000000000000000 := rfl
  have pace : blockNanoseconds.toNat = 5000000000 := rfl
  have late : deadline.toNat = 1700000000000000000 := rfl
  simp only at value
  rw [same, due, Bool.eq_false_iff, ne_eq, Timestamp.reachedAt_ofNanoseconds,
    UInt64.le_iff_toNat_le, value, genesis, pace, late]
  omega

/-- A packet is not timed out by the first block of a height. -/
def InTime (p : Packet) (n : UInt64) : Prop :=
  p.timedOut ⟨0, n⟩ (.ofNanoseconds (genesisNanoseconds + blockNanoseconds * n)) = false

theorem Early.inTime {n : UInt64} (early : Early n) : InTime (packet data) n := by
  simp [InTime, Packet.timedOut, packet, TimeoutHeight.reachedAt, early.before]

namespace Site

variable {t : Site} {n : UInt64} {l : Shelf} {x : ChannelEnd}

theorem openConnection_host {known : Option Client} {s : ChannelStore} (hops : x.hops = [hop]) :
    (hostOf n known s).openConnection x = .ok connection := by
  rw [Host.openConnection_eq_ok]
  exact ⟨hop, hops, by simp [hostOf], rfl⟩

theorem At.early {m : Nat} (here : t.At m) (low : m < 9) : Early t.height := by
  have height := here.toNat_height low
  exact .of_low (by omega)

variable [Digest]

/-! ### Opening -/

theorem perform_openInit (carried : connection.supports o) (empty : t.store = .empty)
    (room : Room t.height t.blocks) :
    t.chain.perform (.deliver (.handshake (.openInit (openInit o v)))) =
      some (⟨some .applied, [Handshake.event .openInit owner hop ⟨port, none⟩]⟩,
        (t.grow (Shelf.fresh (proposed o v)).store [.openInit owner (proposed o v)]).chain) := by
  have fresh : Handshake.freshEnd t.host port = owner := by
    rw [Handshake.freshEnd, store_host, empty]
    rfl
  have step : Handshake.step t.host (.openInit (openInit o v)) =
      .ok ⟨⟨owner, true, proposed o v⟩, [Handshake.freshLine owner],
        [Handshake.event .openInit owner hop ⟨port, none⟩]⟩ := by
    have done := Handshake.step_eq_ok.2 (.openInit (m := openInit o v) (h := t.host)
      (openConnection_host rfl) rfl carried)
    rw [show (openInit o v).port = port from rfl, fresh] at done
    exact done
  have stored := Shelf.applyEnd_empty (x := proposed o v) rfl
  rw [← empty] at stored
  exact perform_handshake_of_step rfl step stored room

theorem perform_openTry (carried : connection.supports o) (empty : t.store = .empty)
    (going : t.Going) (room : Room t.height t.blocks) (shown : l.value = proposed o v) :
    (t.hear (block n l.store)).chain.perform
        (.deliver (.handshake (.openTry (openTry o v (block n l.store))))) =
      some (⟨some .applied, [Handshake.event .openTry owner hop (.ofEnd owner)]⟩,
        ((t.hear (block n l.store)).grow (Shelf.fresh (answered o v)).store
          [.openTry owner (answered o v) v]).chain) := by
  have fresh : Handshake.freshEnd (t.hear (block n l.store)).host port = owner := by
    rw [Handshake.freshEnd, store_host, store_hear, empty]
    rfl
  have holds := holds_end (l := l) (n := n)
  rw [shown] at holds
  have step : Handshake.step (t.hear (block n l.store)).host
      (.openTry (openTry o v (block n l.store))) = .ok ⟨⟨owner, true, answered o v⟩,
        [Handshake.freshLine owner, "success: channel open try"],
        [Handshake.event .openTry owner hop (.ofEnd owner)]⟩ := by
    have shown := Host.provesEnd_of_block (x := answered o v) (knows_hear going) rfl holds
    have done := Handshake.step_eq_ok.2 (.openTry (m := openTry o v (block n l.store))
      (h := (t.hear (block n l.store)).host) rfl (openConnection_host rfl) rfl carried rfl shown)
    rw [show (openTry o v (block n l.store)).port = port from rfl, fresh] at done
    exact done
  have stored := Shelf.applyEnd_empty (x := answered o v) rfl
  rw [← empty] at stored
  exact perform_handshake_of_step rfl step stored room

theorem perform_openAck (kept : t.store = (Shelf.fresh (proposed o v)).store) (going : t.Going)
    (room : Room t.height t.blocks) (shown : l.value = answered o v) :
    (t.hear (block n l.store)).chain.perform
        (.deliver (.handshake (.openAck (openAck v (block n l.store))))) =
      some (⟨some .applied, [Handshake.event .openAck owner hop (.ofEnd owner)]⟩,
        ((t.hear (block n l.store)).grow (Shelf.fresh (opened o v)).store
          [.openAck owner v]).chain) := by
  have holds := holds_end (l := l) (n := n)
  rw [shown] at holds
  have there : (t.hear (block n l.store)).host.store.ends[owner]? = some (proposed o v) := by
    rw [store_host, store_hear, kept]
    exact Shelf.ends_store
  have step : Handshake.step (t.hear (block n l.store)).host
      (.openAck (openAck v (block n l.store))) = .ok ⟨⟨owner, false, opened o v⟩,
        ["success: channel open ack"], [Handshake.event .openAck owner hop (.ofEnd owner)]⟩ := by
    have shown := Host.provesEnd_of_block (x := (proposed o v).withPeerChannel (.channel 0))
      (knows_hear going) rfl holds
    exact Handshake.step_eq_ok.2
      (.openAck (m := openAck v (block n l.store)) there (.inl rfl) (openConnection_host rfl) rfl rfl
        shown)
  have stored := Shelf.applyEnd_store (l := Shelf.fresh (proposed o v)) (x := opened o v) rfl
  rw [← kept] at stored
  exact perform_handshake_of_step rfl step stored room

theorem perform_openConfirm (kept : t.store = (Shelf.fresh (answered o v)).store)
    (going : t.Going) (room : Room t.height t.blocks) (shown : l.value = opened o v) :
    (t.hear (block n l.store)).chain.perform
        (.deliver (.handshake (.openConfirm (openConfirm (block n l.store))))) =
      some (⟨some .applied, [Handshake.event .openConfirm owner hop (.ofEnd owner)]⟩,
        ((t.hear (block n l.store)).grow (Shelf.fresh (opened o v)).store
          [.openConfirm owner]).chain) := by
  have holds := holds_end (l := l) (n := n)
  rw [shown] at holds
  have there : (t.hear (block n l.store)).host.store.ends[owner]? = some (answered o v) := by
    rw [store_host, store_hear, kept]
    exact Shelf.ends_store
  have step : Handshake.step (t.hear (block n l.store)).host
      (.openConfirm (openConfirm (block n l.store))) = .ok ⟨⟨owner, false, opened o v⟩,
        ["success: channel open confirm "],
        [Handshake.event .openConfirm owner hop (.ofEnd owner)]⟩ := by
    have shown := Host.provesEnd_of_block (x := answered o v) (knows_hear going) rfl holds
    exact Handshake.step_eq_ok.2
      (.openConfirm (m := openConfirm (block n l.store)) there rfl (openConnection_host rfl) rfl rfl
        shown)
  have stored := Shelf.applyEnd_store (l := Shelf.fresh (answered o v)) (x := opened o v) rfl
  rw [← kept] at stored
  exact perform_handshake_of_step rfl step stored room

/-! ### Turning ordered -/

omit [Digest] in
theorem carries_pledge {known : Option Client} {s : ChannelStore}
    (unordered : x.ordering = .unordered) : (hostOf n known s).Carries x (pledge v).fields := by
  have carried : connection.supports .ordered := by decide
  refine ⟨fun same => ?_, hop, connection, rfl, by simp [hostOf], rfl, carried⟩
  have ordering : Order.ordered = x.ordering := congrArg UpgradeFields.ordering same
  rw [unordered] at ordering
  cases ordering

omit [Digest] in
theorem ensureFlushed_pledge {known : Option Client} (quiet : l.commitment = none)
    (unordered : x.ordering = .unordered) :
    Upgrading.ensureFlushed (hostOf n known l.store) owner x (pledge v).fields = .ok () := by
  have changes : ¬ (pledge v).fields.ordering = x.ordering := by
    rw [unordered]
    exact fun same => by cases same
  rw [Upgrading.ensureFlushed, if_neg changes]
  simp only [Except.bind_eq_ok, Fault.lift_eq_ok, Fault.ensure_eq_ok]
  exact ⟨false, Shelf.inFlight_store quiet, rfl⟩

theorem perform_upgradeInit (kept : t.store = (Shelf.fresh (opened .unordered v)).store) :
    t.chain.perform (.proposeUpgrade handle (upgradeInit v)) =
      some (⟨some .applied,
        [Upgrading.event .init owner (turning .initUpgrade v) (pledge v).fields]⟩,
        (t.put (pledged v).store).chain) := by
  have host := host_of_store kept
  have step : Upgrading.propose t.host handle (upgradeInit v) =
      .ok ⟨⟨owner, turning .initUpgrade v, .proposed (pledge v)⟩,
        ["success: channel upgrade init at sequence " ++ Word.text 1],
        [Upgrading.event .init owner (turning .initUpgrade v) (pledge v).fields]⟩ := by
    rw [host]
    have counter : (hostOf t.height t.known
        (Shelf.fresh (opened .unordered v)).store).store.nextSend[owner]? = some 1 :=
      Shelf.nextSend_store
    exact Upgrading.propose_eq_ok.2 (.proposed (m := upgradeInit v) (x := opened .unordered v)
      (n := 1) Shelf.ends_store Shelf.authenticate_store rfl (carries_pledge rfl) rfl rfl counter
      rfl)
  have performed := perform_propose_of_step step
  rw [kept, Shelf.applyUpgrade_proposed] at performed
  exact performed

theorem perform_upgradeTry (kept : t.store = (Shelf.fresh (opened .unordered v)).store)
    (going : t.Going) (room : Room t.height t.blocks) (early : Early t.height)
    (shown : l = pledged v) :
    (t.hear (block n l.store)).chain.perform
        (.deliver (.upgrade (.answer (upgradeTry v (block n l.store))))) =
      some (⟨some .applied,
        [Upgrading.event .answered owner (turning .tryUpgrade v) (pledge v).fields]⟩,
        ((t.hear (block n l.store)).grow (pledgedBoth .tryUpgrade v).store
          [.upgradeTry owner (pledge v).fields]).chain) := by
  subst shown
  have host := host_hear (b := block n (pledged v).store) kept
  have first := Host.provesEnd_of_block (x := opened .unordered v) (knows_hear going) rfl
    (holds_end (l := pledged v) (n := n))
  have second := Host.provesUpgrade_of_block (x := opened .unordered v) (knows_hear going) rfl
    (holds_upgrade (l := pledged v) (n := n) rfl)
  rw [host] at first second
  have step : Upgrading.step (t.hear (block n (pledged v).store)).host
      (.answer (upgradeTry v (block n (pledged v).store))) =
      .ok ⟨⟨owner, turning .tryUpgrade v, .answered (pledge v) (pledge v)⟩,
        ["success: channel upgrade try at sequence " ++ Word.text 1],
        [Upgrading.event .answered owner (turning .tryUpgrade v) (pledge v).fields]⟩ := by
    rw [host]
    have answerable : Upgrading.Answerable (hostOf t.height
        (some (learnt t.known (block n (pledged v).store)))
          (Shelf.fresh (opened .unordered v)).store) (upgradeTry v (block n (pledged v).store))
        (opened .unordered v) (pledge v).fields := {
      channel := Shelf.ends_store
      state := .inl rfl
      inTime := ⟨_, early.time, by simp [upgradeTry, pledge, UpgradeTimeout.elapsedAt,
        UpgradeTimeout.atTimestamp, TimeoutHeight.reachedAt, early.before]⟩
      fields_eq := rfl
      valid := carries_pledge rfl
      linked := ⟨hop, hop, connection, rfl, rfl, by simp [hostOf], rfl⟩
      shown := ⟨connection, hop, _, openConnection_host rfl, rfl, first, rfl, second⟩ }
    have counter : (hostOf t.height (some (learnt t.known (block n (pledged v).store)))
        (Shelf.fresh (opened .unordered v)).store).store.nextSend[owner]? = some 1 :=
      Shelf.nextSend_store
    have newer : ¬ (1 : Sequence) ≤ 0 := by decide
    exact Upgrading.step_eq_ok.2 (.answered answerable rfl newer counter
      (ensureFlushed_pledge rfl rfl))
  have performed := perform_upgrade_of_step rfl step rfl rfl room
  rw [store_hear, kept,
    Shelf.applyUpgrade_answered] at performed
  exact performed

theorem perform_upgradeAck (kept : t.store = (pledged v).store) (going : t.Going)
    (room : Room t.height t.blocks) (early : Early n) (shown : l = pledgedBoth .tryUpgrade v) :
    (t.hear (block n l.store)).chain.perform
        (.deliver (.upgrade (.ack (upgradeAck v (block n l.store))))) =
      some (⟨some .applied,
        [Upgrading.event .ack owner (turning .ackUpgrade v) (pledge v).fields]⟩,
        ((t.hear (block n l.store)).grow (pledgedBoth .ackUpgrade v).store
          [.upgradeAck owner v]).chain) := by
  subst shown
  have host := host_hear (b := block n (pledgedBoth .tryUpgrade v).store) kept
  have knows := knows_hear (b := block n (pledgedBoth .tryUpgrade v).store) going
  have first := Host.provesEnd_of_block (x := turning .initUpgrade v) knows rfl
    (holds_end (l := pledgedBoth .tryUpgrade v) (n := n))
  have second := Host.provesUpgrade_of_block (x := turning .initUpgrade v) knows rfl
    (holds_upgrade (l := pledgedBoth .tryUpgrade v) (n := n) rfl)
  rw [host] at first second knows
  have step : Upgrading.step (t.hear (block n (pledgedBoth .tryUpgrade v).store)).host
      (.ack (upgradeAck v (block n (pledgedBoth .tryUpgrade v).store))) =
      .ok ⟨⟨owner, turning .ackUpgrade v, .acknowledged (pledge v)⟩,
        ["success: channel upgrade ack"],
        [Upgrading.event .ack owner (turning .ackUpgrade v) (pledge v).fields]⟩ := by
    rw [host]
    have in_time : ¬ (pledge v).timeout.elapsedAt (block n (pledgedBoth .tryUpgrade v).store).height
        (block n (pledgedBoth .tryUpgrade v).store).timestamp := by
      simp [pledge, block, UpgradeTimeout.elapsedAt, UpgradeTimeout.atTimestamp,
        TimeoutHeight.reachedAt, early.before]
    have fits : Upgrading.matchesPeer (hostOf t.height
        (some (learnt t.known (block n (pledgedBoth .tryUpgrade v).store))) (pledged v).store)
          (pledge v).fields (pledge v).fields = .ok true := by
      rw [Upgrading.matchesPeer, if_pos (by simp [UpgradeFields.agreesWith])]
      simp only [Except.bind_eq_ok, Except.pure_eq_ok, Fault.lift_eq_ok, UpgradeFields.hop_eq_ok,
        Host.connectionAt_eq_ok, Host.peerHop_eq_ok]
      exact ⟨hop, rfl, connection, by simp [hostOf], hop, rfl, hop, rfl, by simp⟩
    have answered : Upgrading.Answered (hostOf t.height
        (some (learnt t.known (block n (pledgedBoth .tryUpgrade v).store))) (pledged v).store)
        (upgradeAck v (block n (pledgedBoth .tryUpgrade v).store)) (turning .initUpgrade v)
        connection (pledge v) :=
      ⟨⟨Shelf.ends_store, openConnection_host rfl, Shelf.upgrades_store⟩, .inl rfl,
        ⟨hop, rfl, first⟩, _, rfl, second⟩
    exact Upgrading.step_eq_ok.2 (.acknowledged answered fits knows in_time
      (ensureFlushed_pledge rfl rfl))
  have performed := perform_upgrade_of_step rfl step rfl rfl room
  rw [store_hear, kept,
    Shelf.applyUpgrade_acknowledged] at performed
  exact performed

omit [Digest] in
theorem sequenceReset_pledge {known : Option Client} (counter : l.nextSend = 1)
    (peer : l.peerUpgrade = some (pledge v)) (unordered : x.ordering = .unordered) :
    Upgrading.sequenceReset (hostOf n known l.store) owner x (pledge v).fields =
      .ok (some ⟨1, 1⟩) := by
  have turns : (pledge v).fields.ordering = .ordered ∧ x.ordering ≠ .ordered := by
    rw [unordered]
    exact ⟨rfl, fun same => by cases same⟩
  rw [Upgrading.sequenceReset, if_pos turns]
  simp only [Except.bind_eq_ok, Except.pure_eq_ok, Fault.lift_eq_ok, Fault.checked_eq_ok,
    ChannelStore.peerUpgradeOf_eq_ok, ChannelStore.nextSendOf_eq_ok]
  exact ⟨pledge v, Shelf.peerUpgrades_store.trans peer, 1, rfl, 1,
    Shelf.nextSend_store.trans (congrArg some counter), rfl⟩

theorem perform_upgradeConfirm (kept : t.store = (pledgedBoth .tryUpgrade v).store)
    (going : t.Going) (room : Room t.height t.blocks) (early : Early n)
    (shown : l.value = turning .ackUpgrade v) :
    (t.hear (block n l.store)).chain.perform
        (.deliver (.upgrade (.confirm (upgradeConfirm (block n l.store))))) =
      some (⟨some .applied, [Upgrading.event .confirm owner (turned v) (pledge v).fields,
          Upgrading.event .opened owner (turned v) (pledge v).fields]⟩,
        ((t.hear (block n l.store)).grow (Shelf.fresh (turned v)).store
          [.upgradeOpen owner]).chain) := by
  have host := host_hear (b := block n l.store) kept
  have knows := knows_hear (b := block n l.store) going
  have holds := holds_end (l := l) (n := n)
  rw [shown] at holds
  have first := Host.provesEnd_of_block (x := turning .tryUpgrade v) knows rfl holds
  rw [host] at first knows
  have step : Upgrading.step (t.hear (block n l.store)).host
      (.confirm (upgradeConfirm (block n l.store))) =
      .ok ⟨⟨owner, turned v, .completed (some ⟨1, 1⟩)⟩, ["success: channel upgrade confirm"],
        [Upgrading.event .confirm owner (turned v) (pledge v).fields,
          Upgrading.event .opened owner (turned v) (pledge v).fields]⟩ := by
    rw [host]
    have in_time : ¬ (pledge v).timeout.elapsedAt (block n l.store).height
        (block n l.store).timestamp := by
      simp [pledge, block, UpgradeTimeout.elapsedAt, UpgradeTimeout.atTimestamp,
        TimeoutHeight.reachedAt, early.before]
    have acknowledged : Upgrading.Acknowledged (hostOf t.height
        (some (learnt t.known (block n l.store))) (pledgedBoth .tryUpgrade v).store)
        (upgradeConfirm (block n l.store)) (turning .tryUpgrade v) connection (pledge v) :=
      ⟨⟨Shelf.ends_store, openConnection_host rfl, Shelf.upgrades_store⟩, rfl, hop, rfl, first⟩
    exact Upgrading.step_eq_ok.2 (.confirmed acknowledged knows in_time
      (sequenceReset_pledge rfl rfl rfl))
  have performed := perform_upgrade_of_step rfl step rfl rfl room
  rw [store_hear, kept,
    Shelf.applyUpgrade_completed] at performed
  exact performed

theorem perform_upgradeOpen (kept : t.store = (pledgedBoth .ackUpgrade v).store)
    (going : t.Going) (room : Room t.height t.blocks) (shown : l.value = turned v) :
    (t.hear (block n l.store)).chain.perform
        (.deliver (.upgrade (.finish (upgradeOpen (block n l.store))))) =
      some (⟨some .applied, [Upgrading.event .opened owner (turned v) (pledge v).fields]⟩,
        ((t.hear (block n l.store)).grow (Shelf.fresh (turned v)).store
          [.upgradeOpen owner]).chain) := by
  have host := host_hear (b := block n l.store) kept
  have holds := holds_end (l := l) (n := n)
  rw [shown] at holds
  have first := Host.provesEnd_of_block (x := turning .ackUpgrade v) (knows_hear going) rfl holds
  rw [host] at first
  have step : Upgrading.step (t.hear (block n l.store)).host
      (.finish (upgradeOpen (block n l.store))) =
      .ok ⟨⟨owner, turned v, .completed (some ⟨1, 1⟩)⟩, ["success: channel upgrade open"],
        [Upgrading.event .opened owner (turned v) (pledge v).fields]⟩ := by
    rw [host]
    have expected : Upgrading.expectedFinished (hostOf t.height
        (some (learnt t.known (block n l.store))) (pledgedBoth .ackUpgrade v).store)
        (upgradeOpen (block n l.store)) connection (turning .ackUpgrade v) (pledge v) =
          .ok (turned v) := by
      simp only [Upgrading.expectedFinished, upgradeOpen, Except.bind_eq_ok, Except.pure_eq_ok,
        Fault.lift_eq_ok, UpgradeFields.hop_eq_ok, Host.connectionAt_eq_ok, Host.peerHop_eq_ok]
      exact ⟨hop, rfl, connection, by simp [hostOf], hop, rfl, rfl⟩
    have running : Upgrading.Running (hostOf t.height
        (some (learnt t.known (block n l.store))) (pledgedBoth .ackUpgrade v).store) owner
        (turning .ackUpgrade v) connection (pledge v) :=
      ⟨Shelf.ends_store, openConnection_host rfl, Shelf.upgrades_store⟩
    exact Upgrading.step_eq_ok.2 (.finished running rfl expected first
      (sequenceReset_pledge rfl rfl rfl))
  have performed := perform_upgrade_of_step rfl step rfl rfl room
  rw [store_hear, kept,
    Shelf.applyUpgrade_completed] at performed
  exact performed

/-! ### Passing a packet -/

/-- The newest block that the client knows is in time for a packet. -/
structure Current (t : Site) (p : Packet) : Prop where
  going : t.Going
  latest : ∃ c cs, t.known = some c ∧ c.consensus[c.state.latestHeight]? = some cs ∧
    p.timedOut c.state.latestHeight cs.timestamp = false

variable {p q : Packet} {c : Bytes}

theorem perform_send (twins : Twins p q c) (kept : t.store = (Shelf.fresh x).store)
    (ordered : Ordered x) (current : t.Current p) :
    t.chain.perform (.send handle p.outgoing) =
      some (⟨some .applied, [.packet .sent p]⟩, (t.put (sent x c).store).chain) := by
  obtain ⟨n, source, destination, data, height, time⟩ := p
  obtain ⟨⟨rfl, rfl, rfl⟩, filled, bounded, commits, -⟩ := twins
  have host := host_of_store kept
  obtain ⟨going, client, cs, known, latest, before⟩ := current
  obtain ⟨below, before⟩ := Bool.or_eq_false_iff.1 before
  have thaw : client.state.frozenHeight = none := going client known
  have in_time : Transfer.ensureNotTimedOut t.host x ⟨owner, data, height, time⟩ = .ok () := by
    have there : t.host.clients[Passage.client]? = some client := by
      simp [Site.host, hostOf, known]
    simp only [Transfer.ensureNotTimedOut, Except.bind_eq_ok, Fault.lift_eq_ok, Fault.wrap_eq_ok,
      Fault.ensure_eq_ok, ChannelEnd.hop_eq_ok, Host.connectionAt_eq_ok]
    refine ⟨hop, ordered.hops, connection, by simp [Site.host, hostOf], client.state, ?_, (), ?_, ?_⟩
    · simp [Host.clientState, connection, ConnectionEnd.opened, there]
    · simp [ClientState.isFrozen, thaw]
    · have newest : t.host.consensusState connection.client client.state.latestHeight = .ok cs := by
        simp [Host.consensusState, connection, ConnectionEnd.opened, there, latest]
      cases height with
      | never =>
        simp only [Except.bind_eq_ok, Fault.wrap_eq_ok]
        exact ⟨cs, newest, Fault.ensure_eq_ok.2 (by simp [before])⟩
      | atHeight limit =>
        simp only [Except.bind_eq_ok, Fault.wrap_eq_ok, Fault.ensure_eq_ok]
        exact ⟨(), by simpa [TimeoutHeight.reachedAt] using below, cs, newest, by simp [before]⟩
  have quiet : Upgrading.pendingOrderChange (hostOf t.height t.known (Shelf.fresh x).store) owner
      x = .ok none := by
    rw [Upgrading.pendingOrderChange, ordered.state]
    rfl
  have step : Transfer.send t.host handle ⟨owner, data, height, time⟩ =
      .ok ⟨.sent ⟨owner, 1⟩ 2 c, ["success: packet send"],
        [.packet .sent ⟨1, owner, owner, data, height, time⟩]⟩ := by
    rw [host] at in_time ⊢
    exact Transfer.send_eq_ok.2 (.sent ⟨Shelf.ends_store, Shelf.authenticate_store,
      ordered.allowsPackets⟩ quiet filled bounded ordered.peer in_time Shelf.nextSend_store rfl
      commits)
  have stored : t.store.applyPacket (.sent ⟨owner, 1⟩ 2 c) = (sent x c).store := by
    rw [kept, Shelf.applyPacket_sent]
    rfl
  have performed := perform_send_of_step step
  rw [stored] at performed
  exact performed

/-- What was sent can be settled as any packet with its commitment. -/
theorem outstanding_sent {known : Option Client} (twins : Twins p q c) (ordered : Ordered x) :
    Transfer.Outstanding (hostOf n known (sent x c).store) handle q x connection := by
  obtain ⟨m, source, destination, data, height, time⟩ := q
  obtain ⟨-, -, -, -, ⟨rfl, rfl, rfl⟩, commits⟩ := twins
  have committed : (hostOf n known (sent x c).store).store.commitments[Slot.mk owner 1]? = some c :=
    Map.getElem?_single
  exact ⟨Shelf.ends_store, Shelf.authenticate_store, ⟨c, commits, committed⟩, ordered.peer, hop,
    ordered.hops, by simp [hostOf]⟩

theorem perform_receive (twins : Twins p q c) (kept : t.store = (Shelf.fresh x).store)
    (ordered : Ordered x) (going : t.Going) (room : Room t.height t.blocks) (early : Early t.height)
    (before : InTime q t.height) (shown : l.commitment = some c) :
    (t.hear (block n l.store)).chain.perform
        (.deliver (.packet (.receive (receive q (block n l.store))))) =
      some (⟨some .applied, [.packet .received q]⟩,
        ((t.hear (block n l.store)).grow (received x).store [.receive q]).chain) := by
  obtain ⟨m, source, destination, data, height, limit⟩ := q
  obtain ⟨-, -, -, -, ⟨rfl, rfl, rfl⟩, commits⟩ := twins
  have host := host_hear (b := block n l.store) kept
  have first := Host.provesPacket_of_block (knows_hear (b := block n l.store) going) commits
    (holds_commitment shown)
  rw [host] at first
  have waiting : ¬ x.state = .ackUpgrade := by simp [ordered.state]
  have connects {known : Option Client} {s : ChannelStore} :
      (hostOf t.height known s).openConnection x = .ok connection := openConnection_host ordered.hops
  have letsIn : Transfer.LetsIn (hostOf t.height (some (learnt t.known (block n l.store)))
      (Shelf.fresh x).store) handle (receive ⟨1, owner, owner, data, height, limit⟩
        (block n l.store)) x 1 := {
    receivable := ⟨Shelf.ends_store, Shelf.authenticate_store, ordered.allowsPackets, ordered.peer,
      fun same => absurd same waiting, _, connects⟩
    inTime := Transfer.ensureInTime_of_before early.time before
    shown := ⟨connection, connects, first⟩
    counter := Shelf.nextRecv_store }
  have step : Transfer.step (t.hear (block n l.store)).host handle (.receive (receive
      ⟨1, owner, owner, data, height, limit⟩ (block n l.store))) = .ok ⟨.receivedInOrder owner 2,
        ["success: packet receive"],
        [.packet .received ⟨1, owner, owner, data, height, limit⟩]⟩ := by
    rw [host]
    exact Transfer.step_eq_ok.2 (.receivedInOrder letsIn ordered.ordering rfl)
  have owns := capabilityOf_chain (t := t.hear (block n l.store)) kept
  have performed := perform_packet_of_step (m := .receive _) rfl owns step rfl room
  rw [store_hear, kept, Shelf.applyPacket_received] at performed
  exact performed

end Site

end Passage

end Crosschain
