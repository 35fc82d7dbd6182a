import Crosschain.Proofs.Passage

/-!
# A channel from its opening on

Two chains that were just started can open a channel of any version, ordered or not. They can turn
an unordered channel ordered, and over an ordered channel a packet with any data gets through.
-/

namespace Crosschain

namespace Passage

variable {o : Order} {v : ChannelVersion} {data : Bytes}

/-! ### The chains on the way -/

/-- The chain that proposed the channel, the one that answered, and both once they are open. -/
def proposing (o : Order) (v : ChannelVersion) : Site :=
  Site.start.grow (Shelf.fresh (proposed o v)).store [.openInit owner (proposed o v)]

theorem at_proposing : (proposing o v).At 2 := Site.at_start.grow

variable [Digest]

def answering (o : Order) (v : ChannelVersion) : Site :=
  (Site.start.hear (proposing o v).top).grow (Shelf.fresh (answered o v)).store
    [.openTry owner (answered o v) v]

def leading (o : Order) (v : ChannelVersion) : Site :=
  ((proposing o v).hear (answering o v).top).grow (Shelf.fresh (opened o v)).store
    [.openAck owner v]

def following (o : Order) (v : ChannelVersion) : Site :=
  ((answering o v).hear (leading o v).top).grow (Shelf.fresh (opened o v)).store
    [.openConfirm owner]

/-- The chain that proposed the upgrade, the one that answered, the first once it agreed, and both
once they are through. -/
def offering (v : ChannelVersion) : Site :=
  ((leading .unordered v).put (pledged v).store).grow (pledged v).store []

def replying (v : ChannelVersion) : Site :=
  ((following .unordered v).hear (offering v).top).grow (pledgedBoth .tryUpgrade v).store
    [.upgradeTry owner (pledge v).fields]

def agreeing (v : ChannelVersion) : Site :=
  ((offering v).hear (replying v).top).grow (pledgedBoth .ackUpgrade v).store
    [.upgradeAck owner v]

def confirming (v : ChannelVersion) : Site :=
  ((replying v).hear (agreeing v).top).grow (Shelf.fresh (turned v)).store [.upgradeOpen owner]

def finishing (v : ChannelVersion) : Site :=
  ((agreeing v).hear (confirming v).top).grow (Shelf.fresh (turned v)).store
    [.upgradeOpen owner]

/-- The chain that sent a packet and committed to it, and the one that received it. -/
def departed (l : Site) (x : ChannelEnd) (c : Bytes) : Site :=
  (l.put (sent x c).store).grow (sent x c).store []

def arrived (l r : Site) (x : ChannelEnd) (c : Bytes) (p : Packet) : Site :=
  (r.hear (departed l x c).top).grow (received x).store [.receive p]

/-! ### Moves -/

def hears (s : Side) (b : Block) : Move := ⟨s, .updateClient client b.header, some .applied, []⟩

def opening (o : Order) (v : ChannelVersion) : List (Move × World) :=
  [(⟨.left, .deliver (.handshake (.openInit (openInit o v))), some .applied,
      [Handshake.event .openInit owner hop ⟨port, none⟩]⟩,
      .of (proposing o v).chain Site.start.chain),
    (hears .right (proposing o v).top,
      .of (proposing o v).chain (Site.start.hear (proposing o v).top).chain),
    (⟨.right, .deliver (.handshake (.openTry (openTry o v (proposing o v).top))), some .applied,
      [Handshake.event .openTry owner hop (.ofEnd owner)]⟩,
      .of (proposing o v).chain (answering o v).chain),
    (hears .left (answering o v).top,
      .of ((proposing o v).hear (answering o v).top).chain (answering o v).chain),
    (⟨.left, .deliver (.handshake (.openAck (openAck v (answering o v).top))), some .applied,
      [Handshake.event .openAck owner hop (.ofEnd owner)]⟩,
      .of (leading o v).chain (answering o v).chain),
    (hears .right (leading o v).top,
      .of (leading o v).chain ((answering o v).hear (leading o v).top).chain),
    (⟨.right, .deliver (.handshake (.openConfirm (openConfirm (leading o v).top))), some .applied,
      [Handshake.event .openConfirm owner hop (.ofEnd owner)]⟩,
      .of (leading o v).chain (following o v).chain)]

def upgrading (v : ChannelVersion) : List (Move × World) :=
  [(⟨.left, .proposeUpgrade handle (upgradeInit v), some .applied,
      [Upgrading.event .init owner (turning .initUpgrade v) (pledge v).fields]⟩,
      .of ((leading .unordered v).put (pledged v).store).chain (following .unordered v).chain),
    (⟨.left, .advance, some .applied, []⟩,
      .of (offering v).chain (following .unordered v).chain),
    (hears .right (offering v).top,
      .of (offering v).chain ((following .unordered v).hear (offering v).top).chain),
    (⟨.right, .deliver (.upgrade (.answer (upgradeTry v (offering v).top))), some .applied,
      [Upgrading.event .answered owner (turning .tryUpgrade v) (pledge v).fields]⟩,
      .of (offering v).chain (replying v).chain),
    (hears .left (replying v).top,
      .of ((offering v).hear (replying v).top).chain (replying v).chain),
    (⟨.left, .deliver (.upgrade (.ack (upgradeAck v (replying v).top))), some .applied,
      [Upgrading.event .ack owner (turning .ackUpgrade v) (pledge v).fields]⟩,
      .of (agreeing v).chain (replying v).chain),
    (hears .right (agreeing v).top,
      .of (agreeing v).chain ((replying v).hear (agreeing v).top).chain),
    (⟨.right, .deliver (.upgrade (.confirm (upgradeConfirm (agreeing v).top))), some .applied,
      [Upgrading.event .confirm owner (turned v) (pledge v).fields,
        Upgrading.event .opened owner (turned v) (pledge v).fields]⟩,
      .of (agreeing v).chain (confirming v).chain),
    (hears .left (confirming v).top,
      .of ((agreeing v).hear (confirming v).top).chain (confirming v).chain),
    (⟨.left, .deliver (.upgrade (.finish (upgradeOpen (confirming v).top))), some .applied,
      [Upgrading.event .opened owner (turned v) (pledge v).fields]⟩,
      .of (finishing v).chain (confirming v).chain)]

/-- One packet is sent, and one with the same commitment is received. -/
def passing (l r : Site) (x : ChannelEnd) (c : Bytes) (p q : Packet) : List (Move × World) :=
  [(⟨.left, .send handle p.outgoing, some .applied, [.packet .sent p]⟩,
      .of (l.put (sent x c).store).chain r.chain),
    (⟨.left, .advance, some .applied, []⟩, .of (departed l x c).chain r.chain),
    (hears .right (departed l x c).top,
      .of (departed l x c).chain (r.hear (departed l x c).top).chain),
    (⟨.right, .deliver (.packet (.receive (receive q (departed l x c).top))), some .applied,
      [.packet .received q]⟩,
      .of (departed l x c).chain (arrived l r x c q).chain)]

section Plays

variable {l l' r r' : Site} {a : Action} {rep : Report} {rest : List (Move × World)} {b : Block}

theorem plays_left (done : l.chain.perform a = some (rep, l'.chain))
    (deaf : ∀ id header, a ≠ .updateClient id header)
    (plays : (World.of l'.chain r.chain).Plays rest) :
    (World.of l.chain r.chain).Plays ((⟨.left, a, rep⟩, .of l'.chain r.chain) :: rest) :=
  .cons (World.step_left done) (fun id header same => absurd same (deaf id header)) plays

theorem plays_right (done : r.chain.perform a = some (rep, r'.chain))
    (deaf : ∀ id header, a ≠ .updateClient id header)
    (plays : (World.of l.chain r'.chain).Plays rest) :
    (World.of l.chain r.chain).Plays ((⟨.right, a, rep⟩, .of l.chain r'.chain) :: rest) :=
  .cons (World.step_right done) (fun id header same => absurd same (deaf id header)) plays

theorem plays_hears_left (mem : b ∈ r.blocks)
    (plays : (World.of (l.hear b).chain r.chain).Plays rest) :
    (World.of l.chain r.chain).Plays ((hears .left b, .of (l.hear b).chain r.chain) :: rest) := by
  refine .cons (World.step_left Site.perform_updateClient) ?_ plays
  rintro id header ⟨⟩
  exact ⟨b, List.mem_cons_of_mem _ mem, rfl⟩

theorem plays_hears_right (mem : b ∈ l.blocks)
    (plays : (World.of l.chain (r.hear b).chain).Plays rest) :
    (World.of l.chain r.chain).Plays ((hears .right b, .of l.chain (r.hear b).chain) :: rest) := by
  refine .cons (World.step_right Site.perform_updateClient) ?_ plays
  rintro id header ⟨⟩
  exact ⟨b, List.mem_cons_of_mem _ mem, rfl⟩

omit [Digest] in
theorem top_mem_grow {s : ChannelStore} {calls : List Call} :
    (l.grow s calls).top ∈ (l.grow s calls).blocks :=
  List.mem_append_right _ List.mem_cons_self

end Plays

/-! ### The courses -/

theorem at_answering : (answering o v).At 2 := Site.at_start.hear.grow

theorem at_leading : (leading o v).At 3 := at_proposing.hear.grow

theorem at_following : (following o v).At 3 := at_answering.hear.grow

theorem at_offering : (offering v).At 4 := at_leading.put.grow

theorem at_replying : (replying v).At 4 := at_following.hear.grow

theorem at_agreeing : (agreeing v).At 5 := at_offering.hear.grow

theorem at_confirming : (confirming v).At 5 := at_replying.hear.grow

theorem at_finishing : (finishing v).At 6 := at_agreeing.hear.grow

theorem plays_opening (carried : connection.supports o) :
    (World.of Site.start.chain Site.start.chain).Plays (opening o v) := by
  have start := Site.at_start
  have proposing := at_proposing (o := o) (v := v)
  have answering := at_answering (o := o) (v := v)
  refine plays_left (Site.perform_openInit carried rfl (start.room (by decide))) nofun ?_
  refine plays_hears_right top_mem_grow ?_
  refine plays_right (Site.perform_openTry carried rfl start.going (start.room (by decide)) rfl)
    nofun ?_
  refine plays_hears_left top_mem_grow ?_
  refine plays_left (Site.perform_openAck rfl proposing.going (proposing.room (by decide)) rfl)
    nofun ?_
  refine plays_hears_right top_mem_grow ?_
  exact plays_right (Site.perform_openConfirm rfl answering.going (answering.room (by decide)) rfl)
    nofun (.nil _)

theorem plays_upgrading :
    (World.of (leading .unordered v).chain (following .unordered v).chain).Plays (upgrading v) := by
  have leading := at_leading (o := .unordered) (v := v)
  have following := at_following (o := .unordered) (v := v)
  have offering := at_offering (v := v)
  have replying := at_replying (v := v)
  have agreeing := at_agreeing (v := v)
  refine plays_left (Site.perform_upgradeInit rfl) nofun ?_
  refine plays_left (Site.perform_advance (leading.put.room (by decide))) nofun ?_
  refine plays_hears_right top_mem_grow ?_
  refine plays_right (Site.perform_upgradeTry rfl following.going (following.room (by decide))
    (following.early (by decide)) rfl) nofun ?_
  refine plays_hears_left top_mem_grow ?_
  refine plays_left (Site.perform_upgradeAck rfl offering.going (offering.room (by decide))
    (replying.early (by decide)) rfl) nofun ?_
  refine plays_hears_right top_mem_grow ?_
  refine plays_right (Site.perform_upgradeConfirm rfl replying.going (replying.room (by decide))
    (agreeing.early (by decide)) rfl) nofun ?_
  refine plays_hears_left top_mem_grow ?_
  exact plays_left (Site.perform_upgradeOpen rfl agreeing.going (agreeing.room (by decide)) rfl)
    nofun (.nil _)

/-- A packet that is sent gets through as any packet with its commitment that is in time. -/
theorem plays_passing {l r : Site} {x : ChannelEnd} {m n : Nat} {c : Bytes} {p q : Packet}
    (here : l.At m) (there : r.At n) (low : m < 9) (low' : n < 9)
    (kept : l.store = (Shelf.fresh x).store) (kept' : r.store = (Shelf.fresh x).store)
    (ordered : Ordered x) (twins : Twins p q c) (current : l.Current p)
    (before : InTime q r.height) :
    (World.of l.chain r.chain).Plays (passing l r x c p q) := by
  refine plays_left (Site.perform_send twins kept ordered current) nofun ?_
  refine plays_left (Site.perform_advance (here.put.room low)) nofun ?_
  refine plays_hears_right top_mem_grow ?_
  exact plays_right (Site.perform_receive twins kept' ordered there.going (there.room low')
    (there.early low') before rfl) nofun (.nil _)

def Site.Behind (t : Site) (n : UInt64) : Prop :=
  ∀ c, t.known = some c → c.state.latestHeight < ⟨0, n⟩

namespace Site.Behind

variable {t : Site} {m n : UInt64} {s : ChannelStore}

theorem latestHeight (behind : t.Behind m) :
    (learnt t.known (block m s)).state.latestHeight = ⟨0, m⟩ := by
  cases known : t.known with
  | none => rfl
  | some c => exact congrArg ClientState.latestHeight (if_pos (behind c known))

theorem hear (behind : t.Behind m) (lt : (⟨0, m⟩ : Height) < ⟨0, n⟩) :
    (t.hear (block m s)).Behind n := by
  rintro c ⟨⟩
  rw [behind.latestHeight]
  exact lt

theorem current {p : Packet} (behind : t.Behind m) (going : t.Going) (before : InTime p m) :
    (t.hear (block m s)).Current p := by
  refine ⟨going.hear, learnt t.known (block m s), (block m s).header.consensus, rfl, ?_, ?_⟩
  · rw [behind.latestHeight]
    cases t.known with
    | none => exact Std.ExtTreeMap.getElem?_insert_self
    | some c => exact Std.ExtTreeMap.getElem?_insert_self
  · rw [behind.latestHeight]
    exact before

end Site.Behind

theorem current_leading {p : Packet} (before : InTime p 2) : (leading o v).Current p := by
  have behind : (proposing o v).Behind 2 := nofun
  have current := behind.current (s := (answering o v).store) at_proposing.going before
  exact ⟨current.going, current.latest⟩

theorem current_finishing : (finishing v).Current (packet data) := by
  have behind : (proposing .unordered v).Behind 2 := nofun
  have next := behind.hear (n := 4) (s := (answering .unordered v).store) rfl
  have last := Site.Behind.hear (t := offering v) (n := 5) (s := (replying v).store) next rfl
  have current := Site.Behind.current (t := agreeing v) (p := packet data)
    (s := (confirming v).store) last at_agreeing.going (Early.of_low (by decide)).inTime
  exact ⟨current.going, current.latest⟩

/-- A channel is opened ordered, and a packet that is sent gets through as another one with its
commitment. -/
def conveyed (v : ChannelVersion) {c : Bytes} {p q : Packet} (twins : Twins p q c)
    (before : InTime p 2) (before' : InTime q 3) : Run :=
  .ofPlay Site.started ((plays_opening (o := .ordered) (v := v) (by decide)).append
    (plays_passing at_leading at_following (by decide) (by decide) rfl rfl ⟨rfl, rfl, rfl, rfl⟩ twins
      (current_leading before) before'))

omit [Digest] in
theorem inTime_sent : InTime (packet data) 2 := (Early.of_low (by decide)).inTime

omit [Digest] in
theorem inTime_received : InTime (packet data) 3 := (Early.of_low (by decide)).inTime

/-- A channel is opened ordered, and a packet gets through. -/
def direct (v : ChannelVersion) (data : Bytes) (filled : data ≠ []) : Run :=
  conveyed v (twins_packet filled) inTime_sent inTime_received

/-- A channel is opened unordered, turned ordered, and a packet gets through. -/
def upgraded (v : ChannelVersion) (data : Bytes) (filled : data ≠ []) : Run :=
  .ofPlay Site.started ((plays_opening (o := .unordered) (v := v) (by decide)).append
    (plays_upgrading.append
      (plays_passing at_finishing at_confirming (by decide) (by decide) rfl rfl
        ⟨rfl, rfl, rfl, rfl⟩ (twins_packet filled) current_finishing
        (at_confirming.early (by decide)).inTime)))

/-! ### What holds on the way -/

section Stores

variable {P : Side → Shelf → Prop}

theorem forall_opening (init : P .left (.fresh (proposed o v)))
    (answer : P .right (.fresh (answered o v))) (done : ∀ s, P s (.fresh (opened o v))) :
    ∀ p ∈ opening o v, ∀ s, Shelf.Kept (P s) (p.2 s).host.store := by
  have none : Shelf.Kept (P .right) Site.start.store := .inl rfl
  have init := Shelf.Kept.of_shelf init
  have answer := Shelf.Kept.of_shelf answer
  have done (s : Side) := Shelf.Kept.of_shelf (done s)
  simp [opening, Side.forall_iff, proposing, answering, leading, following, none, init, answer,
    done]

theorem forall_upgrading (first : ∀ s, P s (.fresh (opened .unordered v)))
    (init : P .left (pledged v)) (answer : P .right (pledgedBoth .tryUpgrade v))
    (ack : P .left (pledgedBoth .ackUpgrade v)) (done : ∀ s, P s (.fresh (turned v))) :
    ∀ p ∈ upgrading v, ∀ s, Shelf.Kept (P s) (p.2 s).host.store := by
  have first (s : Side) := Shelf.Kept.of_shelf (first s)
  have init := Shelf.Kept.of_shelf init
  have answer := Shelf.Kept.of_shelf answer
  have ack := Shelf.Kept.of_shelf ack
  have done (s : Side) := Shelf.Kept.of_shelf (done s)
  simp [upgrading, Side.forall_iff, following, offering, replying, agreeing, confirming, finishing,
    first, init, answer, ack, done]

theorem forall_passing {l r : Site} {x : ChannelEnd} {c : Bytes} {p q : Packet}
    (first : Shelf.Kept (P .right) r.store) (send : P .left (sent x c))
    (receive : P .right (received x)) :
    ∀ y ∈ passing l r x c p q, ∀ s, Shelf.Kept (P s) (y.2 s).host.store := by
  have send := Shelf.Kept.of_shelf send
  have receive := Shelf.Kept.of_shelf receive
  simp [passing, Side.forall_iff, departed, arrived, first, send, receive]

end Stores

section Runs

variable (v) (filled : data ≠ []) {i : Nat} {s : Side} {e : EndId} {x : ChannelEnd} {u : Upgrade}

section Conveyed

variable {c : Bytes} {p q : Packet} {twins : Twins p q c} {before : InTime p 2}
  {before' : InTime q 3}

theorem kept_conveyed : Shelf.Kept (fun l => l.value.ordering = .ordered)
    ((conveyed v twins before before').host i s).store := by
  refine Run.forall_store (P := fun _ => Shelf.Kept fun l => l.value.ordering = .ordered) ?_
    (List.forall_mem_append.2 ⟨?_, ?_⟩) i s
  · exact Side.forall_iff.2 ⟨.inl rfl, .inl rfl⟩
  · exact forall_opening rfl rfl fun _ => rfl
  · exact forall_passing (.of_shelf rfl) rfl rfl

theorem ordered_conveyed
    (there : ((conveyed v twins before before').lane i s e).channel = some x) :
    x.ordering = .ordered := by
  obtain ⟨l, ordered, rfl⟩ := (kept_conveyed v).of_channel there
  exact ordered

theorem asks_conveyed {m : Move} {a : OutgoingPacket}
    (move : (conveyed v twins before before').move i = some m)
    (asked : m.action.outgoing? = some a) : a = p.outgoing ∨ a = q.outgoing := by
  refine Run.forall_move (P := fun m => ∀ a, m.action.outgoing? = some a →
    a = p.outgoing ∨ a = q.outgoing) (List.forall_mem_append.2 ⟨?_, ?_⟩) move a asked
  all_goals simp [opening, passing, hears, Action.outgoing?, receive, PacketMessage.packet]

/-- Over a channel that was opened ordered, a packet gets through as the one that stands for it. -/
theorem conveyed_delivers : (conveyed v twins before before').announced 11 .left owner = [p] ∧
    (conveyed v twins before before').delivered 11 .right owner = [q] := by
  have last : (conveyed v twins before before').world 11 .right =
      (arrived (leading .ordered v) (following .ordered v) (opened .ordered v) c q).chain := rfl
  constructor
  · simp [Run.announced, Run.events, conveyed, Run.ofPlay, opening, passing, hears, Handshake.event,
      Event.sent?, twins.first.source]
    rfl
  · rw [Run.delivered, last, Site.delivered_chain]
    exact List.filter_eq_self.2 fun q' mem => by
      obtain rfl := List.mem_singleton.1 mem
      simp [twins.other.destination]

end Conveyed

theorem ordered_direct (there : ((direct v data filled).lane i s e).channel = some x) :
    x.ordering = .ordered := ordered_conveyed v there

theorem asks_direct {m : Move} {a : OutgoingPacket} (move : (direct v data filled).move i = some m)
    (asked : m.action.outgoing? = some a) : a = outgoing data :=
  or_self_iff.1 (asks_conveyed v move asked)

omit [Digest] in
theorem properHeights_of_asks {a : Action} (asks : ∀ m, a.outgoing? = some m → m = outgoing data) :
    a.ProperHeights := by
  intro m h asked limit
  rw [asks m asked] at limit
  cases limit

omit [Digest] in
theorem timed_of_asks {a : Action} (asks : ∀ m, a.outgoing? = some m → m = outgoing data) :
    a.Timed := by
  intro m asked
  rw [asks m asked]
  exact ⟨deadline, rfl⟩

theorem properHeights_direct {m : Move} (move : (direct v data filled).move i = some m) :
    m.action.ProperHeights := properHeights_of_asks fun _ => asks_direct v filled move

theorem timed_direct {m : Move} (move : (direct v data filled).move i = some m) :
    m.action.Timed := timed_of_asks fun _ => asks_direct v filled move

/-- Over a channel that was opened ordered, a packet with any data gets through. -/
theorem direct_delivers : (direct v data filled).announced 11 .left owner = [packet data] ∧
    (direct v data filled).delivered 11 .right owner = [packet data] := conveyed_delivers v

/-- On the way of an end that turns ordered, all proposals are those of that change, and only the
left end proposes. -/
structure Turning (v : ChannelVersion) (s : Side) (l : Shelf) : Prop where
  own : ∀ u, l.upgrade = some u → u = pledge v
  peer : ∀ u, l.peerUpgrade = some u → u = pledge v
  follows : s = .right → l.value.state ≠ .initUpgrade

omit [Digest] in
theorem Turning.fresh (other : x.state ≠ .initUpgrade) : Turning v s (.fresh x) :=
  ⟨nofun, nofun, fun _ => other⟩

omit [Digest] in
theorem Turning.pledged : Turning v .left (pledged v) :=
  ⟨fun _ same => (Option.some.inj same).symm, nofun, nofun⟩

omit [Digest] in
theorem Turning.both {state : ChannelState} (other : state ≠ .initUpgrade) :
    Turning v s (pledgedBoth state v) :=
  ⟨fun _ same => (Option.some.inj same).symm, fun _ same => (Option.some.inj same).symm,
    fun _ => other⟩

theorem kept_upgraded : Shelf.Kept (Turning v s) ((upgraded v data filled).host i s).store := by
  have opened (s : Side) : Turning v s (.fresh (opened .unordered v)) := .fresh v (by nofun)
  have done (s : Side) : Turning v s (.fresh (turned v)) := .fresh v (by nofun)
  refine Run.forall_store (P := fun s => Shelf.Kept (Turning v s)) ?_
    (List.forall_mem_append.2 ⟨?_, List.forall_mem_append.2 ⟨?_, ?_⟩⟩) i s
  · exact Side.forall_iff.2 ⟨.inl rfl, .inl rfl⟩
  · exact forall_opening (.fresh v (by nofun)) (.fresh v (by nofun)) opened
  · exact forall_upgrading opened (.pledged v) (.both v (by nofun)) (.both v (by nofun)) done
  · exact forall_passing (.of_shelf (done _)) ⟨nofun, nofun, nofun⟩ ⟨nofun, nofun, fun _ => nofun⟩

theorem upgrade_upgraded (there : ((upgraded v data filled).lane i s e).upgrade = some u) :
    u = pledge v := by
  obtain ⟨l, turning, held⟩ := (kept_upgraded v filled).of_upgrade there
  exact turning.own u held

theorem peerUpgrade_upgraded (there : ((upgraded v data filled).lane i s e).peerUpgrade = some u) :
    u = pledge v := by
  obtain ⟨l, turning, held⟩ := (kept_upgraded v filled).of_peerUpgrade there
  exact turning.peer u held

theorem state_upgraded (there : ((upgraded v data filled).lane i .right e).channel = some x) :
    x.state ≠ .initUpgrade := by
  obtain ⟨l, turning, rfl⟩ := (kept_upgraded v filled).of_channel there
  exact turning.follows rfl

theorem no_cancel_upgraded {m : UpgradeCancel} :
    (upgraded v data filled).action? i s ≠ some (.deliver (.upgrade (.cancel m))) := by
  intro action
  obtain ⟨rep, move, -⟩ := Run.acts action
  refine Run.forall_move (P := fun n => n.action ≠ .deliver (.upgrade (.cancel m)))
    (List.forall_mem_append.2 ⟨?_, List.forall_mem_append.2 ⟨?_, ?_⟩⟩) move rfl
  all_goals simp [opening, upgrading, passing, hears]

/-- Over a channel that was turned ordered, a packet with any data gets through. -/
theorem upgraded_delivers : (upgraded v data filled).announced 21 .left owner = [packet data] ∧
    (upgraded v data filled).delivered 21 .right owner = [packet data] := by
  have last : (upgraded v data filled).world 21 .right =
      (arrived (finishing v) (confirming v) (turned v) (commitment data) (packet data)).chain := rfl
  constructor
  · simp [Run.announced, Run.events, upgraded, Run.ofPlay, opening, upgrading, passing, hears,
      packet, Handshake.event, Upgrading.event, Event.sent?]
    rfl
  · rw [Run.delivered, last, Site.delivered_chain]
    rfl

end Runs

/-! ### A leap second -/

/-- A leap second counts the nanoseconds of the second after it, and comes before that. -/
def leapSecond : Timestamp := ⟨some ⟨1699999979, 1000000000⟩⟩

def nextSecond : Timestamp := .ofNanoseconds 1699999980000000000

def dueAt (t : Timestamp) : Packet := { packet [1] with timeoutTime := t }

theorem twins_leap : Twins (dueAt nextSecond) (dueAt leapSecond)
    (Digest.hash (Commitment.packetInput [1] .never 1699999980000000000)) :=
  ⟨⟨rfl, rfl, rfl⟩, by decide, by decide, rfl, ⟨rfl, rfl, rfl⟩, rfl⟩

omit [Digest] in
theorem inTime_nextSecond : InTime (dueAt nextSecond) 2 := by
  unfold InTime
  decide

omit [Digest] in
theorem inTime_leapSecond : InTime (dueAt leapSecond) 3 := by
  unfold InTime
  decide

end Passage

end Crosschain
