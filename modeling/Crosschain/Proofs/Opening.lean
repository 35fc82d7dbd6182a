import Crosschain.Proofs.Completion
import Crosschain.Proofs.Ownership

/-!
# Handshakes that go through

Once one chain took a proposal of a channel, the three messages that are left are taken in turn, if
each holds what the other chain has just committed to. The proposing end cannot know yet what the
other end is called, and the other end may have another version than was proposed; both learn it from
the other chain. What is given out for a new end, its name and its capability, was never used before.
-/

namespace Crosschain

/-! ### A message and a block -/

theorem Height.eq_later_of_next? {h h' : Height} (next : h.next? = some h') : h' = h.later 1 := by
  rw [next?, add?] at next
  obtain ⟨n, sum, rfl⟩ := Option.map_eq_some_iff.1 next
  rw [later, Height.mk.injEq]
  refine ⟨rfl, UInt64.toNat_inj.1 ?_⟩
  have count : n.toNat = h.height.toNat + 1 := Word.add?_eq_some_iff.1 sum
  have one : (UInt64.ofNat 1).toNat = 1 := rfl
  have fits := n.toNat_lt_size
  rw [count] at fits ⊢
  rw [UInt64.toNat_add, one]
  exact (Nat.mod_eq_of_lt fits).symm

namespace Chain

theorem next_of_advance {c c' : Chain} (more : c.advance? = some c') :
    c.Next c' c.host.store := by
  obtain ⟨h, b, next, -, eq⟩ := advance?_eq_some more
  subst eq
  exact ⟨rfl, Height.eq_later_of_next? next, rfl, id, fun _ willing => willing,
    current_of_advance more⟩

variable [Digest] {c c' : Chain} {m : HandshakeMessage}

theorem exists_perform_handshake {out : Output EndChange} {id : ModuleId} {app : Application}
    {cap : Option Capability} {t : ChannelStore} (bound : c.appOf m.port = .ok (id, app))
    (step : Handshake.step c.host m = .ok out)
    (agrees : (app.reply (handshakeCall m out.result.owner)).refusal = none)
    (stored : c.host.store.applyEnd (settleVersion m out.result
      (app.reply (handshakeCall m out.result.owner)).version) = (.ok cap, t))
    (room : c.host.height.Room 1) :
    ∃ c', c.perform (.deliver (.handshake m)) = some (⟨some .applied, out.events⟩, c') ∧
      c.Next c' t := by
  obtain ⟨c', more, store, height, connections, thawed, willing, current⟩ :=
    exists_next_of_advance (c := (c.tell id app (handshakeCall m out.result.owner)).withStore t) room
  exact ⟨c', Delivers.perform (.stored bound step agrees stored) more, store, height, connections,
    thawed, fun port before => willing port (before.tell bound), current⟩

theorem handshake_of_applied {events : List Event}
    (done : c.perform (.deliver (.handshake m)) = some (⟨some .applied, events⟩, c')) :
    ∃ id app out cap t, c.appOf m.port = .ok (id, app) ∧ Handshake.step c.host m = .ok out ∧
      c.host.store.applyEnd (settleVersion m out.result
        (app.reply (handshakeCall m out.result.owner)).version) = (.ok cap, t) ∧ c.Next c' t := by
  obtain ⟨e, -, refused⟩ | ⟨receipt, d, delivers, -, more⟩ := deliver_cases done
  · cases refused
  cases delivers with
  | @stored _ id app out cap t bound ok agrees stored =>
    obtain ⟨store, height, connections, thawed, willing, current⟩ := next_of_advance more
    exact ⟨id, app, out, cap, t, bound, ok, stored, store, height, connections, thawed,
      fun port before => willing port (before.tell bound), current⟩

end Chain

/-! ### New ends -/

/-- What a chain keeps for an end that sent and received nothing yet. -/
structure Chain.Keeps (c : Chain) (e : EndId) (x : ChannelEnd) (cap : Capability) : Prop where
  channel : c.host.store.ends[e]? = some x
  nextSend : c.host.store.nextSend[e]? = some 1
  nextRecv : c.host.store.nextRecv[e]? = some 1
  nextAck : c.host.store.nextAck[e]? = some 1
  owned : c.capabilityOf e = .ok cap

/-- There is a number left for a new channel, and one for its capability. -/
def ChannelStore.Spacious (s : ChannelStore) : Prop :=
  (∃ n, Word.add? s.created 1 = some n) ∧ ∃ i, Word.add? s.registry.nextIndex 1 = some i

namespace Chain.Keeps

variable {c c' : Chain} {e : EndId} {x y : ChannelEnd} {cap : Capability} {hop : ConnectionId}

theorem of_new {handle : Option Capability} {t : ChannelStore} (hops : x.hops = [hop])
    (stored : c.host.store.applyEnd ⟨e, true, x⟩ = (.ok handle, t)) (next : c.Next c' t)
    (issued : c.host.store.registry.Issued) :
    ∃ cap, c'.Keeps e x cap ∧ c.host.store.registry.Unused cap := by
  obtain ⟨cap, -, creates⟩ := ChannelStore.creates_of_applyEnd (by rfl) hops stored
  have lane := creates.lane
  have created := creates.enlisted
  rw [← next.store] at lane created
  refine ⟨cap, ⟨congrArg Lane.channel lane, congrArg Lane.nextSend lane,
    congrArg Lane.nextRecv lane, congrArg Lane.nextAck lane, ?_⟩, issued.unused created⟩
  exact Registry.get_of_create created

theorem of_old (keeps : c.Keeps e x cap) (next : c.Next c' (c.host.store.setEnd e y)) :
    c'.Keeps e y cap := by
  have lane := c.host.store.lane_setEnd e y
  rw [← next.store] at lane
  have registry : c'.host.store.registry = c.host.store.registry := by
    rw [next.store]
    rfl
  refine ⟨congrArg Lane.channel lane, (congrArg Lane.nextSend lane).trans keeps.nextSend,
    (congrArg Lane.nextRecv lane).trans keeps.nextRecv,
    (congrArg Lane.nextAck lane).trans keeps.nextAck, ?_⟩
  rw [capabilityOf, registry]
  exact keeps.owned

end Chain.Keeps

theorem ChannelStore.Registered.exists_applyEnd {s : ChannelStore} {port : PortId} {x : ChannelEnd}
    {hop : ConnectionId} (registered : s.Registered) (spacious : s.Spacious)
    (hops : x.hops = [hop]) :
    ∃ cap t, s.applyEnd ⟨⟨port, .channel s.created⟩, true, x⟩ = (.ok cap, t) := by
  obtain ⟨⟨created, count⟩, i, index⟩ := spacious
  have hop_ok : x.hop = .ok hop := ChannelEnd.hop_eq_ok.2 hops
  have free := registered.free port
  simp [ChannelStore.applyEnd, hop_ok, setEnd, count, Registry.create, startCounters, setNextSend,
    setNextRecv, setNextAck, addOverConnection, free, index]

/-! ### What the messages ask for -/

/-- A proposal of a channel with terms, to a peer. Its state and its upgrade sequence say nothing. -/
structure Terms.Proposed (t : Terms) (s : Side) (peer : ChannelPeer) (x : ChannelEnd) : Prop where
  ordering : x.ordering = t.ordering
  peer : x.peer = peer
  hops : x.hops = [t.hop s]

/-- The terms with the version that was chosen. -/
def Terms.withVersion (t : Terms) (v : ChannelVersion) : Terms := { t with version := v }

/-- The end that proposes a channel, before it knows the name of the other end. -/
def Terms.initEnd (t : Terms) (port : PortId) (s : Side) : ChannelEnd :=
  .ofParts .init t.ordering ⟨port, none⟩ [t.hop s] t.version

namespace Handshake

variable {h : Host} {t : Terms} {owner : Side → EndId} {s : Side} {x : ChannelEnd}
  {v : ChannelVersion}

theorem openInit_eq [Digest] {m : OpenInit} {out : Output EndChange}
    (ok : step h (.openInit m) = .ok out) :
    out.result = ⟨freshEnd h m.port, true, .ofParts .init m.proposal.ordering m.proposal.peer
      m.proposal.hops m.proposal.version⟩ := by
  cases step_eq_ok.1 ok
  rfl

variable [Digest] {b : Block}

theorem exists_openTry {port : PortId} (rests : t.Rests s h)
    (supported : (t.conn s).supports t.ordering)
    (asks : t.Proposed s (.ofEnd (owner s.other)) x)
    (knows : h.Knows (t.conn s) b.height b.header.consensus)
    (shown : b.Holds (.channelEnd (owner s.other)) (t.initEnd port s.other).encode) :
    ∃ out, step h (.openTry ⟨port, x, t.version, b.evidence⟩) = .ok out ∧
      out.result = ⟨freshEnd h port, true,
        .ofParts .tryOpen t.ordering (.ofEnd (owner s.other)) [t.hop s] t.version⟩ := by
  obtain ⟨ordering, peer, hops⟩ := asks
  let y := ChannelEnd.ofParts .tryOpen x.ordering x.peer x.hops t.version
  have first := rests.provesEnd (x := y) knows peer shown
  have done : step h (.openTry ⟨port, x, t.version, b.evidence⟩) = .ok ⟨⟨freshEnd h port, true, y⟩,
      [freshLine (freshEnd h port), "success: channel open try"],
      [event .openTry (freshEnd h port) (t.hop s) (.ofEnd (owner s.other))]⟩ := by
    rw [Terms.initEnd, ← ordering] at first
    exact step_eq_ok.2 (.openTry peer (rests.openConnection hops) hops (ordering ▸ supported)
      rests.peer first)
  refine ⟨_, done, ?_⟩
  simp only [y, ordering, peer, hops]

theorem exists_openAck (rests : t.Rests s h)
    (channel : h.store.ends[owner s]? = some (t.initEnd (owner s.other).port s))
    (knows : h.Knows (t.conn s) b.height b.header.consensus)
    (shown : b.Holds (.channelEnd (owner s.other))
      ((t.withVersion v).endAt owner .tryOpen 0 s.other).encode) :
    ∃ out, step h (.openAck ⟨owner s, (owner s.other).channel, v, b.evidence⟩) = .ok out ∧
      out.result = ⟨owner s, false, (t.withVersion v).endAt owner .opened 0 s⟩ := by
  let y := (t.initEnd (owner s.other).port s).withPeerChannel (owner s.other).channel
  have first := rests.provesEnd (x := y) knows rfl shown
  rw [Terms.endAt_other] at first
  exact ⟨_, step_eq_ok.2 (.openAck channel (.inl rfl) (rests.openConnection rfl) rfl rests.peer
    first), rfl⟩

theorem exists_openConfirm (rests : t.Rests s h)
    (channel : h.store.ends[owner s]? = some (t.endAt owner .tryOpen 0 s))
    (knows : h.Knows (t.conn s) b.height b.header.consensus)
    (shown : b.Holds (.channelEnd (owner s.other)) (t.endAt owner .opened 0 s.other).encode) :
    ∃ out, step h (.openConfirm ⟨owner s, b.evidence⟩) = .ok out ∧
      out.result = ⟨owner s, false, t.endAt owner .opened 0 s⟩ := by
  let y := t.endAt owner .tryOpen 0 s
  have first := rests.provesEnd (x := y) knows rfl shown
  rw [Terms.endAt_other] at first
  exact ⟨_, step_eq_ok.2 (.openConfirm channel rfl (rests.openConnection rfl) rfl rests.peer
    first), rfl⟩

end Handshake

theorem Terms.Rests.withVersion {t : Terms} {s : Side} {h : Host} (rests : t.Rests s h)
    (v : ChannelVersion) : (t.withVersion v).Rests s h :=
  ⟨rests.there, rests.isOpen, rests.label, rests.peer⟩

/-! ### One chain of the two -/

/-- The chain of a side that takes part in an opening over a connection, and has an end in place. -/
structure Seat (t : Terms) (owner : Side → EndId) (s : Side) (c : Chain) (x : ChannelEnd)
    (cap : Capability) : Prop where
  rests : t.Rests s c.host
  clean : (owner s).Clean
  thawed : c.host.Thawed
  willing : c.Willing (owner s).port
  keeps : c.Keeps (owner s) x cap

namespace Seat

variable {t : Terms} {owner : Side → EndId} {s : Side} {c c' : Chain} {x y : ChannelEnd}
  {cap : Capability} {b : Block}

theorem next (seat : Seat t owner s c x cap)
    (next : c.Next c' (c.host.store.setEnd (owner s) y)) : Seat t owner s c' y cap :=
  ⟨seat.rests.congr next.connections, seat.clean, next.thawed seat.thawed,
    next.willing _ seat.willing, seat.keeps.of_old next⟩

theorem holds_end (seat : Seat t owner s c x cap) (current : c.Current b) :
    b.Holds (.channelEnd (owner s)) x.encode :=
  current.shows.holds_end seat.clean seat.keeps.channel

variable [Digest]

theorem exists_perform {id : ClientId} {m : HandshakeMessage} {out : Output EndChange}
    {hop : ConnectionId} (seat : Seat t owner s c x cap) (port : m.port = (owner s).port)
    (settled : ∀ change v, Chain.settleVersion m change v = change)
    (step : Handshake.step (c.host.updateClient id b.header) m = .ok out)
    (result : out.result = ⟨owner s, false, y⟩) (hops : y.hops = [hop])
    (room : c.host.height.Room 1) :
    ∃ c' events, (c.mapHost fun h => h.updateClient id b.header).perform (.deliver (.handshake m)) =
        some (⟨some .applied, events⟩, c') ∧ Seat t owner s c' y cap ∧
      c'.host.height = c.host.height.later 1 ∧ ∃ b', c'.Current b' := by
  obtain ⟨module, app, bound, agrees⟩ := seat.willing
  rw [← port] at bound
  have stored (v : ChannelVersion) :
      c.host.store.applyEnd (Chain.settleVersion m out.result v) =
        (.ok none, c.host.store.setEnd (owner s) y) := by
    rw [settled, result, ChannelStore.applyEnd_old rfl hops]
  obtain ⟨c', done, store, height, connections, thawed, willing, current⟩ :=
    Chain.exists_perform_handshake (c := c.mapHost fun h => h.updateClient id b.header) bound step
      (Application.refusal_reply agrees _) (stored _) room
  exact ⟨c', out.events, done, seat.next ⟨store, height, connections,
    fun before => thawed before.updateClient, willing, current⟩, height, current⟩

end Seat

/-! ### Both chains -/

/-- Two chains between which a channel can be opened: the connection supports the ordering, the
clients are in use, the applications of the two ports agree, and the names of capabilities are
those of the ends that were created. -/
structure World.CanOpen (w : World) (t : Terms) (port : Side → PortId) : Prop where
  rests : ∀ s, t.Rests s (w s).host
  supported : ∀ s, (t.conn s).supports t.ordering
  proper : ∀ s, Identifier.ofText .port (port s).text = .ok (port s)
  thawed : ∀ s, (w s).host.Thawed
  willing : ∀ s, (w s).Willing (port s)
  registered : ∀ s, (w s).host.store.Registered
  issued : ∀ s, (w s).host.store.registry.Issued

namespace World

/-- The ends that the two chains create next. -/
def freshEnds (w : World) (port : Side → PortId) : Side → EndId :=
  fun s => Handshake.freshEnd (w s).host (port s)

theorem CanOpen.clean {w : World} {t : Terms} {port : Side → PortId} (able : w.CanOpen t port)
    (s : Side) : (w.freshEnds port s).Clean :=
  ⟨Identifier.slash_notMem_of_ofText (able.proper s), Identifier.slash_notMem_channel _⟩

variable [Digest]

/-- A relayer tells the chain of a side of the newest block of the other chain, and brings a message
with that block's proofs, which is applied. -/
def Conveys (w : World) (s : Side) (id : ClientId) (message : Evidence → Datagram) (w' : World) :
    Prop :=
  ∃ b v events, (w s.other).latestBlock? = some b ∧
    w.Step (some ⟨s, .updateClient id b.header, some .applied, []⟩) v ∧
    v.Step (some ⟨s, .deliver (message b.evidence), some .applied, events⟩) w'

theorem conveys_put {w : World} {s : Side} {id : ClientId} (b : Block) (events : List Event)
    {message : Evidence → Datagram} {c : Chain} (newest : (w s.other).latestBlock? = some b)
    (done : ((w s).mapHost fun h => h.updateClient id b.header).perform
      (.deliver (message b.evidence)) = some (⟨some .applied, events⟩, c)) :
    w.Conveys s id message (w.put s c) := by
  let d := (w s).mapHost fun h => h.updateClient id b.header
  have told : (w s).perform (.updateClient id b.header) = some (⟨some .applied, []⟩, d) := rfl
  have after : (w.put s d s).perform (.deliver (message b.evidence)) =
      some (⟨some .applied, events⟩, c) := by
    rw [put_self]
    exact done
  have second := step_put after
  rw [put_put] at second
  exact ⟨b, w.put s d, events, newest, step_put told, second⟩

/-- The rest of an opening, once the chain of a side took its proposal: the other chain answers with
a proposal of its own, and its application chooses a version; the first chain is told the name and
the version of the answer; the other chain is told that the first end is open. -/
def OpensInTurn (w : World) (t : Terms) (owner : Side → EndId) (s : Side) (answer : ChannelEnd)
    (v : ChannelVersion) (w' : World) : Prop :=
  ∃ w₁ w₂ : World,
    w.Conveys s.other (t.conn s.other).client
      (fun e => .handshake (.openTry ⟨(owner s.other).port, answer, t.version, e⟩)) w₁ ∧
    (w₁ s.other).host.store.ends[owner s.other]? =
      some ((t.withVersion v).endAt owner .tryOpen 0 s.other) ∧
    w₁.Conveys s (t.conn s).client
      (fun e => .handshake (.openAck ⟨owner s, (owner s.other).channel, v, e⟩)) w₂ ∧
    w₂.Conveys s.other (t.conn s.other).client
      (fun e => .handshake (.openConfirm ⟨owner s.other, e⟩)) w'

namespace CanOpen

variable {w w₁ : World} {t : Terms} {port : Side → PortId} {s : Side}

theorem exists_seat {m : OpenInit} {events : List Event} (able : w.CanOpen t port)
    (named : m.port = port s) (asks : t.Proposed s ⟨port s.other, none⟩ m.proposal)
    (version : m.proposal.version = t.version)
    (init : w.Step (some ⟨s, .deliver (.handshake (.openInit m)), some .applied, events⟩) w₁) :
    w₁ s.other = w s.other ∧ ∃ cap,
      Seat t (w.freshEnds port) s (w₁ s) (t.initEnd (port s.other) s) cap ∧
      (∃ b, (w₁ s).Current b) ∧
      (w s).host.store.registry.Unused cap := by
  obtain ⟨c, done, rfl⟩ := init
  obtain ⟨ordering, peer, hops⟩ := asks
  obtain ⟨id, app, out, handle, store, -, step, stored, next⟩ := Chain.handshake_of_applied done
  have result := Handshake.openInit_eq step
  rw [named, ordering, peer, hops, version] at result
  have stored : (w s).host.store.applyEnd ⟨w.freshEnds port s, true,
      t.initEnd (port s.other) s⟩ = (.ok handle, store) := by
    rw [← stored]
    exact congrArg _ result.symm
  obtain ⟨cap, keeps, fresh⟩ := Chain.Keeps.of_new (by rfl) stored next (able.issued s)
  simp only [if_true, if_neg s.other_ne]
  exact ⟨trivial, cap, ⟨(able.rests s).congr next.connections, able.clean s,
    next.thawed (able.thawed s), next.willing _ (able.willing s), keeps⟩, next.current, fresh⟩

/-- The other chain answers a proposal that a block shows, with the version that its application
chooses. -/
theorem exists_answer {id : ModuleId} {app : Application} {answer : ChannelEnd} {b : Block}
    (able : w.CanOpen t port) (bound : (w s).appOf (port s) = .ok (id, app))
    (asks : t.Proposed s (.ofEnd (w.freshEnds port s.other)) answer)
    (spacious : (w s).host.store.Spacious) (room : (w s).host.height.Room 1)
    (shown : b.Holds (.channelEnd (w.freshEnds port s.other))
      (t.initEnd (port s) s.other).encode) :
    let v := (app.reply (.openTry (w.freshEnds port s) answer t.version)).version
    ∃ d events cap, ((w s).mapHost fun h => h.updateClient (t.conn s).client b.header).perform
        (.deliver (.handshake (.openTry ⟨port s, answer, t.version, b.evidence⟩))) =
          some (⟨some .applied, events⟩, d) ∧
      Seat t (w.freshEnds port) s d ((t.withVersion v).endAt (w.freshEnds port) .tryOpen 0 s) cap ∧
      d.host.height = (w s).host.height.later 1 ∧ (∃ b, d.Current b) ∧
      (w s).host.store.registry.Unused cap := by
  intro v
  let c := (w s).mapHost fun h => h.updateClient (t.conn s).client b.header
  let x := (t.withVersion v).endAt (w.freshEnds port) .tryOpen 0 s
  have knows : c.host.Knows (t.conn s) b.height b.header.consensus := (able.thawed s).knows
  obtain ⟨out, step, result⟩ := Handshake.exists_openTry (t := t) (h := c.host)
    ((able.rests s).congr rfl) (able.supported s) asks knows shown
  have fresh : out.result.owner = w.freshEnds port s := by
    rw [result]
    rfl
  obtain ⟨handle, store, stored⟩ : ∃ handle store,
      (w s).host.store.applyEnd ⟨w.freshEnds port s, true, x⟩ = (.ok handle, store) :=
    (able.registered s).exists_applyEnd spacious rfl
  have agrees (call : Call) : (app.reply call).refusal = none := by
    obtain ⟨id', app', bound', agrees⟩ := able.willing s
    rw [bound] at bound'
    cases bound'
    exact Application.refusal_reply agrees call
  let m : HandshakeMessage := .openTry ⟨port s, answer, t.version, b.evidence⟩
  have settled : c.host.store.applyEnd (Chain.settleVersion m out.result
      (app.reply (Chain.handshakeCall m out.result.owner)).version) = (.ok handle, store) := by
    rw [← stored, result]
    rfl
  obtain ⟨d, done, next⟩ :=
    Chain.exists_perform_handshake (c := c) (m := m) bound step (agrees _) settled room
  obtain ⟨cap, keeps, unused⟩ :=
    Chain.Keeps.of_new (c := c) (show x.hops = [t.hop s] from rfl) stored next (able.issued s)
  exact ⟨d, out.events, cap, done, ⟨(able.rests s).congr next.connections, able.clean s,
    next.thawed (able.thawed s).updateClient, next.willing _ (able.willing s), keeps⟩, next.height,
    next.current, unused⟩

/-- Once a proposal of a channel between two ports was applied, the handshake goes through. Both ends
are open then, name each other, and have the ordering that was proposed, the version that the
answering application chose, the two ends of the connection, no upgrade, counters at one, and each a
capability that was given out for it. -/
theorem opening_completes {m : OpenInit} {events : List Event} {id : ModuleId} {app : Application}
    {answer : ChannelEnd} (able : w.CanOpen t port) (named : m.port = port s)
    (asks : t.Proposed s ⟨port s.other, none⟩ m.proposal)
    (version : m.proposal.version = t.version)
    (init : w.Step (some ⟨s, .deliver (.handshake (.openInit m)), some .applied, events⟩) w₁)
    (bound : (w s.other).appOf (port s.other) = .ok (id, app))
    (asks' : t.Proposed s.other (.ofEnd (w.freshEnds port s)) answer)
    (spacious : (w s.other).host.store.Spacious) (room : (w₁ s).host.height.Room 1)
    (room' : (w s.other).host.height.Room 2) :
    let owner := w.freshEnds port
    let v := (app.reply (.openTry (owner s.other) answer t.version)).version
    ∃ w', w₁.OpensInTurn t owner s answer v w' ∧ ∀ r, ∃ cap,
      (w' r).Keeps (owner r) ((t.withVersion v).endAt owner .opened 0 r) cap ∧
      (w r).host.store.registry.Unused cap := by
  intro owner v
  obtain ⟨apart, cap, seat, ⟨b, current⟩, fresh⟩ := able.exists_seat named asks version init
  -- The other chain answers.
  have asked : t.Proposed s.other (.ofEnd (owner s.other.other)) answer := by
    rw [Side.other_other]
    exact asks'
  have shown : b.Holds (.channelEnd (owner s.other.other))
      (t.initEnd (port s.other) s.other.other).encode := by
    rw [Side.other_other]
    exact seat.holds_end current
  obtain ⟨d, events₁, cap', done, seat', height, ⟨b₁, current₁⟩, fresh'⟩ :=
    able.exists_answer bound asked spacious (room'.mono (by decide)) shown
  -- The first chain opens its end.
  obtain ⟨out, step, result⟩ := Handshake.exists_openAck (v := v)
    (h := (w₁ s).host.updateClient (t.conn s).client b₁.header) (seat.rests.congr rfl)
    seat.keeps.channel seat.thawed.knows (seat'.holds_end current₁)
  obtain ⟨c, events₂, done₂, seat₂, -, b₂, current₂⟩ :=
    seat.exists_perform rfl (fun _ _ => rfl) step result rfl room
  -- The other chain opens its own.
  have shown₂ : b₂.Holds (.channelEnd (owner s.other.other))
      ((t.withVersion v).endAt owner .opened 0 s.other.other).encode := by
    rw [Side.other_other]
    exact seat₂.holds_end current₂
  obtain ⟨out₃, step₃, result₃⟩ := Handshake.exists_openConfirm (t := t.withVersion v)
    (h := d.host.updateClient (t.conn s.other).client b₂.header)
    ((seat'.rests.withVersion v).congr rfl) seat'.keeps.channel seat'.thawed.knows shown₂
  have room₃ : d.host.height.Room 1 := by
    rw [height]
    exact Height.Room.later (j := 1) (k := 1) room'
  obtain ⟨d', events₃, done₃, seat₃, -, -⟩ :=
    seat'.exists_perform rfl (fun _ _ => rfl) step₃ result₃ rfl room₃
  let w₂ := w₁.put s.other d
  let w₃ := w₂.put s c
  refine ⟨w₃.put s.other d', ⟨w₂, w₃, conveys_put b events₁ ?_ ?_, ?_,
    conveys_put b₁ events₂ ?_ ?_,
    conveys_put b₂ events₃ ?_ ?_⟩, ?_⟩
  · rw [Side.other_other]
    exact current.newest
  · rw [apart]
    exact done
  · simpa [w₂] using seat'.keeps.channel
  · simpa [w₂] using current₁.newest
  · simpa [w₂] using done₂
  · simpa [w₃] using current₂.newest
  · simpa [w₃, w₂] using done₃
  · intro r
    obtain rfl | rfl := r.eq_or_eq_other s
    · exact ⟨cap, by simpa [w₃] using seat₂.keeps, fresh⟩
    · exact ⟨cap', by simpa using seat₃.keeps, fresh'⟩

end CanOpen

end World

/-! ### Two chains that were just started -/

namespace Passage

variable {o : Order} {v : ChannelVersion}

theorem canOpen_start (supported : connection.supports o) :
    (World.of Site.start.chain Site.start.chain).CanOpen (terms o v) fun _ => port := by
  refine ⟨Side.forall_iff.2 ⟨rests, rests⟩, fun _ => supported, fun _ => rfl,
    Side.forall_iff.2 ⟨Site.at_start.going.thawed, Site.at_start.going.thawed⟩, fun s => ?_,
    Side.forall_iff.2 ⟨ChannelStore.registered_empty, ChannelStore.registered_empty⟩, fun s => ?_⟩
  · cases s <;> exact ⟨app, _, Site.appOf_chain, fun _ _ => rfl⟩
  · have none : ChannelStore.empty.registry.Issued := by
      intro name i taken
      simp [ChannelStore.empty, Registry.empty] at taken
    cases s <;> exact none

end Passage

/-- Two chains that were just started open an ordered channel. -/
theorem World.CanOpen.opening_completes_ordered :
    letI : Digest := .plain
    ∃ w', (World.of (Passage.proposing .ordered "ics20-1").chain
        Passage.Site.start.chain).OpensInTurn (Passage.terms .ordered "ics20-1")
        (fun _ => Passage.owner) .left (Passage.answered .ordered "ics20-1") "ics20-1" w' ∧
      ∀ r, ∃ cap, (w' r).Keeps Passage.owner (Passage.opened .ordered "ics20-1") cap ∧
        Registry.empty.Unused cap := by
  let _ : Digest := .plain
  have start := Passage.Site.at_start
  have init := World.step_left (r := Passage.Site.start.chain) (Passage.Site.perform_openInit
    (t := Passage.Site.start) (o := .ordered) (v := "ics20-1") (by decide) rfl
    (start.room (by decide)))
  have asks : (Passage.terms .ordered "ics20-1").Proposed .right (.ofEnd Passage.owner)
      (Passage.answered .ordered "ics20-1") := ⟨rfl, rfl, rfl⟩
  obtain ⟨w', opens, both⟩ := World.CanOpen.opening_completes (s := .left)
    (Passage.canOpen_start (by decide)) rfl ⟨rfl, rfl, rfl⟩ rfl init Passage.Site.appOf_chain
    asks ⟨⟨1, rfl⟩, 1, rfl⟩
    (Passage.at_proposing.room_ahead (by decide) (by decide))
    (start.room_ahead (by decide) (by decide))
  refine ⟨w', opens, fun r => ?_⟩
  obtain ⟨cap, keeps, unused⟩ := both r
  cases r
  · exact ⟨cap, keeps, unused⟩
  · exact ⟨cap, keeps, unused⟩

end Crosschain
