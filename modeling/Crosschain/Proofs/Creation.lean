import Crosschain.Proofs.Ownership
import Crosschain.Proofs.Reachability

/-!
# The creation of channels

Channels are numbered on a chain, whatever their ports. Each number that was given out belongs to
one end, which has its three counters and the one capability under its name, and the next number is
free: no map of the store has an entry that a new end could overwrite.
-/

namespace Crosschain

/-! ### Counters -/

/-- An end that is there has its three counters. -/
structure Lane.Counted (l : Lane) : Prop where
  nextSend : l.channel ≠ none → ∃ n, l.nextSend = some n
  nextRecv : l.channel ≠ none → ∃ n, l.nextRecv = some n
  nextAck : l.channel ≠ none → ∃ n, l.nextAck = some n

theorem Lane.counted_empty : Lane.empty.Counted := by
  constructor
  all_goals exact fun there => absurd rfl there

theorem Lane.Resets.counted {l : Lane} {x : ChannelEnd} {fields : UpgradeFields}
    {nextRecv nextAck : Option Sequence} (resets : l.Resets x fields nextRecv nextAck)
    (counted : l.Counted) (there : l.channel ≠ none) :
    (∃ n, nextRecv = some n) ∧ ∃ n, nextAck = some n := by
  obtain ⟨-, rfl, rfl⟩ | ⟨-, -, peer, next, recv, -, -, -, rfl, rfl⟩ := resets
  · exact ⟨counted.nextRecv there, counted.nextAck there⟩
  · exact ⟨⟨recv, rfl⟩, ⟨next, rfl⟩⟩

theorem LaneStep.counted [Digest] {h : Host} {a : Action} {e : EndId} {l l' : Lane} {d : Deed}
    (step : LaneStep h a e l d l') (counted : l.Counted) : l'.Counted := by
  have kept {m : Lane} {x : ChannelEnd} (channel : l.channel = some x)
      (nextSend : m.nextSend = l.nextSend) (nextRecv : m.nextRecv = l.nextRecv)
      (nextAck : m.nextAck = l.nextAck) : m.Counted := by
    have there : l.channel ≠ none := by simp [channel]
    constructor
    · exact fun _ => nextSend ▸ counted.nextSend there
    · exact fun _ => nextRecv ▸ counted.nextRecv there
    · exact fun _ => nextAck ▸ counted.nextAck there
  cases step with
  | idle => exact counted
  | openInit => exact ⟨fun _ => ⟨1, rfl⟩, fun _ => ⟨1, rfl⟩, fun _ => ⟨1, rfl⟩⟩
  | openTry => exact ⟨fun _ => ⟨1, rfl⟩, fun _ => ⟨1, rfl⟩, fun _ => ⟨1, rfl⟩⟩
  | send _ cap m x peer n next c p action owner channel =>
    have there : l.channel ≠ none := by simp [channel]
    exact ⟨fun _ => ⟨next, rfl⟩, fun _ => counted.nextRecv there, fun _ => counted.nextAck there⟩
  | receiveOrdered _ m x next acks action owner guard =>
    have there : l.channel ≠ none := by simp [guard.channel]
    exact ⟨fun _ => counted.nextSend there, fun _ => ⟨next, rfl⟩, fun _ => counted.nextAck there⟩
  | receiveUnordered _ m x next acks action owner guard => exact kept guard.channel rfl rfl rfl
  | reply _ m x fields n action owner guard => exact kept guard.channel rfl rfl rfl
  | cross _ m x fields own action owner guard => exact kept guard.channel rfl rfl rfl
  | acknowledge _ m x c time nextAck action owner channel state named stored commitment shown
      counter =>
    have there : l.channel ≠ none := by simp [channel]
    obtain ⟨-, rfl⟩ | ⟨-, -, next, -, rfl⟩ := counter
    · exact kept channel rfl rfl rfl
    · exact ⟨fun _ => counted.nextSend there, fun _ => counted.nextRecv there, fun _ => ⟨next, rfl⟩⟩
  | confirm _ m x own nextRecv nextAck action owner channel state upgrade shown resets =>
    have there : l.channel ≠ none := by simp [channel]
    obtain ⟨recv, ack⟩ := resets.counted counted there
    exact ⟨fun _ => counted.nextSend there, fun _ => recv, fun _ => ack⟩
  | finish _ m x own nextRecv nextAck action owner channel state upgrade shown resets =>
    have there : l.channel ≠ none := by simp [channel]
    obtain ⟨recv, ack⟩ := resets.counted counted there
    exact ⟨fun _ => counted.nextSend there, fun _ => recv, fun _ => ack⟩
  | _ => exact kept ‹l.channel = some _› rfl rfl rfl

/-! ### The catalogue of ends -/

namespace ChannelStore

def Keeps (s : ChannelStore) (e : EndId) : Prop := ∃ x, s.ends[e]? = some x

/-- The ends of a store are numbered without gaps, each number has one end, and each end has its
counters and a capability that goes with no other name. -/
structure Catalogued (s : ChannelStore) : Prop where
  named : ∀ e, s.Keeps e → ∃ k, k < s.created ∧ e.channel = .channel k
  single : ∀ k, k < s.created → ∃! port : PortId, s.Keeps ⟨port, .channel k⟩
  nextSend : ∀ e, s.Keeps e → ∃ n, s.nextSend[e]? = some n
  nextRecv : ∀ e, s.Keeps e → ∃ n, s.nextRecv[e]? = some n
  nextAck : ∀ e, s.Keeps e → ∃ n, s.nextAck[e]? = some n
  owned : ∀ e, s.Keeps e → ∃ cap, s.registry.get (.ofEnd e) = .ok cap ∧
    (∀ other, s.registry.owns (.ofEnd e) other = true ↔ other = cap) ∧
    ∀ name, s.registry.owns name cap = true ↔ name = .ofEnd e

/-- Whatever is kept in a store is kept in another one, as it was. -/
structure Extends (t s : ChannelStore) : Prop where
  lane : ∀ e, s.lane e ≠ .empty → t.lane e = s.lane e
  owner : ∀ (name : CapabilityName) (i : UInt64), s.registry.owners[name]? = some i →
    t.registry.owners[name]? = some i
  listed : ∀ hop, s.endsOver hop <+: t.endsOver hop

variable {s t : ChannelStore} {e f : EndId} {x : ChannelEnd} {hop : ConnectionId} {cap : Capability}

theorem Creates.keeps (creates : s.Creates e x hop cap t) : t.Keeps e :=
  ⟨x, congrArg Lane.channel creates.lane⟩

theorem Creates.ends_of_ne (creates : s.Creates e x hop cap t) (other : f ≠ e) :
    t.ends[f]? = s.ends[f]? := congrArg Lane.channel (creates.others f other)

theorem Creates.keeps_iff (creates : s.Creates e x hop cap t) :
    t.Keeps f ↔ s.Keeps f ∨ f = e := by
  by_cases own : f = e
  · subst own
    exact ⟨fun _ => .inr rfl, fun _ => creates.keeps⟩
  · rw [Keeps, Keeps, creates.ends_of_ne own]
    simp [own]

theorem Creates.endsOver (creates : s.Creates e x hop cap t) (k : ConnectionId) :
    t.endsOver k = if k = hop then s.endsOver hop ++ [e] else s.endsOver k := by
  rw [ChannelStore.endsOver, creates.listed, Std.ExtTreeMap.getD_insert]
  by_cases same : k = hop
  · subst same
    simp
  · have other : compare hop k ≠ .eq := by simpa using Ne.symm same
    rw [if_neg other, if_neg same]
    rfl

theorem Creates.extends (creates : s.Creates e x hop cap t) (free : s.lane e = .empty) :
    t.Extends s := by
  refine ⟨?_, fun name i => Registry.getElem?_of_create creates.enlisted, ?_⟩
  · intro f there
    apply creates.others
    rintro rfl
    exact there free
  · intro k
    rw [creates.endsOver]
    split
    next same =>
      rw [same]
      exact List.prefix_append _ _
    · exact List.prefix_rfl

theorem Creates.lt_iff (creates : s.Creates e x hop cap t) (k : UInt64) :
    k < t.created ↔ k < s.created ∨ k = s.created := by
  have counted := Word.add?_eq_some_iff.1 creates.counted
  rw [UInt64.lt_iff_toNat_lt, UInt64.lt_iff_toNat_lt, ← UInt64.toNat_inj]
  have one : (1 : UInt64).toNat = 1 := rfl
  omega

end ChannelStore

/-! ### One name, one index -/

namespace Registry

variable {r r' : Registry} {name : CapabilityName} {cap : Capability}

/-- No index goes with two names. -/
def Apart (r : Registry) : Prop :=
  ∀ (name other : CapabilityName) (i : UInt64), r.owners[name]? = some i →
    r.owners[other]? = some i → name = other

theorem Apart.create (apart : r.Apart) (issued : r.Issued) (new : r.create name = .ok (cap, r')) :
    r'.Apart := by
  obtain ⟨-, -, -, owners⟩ := create_eq_ok.1 new
  have old (other : CapabilityName) (i : UInt64) (taken : r'.owners[other]? = some i) :
      other = name ∧ i = r.nextIndex ∨ r.owners[other]? = some i := by
    rw [owners, Std.ExtTreeMap.getElem?_insert] at taken
    split at taken
    next same => exact .inl ⟨(Std.compare_eq_iff_eq.1 same).symm, (Option.some.inj taken).symm⟩
    · exact .inr taken
  -- The new index is above all that were given out before.
  have above (other : CapabilityName) (taken : r.owners[other]? = some r.nextIndex) : False :=
    UInt64.lt_irrefl _ (issued other _ taken)
  intro first second i taken taken'
  obtain ⟨rfl, rfl⟩ | before := old first i taken
  · obtain ⟨rfl, -⟩ | before' := old second _ taken'
    · rfl
    · exact (above second before').elim
  · obtain ⟨rfl, rfl⟩ | before' := old second i taken'
    · exact (above first before).elim
    · exact apart first second i before before'

theorem owns_iff {i : UInt64} : r.owns name ⟨i⟩ = true ↔ r.owners[name]? = some i := by
  rw [owns, beq_iff_eq]

/-- Where indices are apart, a name that is taken has one capability, and it has one name. -/
theorem Apart.exists_capability {i : UInt64} (apart : r.Apart) (taken : r.owners[name]? = some i) :
    ∃ cap, r.get name = .ok cap ∧ (∀ other, r.owns name other = true ↔ other = cap) ∧
      ∀ other, r.owns other cap = true ↔ other = name := by
  refine ⟨⟨i⟩, by rw [get, taken], ?_, ?_⟩
  · rintro ⟨j⟩
    rw [owns_iff, taken, Option.some.injEq, Capability.mk.injEq]
    exact eq_comm
  · intro other
    rw [owns_iff]
    constructor
    · exact fun taken' => apart other name i taken' taken
    · rintro rfl
      exact taken

end Registry

/-! ### The catalogue along a history -/

/-- What every action keeps of the catalogue: the names and numbers of ends, and their entries in the
registry. -/
structure ChannelStore.Enrolled (s : ChannelStore) : Prop where
  named : ∀ e, s.Keeps e → ∃ k, k < s.created ∧ e.channel = .channel k
  single : ∀ k, k < s.created → ∃! port : PortId, s.Keeps ⟨port, .channel k⟩
  taken : ∀ e, s.Keeps e → ∃ i, s.registry.owners[CapabilityName.ofEnd e]? = some i
  issued : s.registry.Issued
  apart : s.registry.Apart

namespace ChannelStore.Enrolled

variable {s t : ChannelStore}

theorem empty : ChannelStore.empty.Enrolled := by
  have none (e : EndId) : ¬ ChannelStore.empty.Keeps e := by
    rintro ⟨x, there⟩
    simp [ChannelStore.empty] at there
  refine ⟨fun e there => (none e there).elim, ?_, fun e there => (none e there).elim, ?_, ?_⟩
  · intro k below
    exact absurd below UInt64.not_lt_zero
  · intro name i taken
    simp [ChannelStore.empty, Registry.empty] at taken
  · intro name other i taken
    simp [ChannelStore.empty, Registry.empty] at taken

theorem of_kept (enrolled : s.Enrolled) (created : t.created = s.created)
    (registry : t.registry = s.registry) (keeps : ∀ e, t.Keeps e ↔ s.Keeps e) : t.Enrolled := by
  obtain ⟨named, single, taken, issued, apart⟩ := enrolled
  constructor
  · intro e there
    rw [created]
    exact named e ((keeps e).1 there)
  · intro k below
    rw [created] at below
    simp only [keeps]
    exact single k below
  · intro e there
    rw [registry]
    exact taken e ((keeps e).1 there)
  · rwa [registry]
  · rwa [registry]

theorem of_creates {port : PortId} {x : ChannelEnd} {hop : ConnectionId} {cap : Capability}
    (enrolled : s.Enrolled) (creates : s.Creates ⟨port, .channel s.created⟩ x hop cap t) :
    t.Enrolled := by
  obtain ⟨named, single, taken, issued, apart⟩ := enrolled
  have numbered {q : PortId} {k : UInt64} (there : s.Keeps ⟨q, .channel k⟩) : k < s.created := by
    obtain ⟨n, below, name⟩ := named _ there
    rwa [Identifier.channel_injective name]
  have other {e : EndId} (apart : e ≠ ⟨port, .channel s.created⟩) : t.Keeps e ↔ s.Keeps e := by
    rw [creates.keeps_iff, or_iff_left apart]
  constructor
  · intro e there
    by_cases new : e = ⟨port, .channel s.created⟩
    · exact ⟨s.created, (creates.lt_iff _).2 (.inr rfl), by rw [new]⟩
    · obtain ⟨k, below, name⟩ := named e ((other new).1 there)
      exact ⟨k, (creates.lt_iff k).2 (.inl below), name⟩
  · intro k below
    obtain old | rfl := (creates.lt_iff k).1 below
    · have same (q : PortId) : t.Keeps ⟨q, .channel k⟩ ↔ s.Keeps ⟨q, .channel k⟩ := by
        apply other
        intro new
        rw [Identifier.channel_injective (congrArg EndId.channel new)] at old
        exact UInt64.lt_irrefl _ old
      simp only [same]
      exact single k old
    · refine ⟨port, creates.keeps, ?_⟩
      intro q there
      by_contra differs
      have before := (other fun new => differs (congrArg EndId.port new)).1 there
      exact UInt64.lt_irrefl _ (numbered before)
  · intro e there
    by_cases new : e = ⟨port, .channel s.created⟩
    · obtain ⟨-, -, -, owners⟩ := Registry.create_eq_ok.1 creates.enlisted
      rw [new, owners]
      exact ⟨_, Std.ExtTreeMap.getElem?_insert_self⟩
    · obtain ⟨i, owner⟩ := taken e ((other new).1 there)
      exact ⟨i, Registry.getElem?_of_create creates.enlisted owner⟩
  · exact issued.create creates.enlisted
  · exact apart.create issued creates.enlisted

end ChannelStore.Enrolled

namespace Chain

variable [Digest] {c c' d : Chain} {a : Action} {rep : Report} {l : History}

theorem Takes.enlists (registered : c.host.store.Registered) (taken : c.Takes a rep c') :
    c.host.store.Enlists c'.host.store := by
  obtain ⟨d, performs, store⟩ := taken.exists_performs
  rw [store]
  exact performs.enlists registered

theorem Stepped.keeps_iff (step : Stepped c a rep c')
    (created : c'.host.store.created = c.host.store.created) (e : EndId) :
    c'.host.store.Keeps e ↔ c.host.store.Keeps e := by
  obtain ⟨deed, lane, -⟩ := step.lane e
  constructor
  · rintro ⟨y, after⟩
    cases before : c.host.store.ends[e]? with
    | some x => exact ⟨x, before⟩
    | none =>
      have free := lane.empty_of_created before after
      have grown := (step.fresh e free (ChannelStore.lane_ne_empty after)).1
      rw [created] at grown
      exact absurd grown (UInt64.lt_irrefl _)
  · rintro ⟨x, before⟩
    obtain ⟨y, after, -⟩ := lane.endStep before
    exact ⟨y, after⟩

namespace Reaches

theorem enrolled (start : c.host.store = .empty) (reaches : c.Reaches l d) :
    d.host.store.Enrolled := by
  induction reaches with
  | rest =>
    rw [start]
    exact .empty
  | act before taken ih =>
    cases taken.enlists (before.registered start) with
    | kept created registry =>
      exact ih.of_kept created registry ((taken.stepped (before.orderly start)).keeps_iff created)
    | new port x hop cap creates => exact ih.of_creates creates
  | arrange before store ports ih =>
    rw [store]
    exact ih

theorem counted (start : c.host.store = .empty) (reaches : c.Reaches l d) (e : EndId) :
    (d.host.store.lane e).Counted :=
  reaches.lane_induction start Lane.counted_empty LaneStep.counted

end Reaches

end Chain

/-! ### Creation -/

def HandshakeMessage.Creates : HandshakeMessage → Prop
  | .openInit _ | .openTry _ => True
  | .openAck _ | .openConfirm _ => False

namespace Handshake

variable [Digest] {h : Host} {m : HandshakeMessage} {out : Output EndChange}

theorem isNew_of_creates (creates : m.Creates) (ok : step h m = .ok out) :
    out.result.isNew = true ∧ out.result.owner = freshEnd h m.port := by
  cases step_eq_ok.1 ok with
  | openInit | openTry => exact ⟨rfl, rfl⟩
  | openAck | openConfirm => exact creates.elim

end Handshake

namespace Chain

variable [Digest] {c d : Chain} {l : History}

/-- A message that asks for a new channel and is taken creates the next one, whose capability it
returns. -/
theorem exists_creates_of_deliver {m : HandshakeMessage} {r : DeliveryReceipt} {c' : Chain}
    (asks : m.Creates) (done : c.deliver (.handshake m) = (.ok r, c')) :
    ∃ x hop cap, r.capability = some cap ∧
      c.host.store.Creates (Handshake.freshEnd c.host m.port) x hop cap c'.host.store := by
  have course := c.delivers (.handshake m)
  rw [done] at course
  cases course with
  | @stored _ id app out cap t bound ok agrees stored =>
    obtain ⟨new, owner⟩ := Handshake.isNew_of_creates asks ok
    obtain ⟨hop, hops, -⟩ :=
      Handshake.exists_hop ok (app.reply (handshakeCall m out.result.owner)).version
    have kept (version : ChannelVersion) : (settleVersion m out.result version).isNew = true ∧
        (settleVersion m out.result version).owner = Handshake.freshEnd c.host m.port := by
      cases m <;> exact ⟨new, owner⟩
    obtain ⟨new', owner'⟩ := kept (app.reply (handshakeCall m out.result.owner)).version
    obtain ⟨handle, rfl, creates⟩ := ChannelStore.creates_of_applyEnd new' hops stored
    rw [owner'] at creates
    exact ⟨_, hop, handle, rfl, creates⟩

/-- On a chain that started without channels, whatever the other chains do, the ends are at each
moment those of the numbers that were given out, one each, and each has its three counters and one
capability, registered under its own name and no other. A proposal or an answer that is taken, with
a block after it or without, creates the end of the next number, returns its capability and
overwrites nothing that is kept. -/
theorem Reaches.catalogued (start : c.host.store = .empty) (reaches : c.Reaches l d) :
    d.host.store.Catalogued ∧
    ∀ (m : HandshakeMessage) (r : DeliveryReceipt) (d' : Chain), m.Creates →
      (d.deliver (.handshake m) = (.ok r, d') ∨
        sealed (d.deliver (.handshake m)) = (.ok r, d')) →
      d.host.store.lane (Handshake.freshEnd d.host m.port) = .empty ∧
      d'.host.store.Keeps (Handshake.freshEnd d.host m.port) ∧
      (∃ cap, r.capability = some cap ∧
        d'.capabilityOf (Handshake.freshEnd d.host m.port) = .ok cap) ∧
      d'.host.store.created.toNat = d.host.store.created.toNat + 1 ∧
      d'.host.store.Extends d.host.store := by
  have enrolled := reaches.enrolled start
  have free := (reaches.orderly start).free
  constructor
  · refine ⟨enrolled.named, enrolled.single, ?_, ?_, ?_, ?_⟩
    · rintro e ⟨x, there⟩
      exact (reaches.counted start e).nextSend (by simp [ChannelStore.lane, there])
    · rintro e ⟨x, there⟩
      exact (reaches.counted start e).nextRecv (by simp [ChannelStore.lane, there])
    · rintro e ⟨x, there⟩
      exact (reaches.counted start e).nextAck (by simp [ChannelStore.lane, there])
    · intro e there
      obtain ⟨i, taken⟩ := enrolled.taken e there
      exact enrolled.apart.exists_capability taken
  · intro m r d' asks done
    -- A block after the message leaves the store as the message left it.
    obtain ⟨d₁, delivered, store⟩ :
        ∃ d₁, d.deliver (.handshake m) = (.ok r, d₁) ∧ d'.host.store = d₁.host.store := by
      obtain done | done := done
      · exact ⟨d', done, rfl⟩
      · exact exists_of_sealed done
    obtain ⟨x, hop, cap, returned, creates⟩ := exists_creates_of_deliver asks delivered
    rw [← store] at creates
    refine ⟨free m.port, creates.keeps, ⟨cap, returned, ?_⟩, ?_, creates.extends (free m.port)⟩
    · exact Registry.get_of_create creates.enlisted
    · exact Word.add?_eq_some_iff.1 creates.counted

end Chain

/-- A chain with one channel takes a proposal of another one. -/
theorem Chain.Reaches.catalogued_direct :
    letI : Digest := .plain
    let r := Passage.direct "ics20-1" [1] (by decide)
    let c := r.world 11 .left
    let fresh : EndId := ⟨Passage.port, .channel 1⟩
    c.host.store.Keeps Passage.owner ∧ c.host.store.Catalogued ∧ ∃ receipt c',
      c.deliver (.handshake (.openInit (Passage.openInit .ordered "ics20-1"))) =
        (.ok receipt, c') ∧ receipt.capability = some ⟨1⟩ ∧ c.host.store.lane fresh = .empty ∧
      c'.host.store.Keeps fresh ∧ c'.capabilityOf fresh = .ok ⟨1⟩ ∧
      c'.host.store.Extends c.host.store := by
  -- Evaluated before the run gets a name, so that the term is closed.
  have taken : letI : Digest := .plain
      (((Passage.direct "ics20-1" [1] (by decide)).world 11 .left).deliver (.handshake
        (.openInit (Passage.openInit .ordered "ics20-1")))).1.map DeliveryReceipt.capability =
      .ok (some ⟨1⟩) := rfl
  let _ : Digest := .plain
  let r := Passage.direct "ics20-1" [1] (by decide)
  let asks : HandshakeMessage := .openInit (Passage.openInit .ordered "ics20-1")
  obtain ⟨catalogued, creates⟩ :=
    Reaches.catalogued (r.started.chain .left).store (r.leads .left 11).reaches
  rcases done : (r.world 11 .left).deliver (.handshake asks) with ⟨f | receipt, c'⟩
  · rw [done] at taken
    cases taken
  · rw [done] at taken
    have returned : receipt.capability = some ⟨1⟩ := Except.ok.inj taken
    obtain ⟨free, keeps, ⟨cap, returned', owned⟩, -, kept⟩ :=
      creates asks receipt c' trivial (.inl done)
    obtain rfl := Option.some.inj (returned'.symm.trans returned)
    exact ⟨⟨_, rfl⟩, catalogued, receipt, c', done, returned, free, keeps, owned, kept⟩

end Crosschain
