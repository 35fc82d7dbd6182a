import Crosschain.Proofs.Courses
import Crosschain.Proofs.UpgradeAcceptance

/-!
# Upgrades that go through

An upgrade that one end proposes passes through its four further steps and leaves both ends open
with the new terms, if the chains can carry the old and the new terms, the applications agree and no
deadline passes. What a chain has come to is a stage: its end, the two upgrades kept with it, and
how many blocks it added on the way. Each step takes the chain it happens on from one stage to the
next.
-/

namespace Crosschain

/-! ### What a step leaves behind -/

namespace UpgradeStep

def ownAfter (step : UpgradeStep) (own : Option Upgrade) : Option Upgrade :=
  match step with
  | .proposed u | .answered u _ => some u
  | .acknowledged _ => own
  | .completed _ | .cancelled | .aborted _ | .timedOut _ => none

def peerAfter (step : UpgradeStep) (peer : Option Upgrade) : Option Upgrade :=
  match step with
  | .proposed _ => peer
  | .answered _ u | .acknowledged u => some u
  | .completed _ | .cancelled | .aborted _ | .timedOut _ => none

end UpgradeStep

theorem ChannelStore.exists_lane_applyUpgrade (s : ChannelStore) (c : UpgradeChange) :
    ∃ nextRecv nextAck errorReceipt, (s.applyUpgrade c).lane c.owner = { s.lane c.owner with
      channel := some c.value
      upgrade := c.step.ownAfter (s.lane c.owner).upgrade
      peerUpgrade := c.step.peerAfter (s.lane c.owner).peerUpgrade
      nextRecv, nextAck, errorReceipt } := by
  let l := (s.applyUpgrade c).lane c.owner
  refine ⟨l.nextRecv, l.nextAck, l.errorReceipt, ?_⟩
  obtain ⟨owner, value, step⟩ := c
  cases step with
  | completed reset =>
    simp only [l, Upgrading.lane_completed]
    rfl
  | _ =>
    simp only [l, applyUpgrade, lane_setErrorReceipt, lane_eraseUpgrades, lane_setPeerUpgrade,
      lane_setUpgrade, lane_setEnd]
    rfl

/-! ### Stages -/

/-- How far a chain is in an upgrade of the end of a side, `k` blocks after a height: the end, and
the upgrades kept with it. The chain can carry the old terms and the new ones, no client is frozen
and the application agrees. -/
structure Stage (old new : Terms) (owner : Side → EndId) (s : Side) (h : Height) (k : Nat)
    (c : Chain) (x : ChannelEnd) (own peer : Option Upgrade) : Prop where
  change : old.Change new owner s c.host
  clean : (owner s).Clean
  thawed : c.host.Thawed
  willing : c.Willing (owner s).port
  height : c.host.height = h.later k
  channel : c.host.store.ends[owner s]? = some x
  upgrade : c.host.store.upgrades[owner s]? = own
  peerUpgrade : c.host.store.peerUpgrades[owner s]? = peer

namespace Stage

variable {old new : Terms} {owner : Side → EndId} {s : Side} {h : Height} {k : Nat} {c c' : Chain}
  {x x' : ChannelEnd} {own peer : Option Upgrade} {b : Block}

theorem next {step : UpgradeStep} (stage : Stage old new owner s h k c x own peer)
    (next : c.Next c' (c.host.store.applyUpgrade ⟨owner s, x', step⟩)) :
    Stage old new owner s h (k + 1) c' x' (step.ownAfter own) (step.peerAfter peer) := by
  obtain ⟨recv, ack, receipt, lane⟩ :=
    c.host.store.exists_lane_applyUpgrade ⟨owner s, x', step⟩
  rw [← next.store] at lane
  have upgrade := congrArg Lane.upgrade lane
  have peerUpgrade := congrArg Lane.peerUpgrade lane
  refine ⟨stage.change.congr next.connections (congrArg Lane.nextSend lane)
      (congrFun (congrArg Lane.commitments lane)), stage.clean, next.thawed stage.thawed,
    next.willing _ stage.willing, ?_, congrArg Lane.channel lane, ?_, ?_⟩
  · rw [next.height, stage.height, Height.later_later]
  · rw [← stage.upgrade]
    exact upgrade
  · rw [← stage.peerUpgrade]
    exact peerUpgrade

/-! ### Blocks of a stage -/

theorem holds_end (stage : Stage old new owner s h k c x own peer) (current : c.Current b) :
    b.Holds (.channelEnd (owner s)) x.encode :=
  current.shows.holds_end stage.clean stage.channel

theorem holds_upgrade {u : Upgrade} (stage : Stage old new owner s h k c x (some u) peer)
    (current : c.Current b) : b.Holds (.upgrade (owner s)) u.encode :=
  current.shows.holds_upgrade stage.clean stage.upgrade

theorem in_time {t : UpgradeTimeout} {n : Nat} (stage : Stage old new owner s h k c x own peer)
    (current : c.Current b) (ahead : t.Ahead h n) (le : k ≤ n) :
    t.elapsedAt b.height b.timestamp = false := by
  have time := current.shows.time
  rw [current.shows.height, stage.height] at *
  exact ahead.at_later le time

variable [Digest]

/-! ### Proposing -/

theorem exists_proposes {cap : Capability} {named : Option UpgradeTimeout} {t : UpgradeTimeout}
    {n m : Sequence} (stage : Stage old new owner s h k c (old.endAt owner .opened n s) own peer)
    (changed : new.fields s ≠ old.fields s)
    (owns : c.host.store.authenticate (owner s) cap = .ok ())
    (until_then : Upgrading.deadline c.host named = .ok t) (set : t.isSet)
    (counted : Word.add? n 1 = some m) (room : h.Room (k + 1)) :
    ∃ c' u, c.Proposes cap ⟨owner s, new.fields s, named⟩ c' ∧
      Stage old new owner s h (k + 1) c' (old.endAt owner .initUpgrade m s) (some u) peer ∧
      u.Asks (new.fields s) t ∧ ∃ b, c'.Current b := by
  obtain ⟨out, u, done, result, asks⟩ :=
    Upgrading.exists_propose stage.change changed stage.channel owns until_then set counted
  obtain ⟨c', proposes, next⟩ := Chain.exists_proposes done (stage.height ▸ room.later)
  rw [result] at next
  exact ⟨c', u, proposes, stage.next next, asks, next.current⟩

/-! ### Relayed steps -/

theorem exists_relays {client : ClientId} {out : Output UpgradeChange} {step : UpgradeStep}
    (stage : Stage old new owner s h k c x own peer) (m : UpgradeMessage)
    (named : m.owner = owner s)
    (done : Upgrading.step (c.host.updateClient client b.header) m = .ok out)
    (result : out.result = ⟨owner s, x', step⟩) (room : h.Room (k + 1)) :
    ∃ c', c.Relays client b m (Chain.upgradeOutcome step) c' ∧
      Stage old new owner s h (k + 1) c' x' (step.ownAfter own) (step.peerAfter peer) ∧
      ∃ b', c'.Current b' := by
  obtain ⟨id, app, bound, agrees⟩ := stage.willing
  obtain ⟨c', relays, next⟩ := Chain.exists_relays (named ▸ bound) done
    (fun call _ => Application.refusal_reply agrees call) (stage.height ▸ room.later)
  rw [result] at relays next
  exact ⟨c', relays, stage.next next, next.current⟩

omit [Digest] in
theorem heard {id : ClientId} {header : Header} (stage : Stage old new owner s h k c x own peer) :
    old.Change new owner s (c.host.updateClient id header) :=
  stage.change.congr rfl rfl fun _ => rfl

omit [Digest] in
theorem exists_now {id : ClientId} {header : Header} {t : UpgradeTimeout}
    (stage : Stage old new owner s h k c x own peer) (ahead : t.Ahead h k) (room : h.Room k) :
    ∃ now, (c.host.updateClient id header).now? = some now ∧
      t.elapsedAt (c.host.updateClient id header).height now = false := by
  obtain ⟨now, time⟩ := room.time
  rw [Host.now?, Host.height_updateClient, stage.height]
  exact ⟨now, time, ahead.at_later (Nat.le_refl k) time⟩

section Messages

variable {n m : Sequence} {t t' : UpgradeTimeout} {u v : Upgrade}

theorem exists_answers (stage : Stage old new owner s h k c (old.endAt owner .opened n s) own peer)
    (changed : new.fields s ≠ old.fields s) (asks : u.Asks (new.fields s.other) t)
    (ahead : t.Ahead h k) (newer : ¬ m ≤ n)
    (shown : b.Holds (.channelEnd (owner s.other)) (old.endAt owner .initUpgrade m s.other).encode)
    (shown' : b.Holds (.upgrade (owner s.other)) u.encode) (room : h.Room (k + 1))
    (d : UpgradeTimeout) :
    ∃ c' v, c.Relays (old.conn s).client b
        (.answer (Upgrading.answerTo owner new s d u m b.evidence)) .applied c' ∧
      Stage old new owner s h (k + 1) c' (old.endAt owner .tryUpgrade m s) (some v) (some u) ∧
      v.Asks (new.fields s) d ∧ ∃ b', c'.Current b' := by
  obtain ⟨now, time, before⟩ := stage.exists_now ahead (room.mono (Nat.le_succ k))
  obtain ⟨out, v, done, result, asked⟩ := Upgrading.exists_answer (t := d) stage.heard changed
    stage.channel stage.thawed.knows time asks before shown shown' newer
  obtain ⟨c', relays, next, current⟩ := stage.exists_relays (.answer _) rfl done result room
  exact ⟨c', v, relays, next, asked, current⟩

/-- An end that proposed the same terms takes a proposal for an answer, and keeps its own. -/
theorem exists_crosses
    (stage : Stage old new owner s h k c (old.endAt owner .initUpgrade n s) (some v) peer)
    (changed : new.fields s ≠ old.fields s) (asked : v.Asks (new.fields s) t')
    (asks : u.Asks (new.fields s.other) t) (ahead : t.Ahead h k)
    (shown : b.Holds (.channelEnd (owner s.other)) (old.endAt owner .initUpgrade m s.other).encode)
    (shown' : b.Holds (.upgrade (owner s.other)) u.encode) (room : h.Room (k + 1))
    (d : UpgradeTimeout) :
    ∃ c', c.Relays (old.conn s).client b
        (.answer (Upgrading.answerTo owner new s d u m b.evidence)) .applied c' ∧
      Stage old new owner s h (k + 1) c' (old.endAt owner .tryUpgrade (max n m) s) (some v)
        (some u) ∧ ∃ b', c'.Current b' := by
  obtain ⟨now, time, before⟩ := stage.exists_now ahead (room.mono (Nat.le_succ k))
  obtain ⟨out, done, result⟩ := Upgrading.exists_cross (t := d) stage.heard changed stage.channel
    stage.upgrade asked stage.thawed.knows time asks before shown shown'
  exact stage.exists_relays (.answer _) rfl done result room

theorem exists_acknowledges {st : ChannelState}
    (stage : Stage old new owner s h k c (old.endAt owner st n s) (some v) peer)
    (state : st = .initUpgrade ∨ st = .tryUpgrade) (asked : v.Asks (new.fields s) t')
    (asks : u.Asks (new.fields s.other) t) (before : t'.elapsedAt b.height b.timestamp = false)
    (shown : b.Holds (.channelEnd (owner s.other)) (old.endAt owner .tryUpgrade n s.other).encode)
    (shown' : b.Holds (.upgrade (owner s.other)) u.encode) (room : h.Room (k + 1)) :
    ∃ c', c.Relays (old.conn s).client b (.ack ⟨owner s, u, b.evidence⟩) .applied c' ∧
      Stage old new owner s h (k + 1) c' (old.endAt owner .ackUpgrade n s) (some v) (some u) ∧
      ∃ b', c'.Current b' := by
  obtain ⟨out, done, result⟩ := Upgrading.exists_acknowledge stage.heard stage.channel state
    stage.upgrade asked stage.thawed.knows before asks shown shown'
  exact stage.exists_relays (.ack _) rfl done result room

theorem exists_confirms
    (stage : Stage old new owner s h k c (old.endAt owner .tryUpgrade n s) (some v) (some u))
    (asked : v.Asks (new.fields s) t') (asks : u.Asks (new.fields s.other) t)
    (before : t'.elapsedAt b.height b.timestamp = false)
    (shown : b.Holds (.channelEnd (owner s.other)) (old.endAt owner .ackUpgrade n s.other).encode)
    (room : h.Room (k + 1)) :
    ∃ c', c.Relays (old.conn s).client b (.confirm ⟨owner s, b.evidence⟩) .applied c' ∧
      Stage old new owner s h (k + 1) c' (new.endAt owner .opened n s) none none ∧
      ∃ b', c'.Current b' := by
  obtain ⟨out, reset, done, result⟩ := Upgrading.exists_confirm stage.heard stage.channel
    stage.upgrade asked stage.peerUpgrade asks stage.thawed.knows before shown
  exact stage.exists_relays (.confirm _) rfl done result room

theorem exists_finishes {st : ChannelState} {y : ChannelEnd}
    (stage : Stage old new owner s h k c (old.endAt owner .ackUpgrade n s) (some v) (some u))
    (asked : v.Asks (new.fields s) t') (asks : u.Asks (new.fields s.other) t)
    (finished : Upgrading.Finished old new owner n s.other st y)
    (shown : b.Holds (.channelEnd (owner s.other)) y.encode) (room : h.Room (k + 1)) :
    ∃ c', c.Relays (old.conn s).client b (.finish ⟨owner s, st, b.evidence⟩) .applied c' ∧
      Stage old new owner s h (k + 1) c' (new.endAt owner .opened n s) none none ∧
      ∃ b', c'.Current b' := by
  obtain ⟨out, reset, done, result⟩ := Upgrading.exists_finish stage.heard stage.channel
    stage.upgrade asked stage.peerUpgrade asks stage.thawed.knows finished shown
  exact stage.exists_relays (.finish _) rfl done result room

end Messages

end Stage

/-! ### Both ends -/

/-- Two chains with paired ends that are open with the old terms, each at an upgrade sequence of its
own, where nothing stands in the way of new terms. -/
structure World.Poised (w : World) (old new : Terms) (owner : Side → EndId)
    (sequence : Side → Sequence) : Prop where
  change : ∀ s, old.Change new owner s (w s).host
  clean : ∀ s, (owner s).Clean
  thawed : ∀ s, (w s).host.Thawed
  willing : ∀ s, (w s).Willing (owner s).port
  channel : ∀ s, (w s).host.store.ends[owner s]? = some (old.endAt owner .opened (sequence s) s)
  room : ∀ s, (w s).host.height.Room 4

/-- The end of a side is open with these terms, at an upgrade sequence, and no upgrade is kept. -/
structure Chain.OpenWith (c : Chain) (t : Terms) (owner : Side → EndId) (n : Sequence) (s : Side) :
    Prop where
  channel : c.host.store.ends[owner s]? = some (t.endAt owner .opened n s)
  upgrade : c.host.store.upgrades[owner s]? = none
  peerUpgrade : c.host.store.peerUpgrades[owner s]? = none

theorem Stage.openWith {old new : Terms} {owner : Side → EndId} {s : Side} {h : Height} {k : Nat}
    {c : Chain} {n : Sequence}
    (stage : Stage old new owner s h k c (new.endAt owner .opened n s) none none) :
    c.OpenWith new owner n s := ⟨stage.channel, stage.upgrade, stage.peerUpgrade⟩

namespace World

variable {w : World} {old new : Terms} {owner : Side → EndId} {sequence : Side → Sequence}
  {s : Side}

theorem Poised.stage (poised : w.Poised old new owner sequence) (s : Side) :
    Stage old new owner s (w s).host.height 0 (w s) (old.endAt owner .opened (sequence s) s)
      (w s).host.store.upgrades[owner s]? (w s).host.store.peerUpgrades[owner s]? :=
  ⟨poised.change s, poised.clean s, poised.thawed s, poised.willing s, Height.later_zero.symm,
    poised.channel s, rfl, rfl⟩

theorem Poised.fields_ne (poised : w.Poised old new owner sequence)
    (changed : new.fields s ≠ old.fields s) (r : Side) : new.fields r ≠ old.fields r := by
  obtain rfl | rfl := r.eq_or_eq_other s
  · exact changed
  · exact (poised.change _).rests.fields_ne (poised.change _).rests' (by rwa [Side.other_other])

variable [Digest]

/-- An upgrade in turn: an end proposes new terms, the other answers, the first acknowledges, the
other confirms, and the first finishes. Each relayed message holds what the other chain keeps by
then, with the proofs of its newest block. -/
def UpgradesInTurn (w : World) (old new : Terms) (owner : Side → EndId) (s : Side)
    (cap : Capability) (named : Option UpgradeTimeout) (t : UpgradeTimeout) (w' : World) : Prop :=
  ∃ (w₁ w₂ w₃ w₄ : World) (n : Sequence) (u v : Upgrade),
    w.Proposes s cap ⟨owner s, new.fields s, named⟩ w₁ ∧
    (w₁ s).host.store.ends[owner s]? = some (old.endAt owner .initUpgrade n s) ∧
    (w₁ s).host.store.upgrades[owner s]? = some u ∧
    w₁.Takes s.other (old.conn s.other).client
      (fun e => .answer (Upgrading.answerTo owner new s.other t u n e)) w₂ ∧
    (w₂ s.other).host.store.upgrades[owner s.other]? = some v ∧
    w₂.Takes s (old.conn s).client (fun e => .ack ⟨owner s, v, e⟩) w₃ ∧
    w₃.Takes s.other (old.conn s.other).client (fun e => .confirm ⟨owner s.other, e⟩) w₄ ∧
    w₄.Takes s (old.conn s).client (fun e => .finish ⟨owner s, .opened, e⟩) w'

/-- An upgrade that is proposed by an end that is not behind the other one goes through, and leaves
both ends open with the new terms at the next sequence. -/
theorem Poised.upgrade_completes {cap : Capability} {named : Option UpgradeTimeout}
    {t t' : UpgradeTimeout} {n : Sequence} (poised : w.Poised old new owner sequence)
    (changed : new.fields s ≠ old.fields s)
    (owns : (w s).host.store.authenticate (owner s) cap = .ok ())
    (until_then : Upgrading.deadline (w s).host named = .ok t) (set : t.isSet)
    (counted : Word.add? (sequence s) 1 = some n) (behind : sequence s.other ≤ sequence s)
    (ahead : t.Ahead (w s.other).host.height 1) (ahead' : t'.Ahead (w s).host.height 2) :
    ∃ w', w.UpgradesInTurn old new owner s cap named t' w' ∧
      ∀ r, (w' r).OpenWith new owner n r := by
  have changed' := poised.fields_ne changed s.other
  have room (k : Nat) (le : k ≤ 4) (r : Side) : (w r).host.height.Room k := (poised.room r).mono le
  have newer : ¬ n ≤ sequence s.other := by
    have value := Word.add?_eq_some_iff.1 counted
    rw [UInt64.le_iff_toNat_le] at behind ⊢
    have one : (1 : UInt64).toNat = 1 := rfl
    omega
  -- The states of the chain that proposes and of the one that answers alternate.
  obtain ⟨c₁, u, proposes, stage₁, asks, b₁, current₁⟩ :=
    (poised.stage s).exists_proposes changed owns until_then set counted (room 1 (by decide) s)
  rw [← Side.other_other s] at asks
  obtain ⟨d₁, v, answers, stage₁', asks', b₁', current₁'⟩ :=
    (poised.stage s.other).exists_answers changed' asks (ahead.mono (by decide)) newer
      (by simpa using stage₁.holds_end current₁) (by simpa using stage₁.holds_upgrade current₁)
      (room 1 (by decide) s.other) t'
  rw [Side.other_other] at asks
  obtain ⟨c₂, acknowledges, stage₂, b₂, current₂⟩ :=
    stage₁.exists_acknowledges (.inl rfl) asks asks'
      (stage₁'.in_time current₁' ahead (Nat.le_refl 1)) (stage₁'.holds_end current₁')
      (stage₁'.holds_upgrade current₁') (room 2 (by decide) s)
  obtain ⟨d₂, confirms, stage₂', b₂', current₂'⟩ :=
    stage₁'.exists_confirms asks' (by simpa using asks)
      (stage₂.in_time current₂ ahead' (Nat.le_refl 2))
      (by simpa using stage₂.holds_end current₂) (room 2 (by decide) s.other)
  obtain ⟨c₃, finishes, stage₃, -⟩ :=
    stage₂.exists_finishes asks asks' .opened (stage₂'.holds_end current₂') (room 3 (by decide) s)
  let w₁ := w.put s c₁
  let w₂ := w₁.put s.other d₁
  let w₃ := w₂.put s c₂
  let w₄ := w₃.put s.other d₂
  refine ⟨w₄.put s c₃, ⟨w₁, w₂, w₃, w₄, n, u, v, proposes_put proposes, ?_, ?_,
    takes_put (b := b₁) ?_ ?_, ?_, takes_put (b := b₁') ?_ ?_, takes_put (b := b₂) ?_ ?_,
    takes_put (b := b₂') ?_ ?_⟩, ?_⟩
  · simpa [w₁] using stage₁.channel
  · simpa [w₁] using stage₁.upgrade
  · simpa [w₁] using current₁.newest
  · simpa [w₁] using answers
  · simpa [w₂] using stage₁'.upgrade
  · simpa [w₂] using current₁'.newest
  · simpa [w₂, w₁] using acknowledges
  · simpa [w₃] using current₂.newest
  · simpa [w₃, w₂] using confirms
  · simpa [w₄] using current₂'.newest
  · simpa [w₄, w₃] using finishes
  · intro r
    obtain rfl | rfl := r.eq_or_eq_other s
    · simpa using stage₃.openWith
    · simpa [w₄] using stage₂'.openWith

end World

/-! ### Two chains with an open channel -/

namespace Passage

variable {v : ChannelVersion} {o : Order}

def terms (o : Order) (v : ChannelVersion) : Terms := ⟨fun _ => hop, fun _ => connection, o, v⟩

theorem rests {t : Site} {s : Side} : (terms o v).Rests s t.host where
  there := by simp [terms, Site.host, hostOf]
  isOpen := rfl
  label := rfl
  peer := rfl

theorem change {t : Site} {s : Side} {x : ChannelEnd} {o' : Order} {v' : ChannelVersion}
    (kept : t.store = (Shelf.fresh x).store) (supported : connection.supports o') :
    (terms o v).Change (terms o' v') (fun _ => owner) s t.host where
  rests := rests
  rests' := rests
  supported := supported
  counter := ⟨1, by rw [Site.store_host, kept]; exact Shelf.nextSend_store⟩
  flushed _ n := by
    rw [Site.store_host, kept]
    simp [Shelf.store, Shelf.fresh, Map.single]

theorem Site.Going.thawed {t : Site} (going : t.Going) : t.host.Thawed := by
  intro id c there
  by_cases same : client = id
  · subst same
    exact going c (Map.getElem?_single.symm.trans there)
  · rw [Site.host, hostOf, Map.getElem?_single_of_ne same] at there
    cases there

theorem Site.At.room_ahead {t : Site} {n k : Nat} (here : t.At n) (low : n < 9) (few : k < 1000) :
    t.host.height.Room k := by
  have height : t.host.height.height.toNat = n := here.toNat_height low
  have genesis : genesisNanoseconds.toNat = 1650000000000000000 := rfl
  have pace : blockNanoseconds.toNat = 5000000000 := rfl
  have size : UInt64.size = 18446744073709551616 := rfl
  rw [Height.Room, height, genesis, pace, size]
  omega

theorem Site.At.ahead {t : Site} {n k : Nat} (here : t.At n) (low : n < 9) (few : k < 900) :
    (pledge v).timeout.Ahead t.host.height k := by
  intro j le now time
  have place := (here.room_ahead low (by omega)).mono le |>.toNat_later
  have height : t.host.height.height.toNat = n := here.toNat_height low
  have early := Early.of_low (n := (t.host.height.later j).height) (by omega)
  have same := time.symm.trans early.time
  rw [Option.some.inj same]
  exact early.before

variable [Digest]

/-- The two chains once a channel is open. -/
def paired (o : Order) (v : ChannelVersion) : World :=
  .of (leading o v).chain (following o v).chain

theorem poised_paired {o' : Order} {v' : ChannelVersion} (supported : connection.supports o') :
    (paired o v).Poised (terms o v) (terms o' v') (fun _ => owner) fun _ => 0 := by
  have left : (leading o v).At 3 := at_leading
  have right : (following o v).At 3 := at_following
  refine ⟨Side.forall_iff.2 ⟨change rfl supported, change rfl supported⟩,
    fun _ => ⟨by decide, Identifier.slash_notMem_channel 0⟩,
    Side.forall_iff.2 ⟨left.going.thawed, right.going.thawed⟩, fun s => ?_, fun s => ?_,
    Side.forall_iff.2 ⟨left.room_ahead (by decide) (by decide),
      right.room_ahead (by decide) (by decide)⟩⟩
  · cases s <;> exact ⟨app, _, Site.appOf_chain, fun _ _ => rfl⟩
  · cases s <;> exact Shelf.ends_store

end Passage

/-- A channel that was opened unordered turns ordered. -/
theorem World.Poised.upgrade_completes_ordered :
    letI : Digest := .plain
    ∃ w', (Passage.paired .unordered "ics20-1").UpgradesInTurn (Passage.terms .unordered "ics20-1")
        (Passage.terms .ordered "ics20-1") (fun _ => Passage.owner) .left Passage.handle
        (some (Passage.pledge "ics20-1").timeout) (Passage.pledge "ics20-1").timeout w' ∧
      ∀ r, (w' r).OpenWith (Passage.terms .ordered "ics20-1") (fun _ => Passage.owner) 1 r := by
  let _ : Digest := .plain
  exact Poised.upgrade_completes (Passage.poised_paired (by decide)) (by decide)
    Passage.Shelf.authenticate_store rfl rfl rfl (by decide)
    (Passage.at_following.ahead (by decide) (by decide))
    (Passage.at_leading.ahead (by decide) (by decide))

end Crosschain
