import Crosschain.Proofs.AcknowledgementTrail
import Crosschain.Proofs.Counters
import Crosschain.Proofs.UpgradeCourses

/-!
# Packets that are answered

The acknowledgement that is written while a packet is taken is one of a packet that was received: it
has a receipt, or the receive counter is past it. Later an application may write what it likes, for
any packet of its end, and nothing asks whether the packet came. And an upgrade that turns an end
ordered sets the receive counter by the word of the other end, which can be behind what was received.
An acknowledgement that is kept is of a packet received but for these two.
-/

namespace Crosschain

/-! ### Numbers of packets received -/

namespace Lane

/-- The packet of a number counts as received: it has a receipt, or the receive counter is past
it. -/
def HasReceived (l : Lane) (n : Sequence) : Prop :=
  l.receipts n = true ∨ ∃ next, l.nextRecv = some next ∧ n < next

/-- An acknowledgement is kept for a number whose packet does not count as received. -/
def Foreseen (l : Lane) (n : Sequence) : Prop := l.acknowledgements n ≠ none ∧ ¬ l.HasReceived n

/-- An application answers the packet of a number, which had no answer yet and does not count as
received, and the answer is written. -/
def Foresees [Digest] (l : Lane) (a : Action) (e : EndId) (n : Sequence) (l' : Lane) : Prop :=
  ∃ cap p ack, a = .writeAcknowledgement cap p ack ∧ p.destinationSlot = ⟨e, n⟩ ∧
    l.acknowledgements n = none ∧ ¬ l.HasReceived n ∧
      l'.acknowledgements n = some (Commitment.ofAcknowledgement ack)

/-- A message completes an upgrade that turns the end ordered. The receive counter goes on behind the
last packet that the upgrade of the other end tells of, and this comes before a number that counted as
received and has no receipt. -/
def FallsBehind (l : Lane) (a : Action) (e : EndId) (n : Sequence) (l' : Lane) : Prop :=
  l.HasReceived n ∧ l.receipts n = false ∧
    ∃ m x own peer, a = .deliver (.upgrade m) ∧ m.owner = e ∧ m.Completes x.state ∧
      l.Turns x own peer ∧ peer.latestSend < n ∧ l'.nextRecv = Word.add? peer.latestSend 1

variable {l : Lane} {n : Sequence}

/-- A number whose packet counted as received does so after an upgrade, unless the end turns ordered
and goes on at a number that is not above. -/
theorem HasReceived.of_resets {x : ChannelEnd} {own : Upgrade} {nextRecv nextAck : Option Sequence}
    (received : l.HasReceived n) (channel : l.channel = some x) (upgrade : l.upgrade = some own)
    (resets : l.Resets x own.fields nextRecv nextAck) :
    (l.receipts n = true ∨ ∃ next, nextRecv = some next ∧ n < next) ∨
      l.receipts n = false ∧ ∃ peer, l.Turns x own peer ∧ peer.latestSend < n ∧
        nextRecv = Word.add? peer.latestSend 1 := by
  obtain marked | ⟨next, counter, below⟩ := received
  · exact .inl (.inl marked)
  obtain ⟨-, same, -⟩ | ⟨turns, before, peer, -, recv, kept, counted, -, same, -⟩ := resets
  · exact .inl (.inr ⟨next, same.trans counter, below⟩)
  cases marked : l.receipts n with
  | true => exact .inl (.inl rfl)
  | false =>
    by_cases ahead : n < recv
    · exact .inl (.inr ⟨recv, same, ahead⟩)
    · refine .inr ⟨rfl, peer, ⟨channel, upgrade, kept, before, turns⟩, ?_, same.trans counted.symm⟩
      rw [UInt64.lt_iff_toNat_lt] at ahead ⊢
      have sum := Word.add?_eq_some_iff.1 counted
      have one : (1 : UInt64).toNat = 1 := rfl
      omega

end Lane

section Steps

variable [Digest] {h : Host} {a : Action} {e : EndId} {l l' : Lane} {d : Deed} {n : Sequence}

theorem LaneStep.hasReceived (step : LaneStep h a e l d l') (received : l.HasReceived n) :
    l'.HasReceived n ∨ l.FallsBehind a e n l' := by
  cases step with
  | openInit => obtain ⟨⟨⟩⟩ | ⟨next, ⟨⟩, -⟩ := received
  | openTry => obtain ⟨⟨⟩⟩ | ⟨next, ⟨⟩, -⟩ := received
  | receiveOrdered _ m x next acks action owner guard ordering counter counted =>
    obtain marked | ⟨k, there, below⟩ := received
    · exact .inl (.inl marked)
    · obtain rfl := Option.some.inj (counter.symm.trans there)
      exact .inl (.inr ⟨next, rfl, UInt64.lt_trans below (Word.lt_of_add?_one counted)⟩)
  | receiveUnordered _ m x next acks =>
    obtain marked | below := received
    · refine .inl (.inl ?_)
      dsimp only
      by_cases same : n = m.packet.sequence
      · rw [same, Function.update_self]
      · rwa [Function.update_of_ne same]
    · exact .inl (.inr below)
  | confirm _ m x own nextRecv nextAck action owner channel state upgrade shown resets =>
    refine (received.of_resets channel upgrade resets).imp id ?_
    rintro ⟨unmarked, peer, turns, behind, counter⟩
    exact ⟨received, unmarked, .confirm m, x, own, peer, action, owner.symm, state, turns, behind,
      counter⟩
  | finish _ m x own nextRecv nextAck action owner channel state upgrade shown resets =>
    refine (received.of_resets channel upgrade resets).imp id ?_
    rintro ⟨unmarked, peer, turns, behind, counter⟩
    exact ⟨received, unmarked, .finish m, x, own, peer, action, owner.symm, state, turns, behind,
      counter⟩
  | _ => exact .inl received

theorem LaneStep.hasReceived_of_received {p : Packet} (step : LaneStep h a e l (.received p) l') :
    l'.HasReceived p.sequence := by
  cases step with
  | receiveOrdered _ m x next acks action owner guard ordering counter counted =>
    exact .inr ⟨next, rfl, Word.lt_of_add?_one counted⟩
  | receiveUnordered => exact .inl (Function.update_self ..)

/-- A new acknowledgement is one of a packet that is received with it, or an application wrote
it. -/
theorem LaneStep.of_acknowledgement (step : LaneStep h a e l d l') (free : l.acknowledgements n = none)
    (kept : l'.acknowledgements n ≠ none) : (∃ p, d = .received p ∧ p.sequence = n) ∨
      ∃ cap p ack, a = .writeAcknowledgement cap p ack ∧ p.destinationSlot = ⟨e, n⟩ ∧
        l'.acknowledgements n = some (Commitment.ofAcknowledgement ack) := by
  have at_once {m : ReceivePacket} {acks : Sequence → Option Bytes}
      (answers : l.Answers m.packet.sequence acks) (kept : acks n ≠ none) :
      m.packet.sequence = n := by
    obtain rfl | ⟨-, ack, -, rfl⟩ := answers
    · exact absurd free kept
    · by_contra other
      rw [Function.update_of_ne (Ne.symm other)] at kept
      exact kept free
  cases step with
  | openInit => exact absurd rfl kept
  | openTry => exact absurd rfl kept
  | receiveOrdered _ m x next acks action owner guard ordering counter counted answers =>
    exact .inl ⟨m.packet, rfl, at_once answers kept⟩
  | receiveUnordered _ m x next acks action owner guard ordering counter above fresh answers =>
    exact .inl ⟨m.packet, rfl, at_once answers kept⟩
  | answer _ cap p ack x action owner =>
    by_cases same : n = p.sequence
    · rw [same]
      exact .inr ⟨cap, p, ack, action, by rw [Packet.destinationSlot, owner],
        Function.update_self ..⟩
    · dsimp only at kept
      rw [Function.update_of_ne same] at kept
      exact absurd free kept
  | _ => exact absurd free kept

theorem LaneStep.of_foreseen (step : LaneStep h a e l d l') (before : ¬ l.Foreseen n)
    (after : l'.Foreseen n) : l.Foresees a e n l' ∨ l.FallsBehind a e n l' := by
  obtain ⟨kept, missing⟩ := after
  -- Either the packet no longer counts as received, or its acknowledgement is new.
  by_cases received : l.HasReceived n
  · exact .inr ((step.hasReceived received).resolve_left missing)
  · have free : l.acknowledgements n = none := by
      by_contra there
      exact before ⟨there, received⟩
    obtain ⟨p, rfl, rfl⟩ | ⟨cap, p, ack, action, slot, written⟩ :=
      step.of_acknowledgement free kept
    · exact absurd step.hasReceived_of_received missing
    · exact .inl ⟨cap, p, ack, action, slot, free, received, written⟩

end Steps

/-! ### All along a history -/

namespace Chain

variable [Digest] {c d : Chain} {l : History}

/-- An action leaves an acknowledgement without its packet. -/
def LeavesForeseen (e : EndId) (n : Sequence) (s : ChannelStore) (a : Action) (t : ChannelStore) :
    Prop :=
  (s.lane e).Foresees a e n (t.lane e) ∨ (s.lane e).FallsBehind a e n (t.lane e)

namespace Reaches

theorem meets_of_foreseen (start : c.host.store = .empty) (reaches : c.Reaches l d) {e : EndId}
    {n : Sequence} (foreseen : (d.host.store.lane e).Foreseen n) :
    c.Meets l d (LeavesForeseen e n) := by
  induction reaches with
  | rest =>
    rw [start, ChannelStore.lane_empty] at foreseen
    exact absurd rfl foreseen.1
  | @act l d d' a rep before taken ih =>
    by_cases old : (d.host.store.lane e).Foreseen n
    · exact (ih old).trans (.act .rest taken)
    · obtain ⟨deed, step, -⟩ := (taken.stepped (before.orderly start)).lane e
      exact .last before taken (step.of_foreseen old foreseen)
  | arrange before store ports ih =>
    rw [store] at foreseen
    exact (ih foreseen).arrange store ports

/-- On a chain that started without channels, whatever the other chains do and whatever packets the
applications answer: an acknowledgement that is kept is one of a packet that has a receipt or is
below the receive counter, unless on the way an application answered the packet when it did not count
as received, or an upgrade turned the end ordered by a record of the other end that is behind the
packet. -/
theorem answered_received (start : c.host.store = .empty) (reaches : c.Reaches l d) (slot : Slot)
    (kept : d.host.store.acknowledgements[slot]? ≠ none) :
    (d.host.store.lane slot.owner).HasReceived slot.sequence ∨
      c.Meets l d (LeavesForeseen slot.owner slot.sequence) := by
  by_cases received : (d.host.store.lane slot.owner).HasReceived slot.sequence
  · exact .inl received
  · exact .inr (reaches.meets_of_foreseen start ⟨kept, received⟩)

end Reaches

end Chain

theorem Passage.foreseen_foreseen [Digest] {v : ChannelVersion} {data : Bytes} {k : Acknowledgement}
    {filled : data ≠ []} {filled' : k ≠ []} :
    ((foreseen v data k filled filled').lane 13 .right owner).Foreseen 1 := by
  constructor
  · have kept : ((foreseen v data k filled filled').lane 13 .right owner).acknowledgements 1 =
        some (Commitment.ofAcknowledgement k) := Std.ExtTreeMap.getElem?_insert_self
    simp [kept]
  · rintro (⟨⟨⟩⟩ | ⟨next, counter, below⟩)
    obtain rfl : 1 = next := Option.some.inj counter
    exact absurd below (by decide)

/-- A chain that keeps the answer to a packet it did not get met with such an answer. -/
theorem Chain.Reaches.answered_received_foreseen :
    letI : Digest := .plain
    let r := Passage.foreseen "ics20-1" [1] [2] (by decide) (by decide)
    (r.world 0 .right).Meets (r.history .right 13) (r.world 13 .right)
      (LeavesForeseen Passage.owner 1) := by
  let _ : Digest := .plain
  let r := Passage.foreseen "ics20-1" [1] [2] (by decide) (by decide)
  obtain ⟨kept, missing⟩ : (r.lane 13 .right Passage.owner).Foreseen 1 := Passage.foreseen_foreseen
  exact (answered_received (r.started.chain .right).store (r.leads .right 13).reaches
    ⟨Passage.owner, 1⟩ kept).resolve_left missing

/-! ### A packet that no longer counts -/

section Turning

variable [Digest]

theorem LaneStep.completed_of_confirm {h : Host} {k : UpgradeConfirm} {e : EndId} {l l' : Lane}
    {d : Deed} {x y : ChannelEnd} (step : LaneStep h (.deliver (.upgrade (.confirm k))) e l d l')
    (before : l.channel = some x) (after : l'.channel = some y) (turns : y.ordering ≠ x.ordering) :
    d = .completed := by
  by_contra other
  have settled : d ≠ .settled := by
    rintro rfl
    cases step with
    | openAck _ _ _ _ _ _ action => cases action
    | openConfirm _ _ _ _ _ _ _ action => cases action
  have same := (step.endStep_of_channel before after).terms_eq settled other
  exact turns (congrArg UpgradeFields.ordering same.1)

namespace Chain.Relays

variable {c c' : Chain} {id : ClientId} {b : Block} {m : UpgradeMessage} {o : Outcome}

theorem exists_reaches (relays : c.Relays id b m o c') : ∃ l, c.Reaches l c' := by
  obtain ⟨d, events, heard, done⟩ := relays
  exact ⟨_, .act (.act .rest (.inl heard)) (.inl done)⟩

theorem receipts (relays : c.Relays id b m o c') :
    (c'.host.store.lane m.owner).receipts = (c.host.store.lane m.owner).receipts := by
  obtain ⟨d, events, heard, done⟩ := relays
  cases heard
  obtain ⟨x, change, -, effect, -, store⟩ := exists_effect_of_perform done rfl
  obtain ⟨recv, ack, receipt, lane⟩ := c.host.store.exists_lane_applyUpgrade change
  have same := congrArg Lane.receipts lane
  rw [effect.owner] at same
  rw [store]
  exact same

theorem nextRecv {k : UpgradeConfirm} {x y : ChannelEnd} {own peer : Upgrade}
    (relays : c.Relays id b (.confirm k) o c') (orderly : c.Orderly)
    (channel : c.host.store.ends[k.owner]? = some x)
    (channel' : c'.host.store.ends[k.owner]? = some y)
    (upgrade : c.host.store.upgrades[k.owner]? = some own)
    (peerUpgrade : c.host.store.peerUpgrades[k.owner]? = some peer)
    (before : x.ordering = .unordered) (after : y.ordering = .ordered)
    (asked : own.fields.ordering = .ordered) :
    c'.host.store.nextRecv[k.owner]? = Word.add? peer.latestSend 1 := by
  obtain ⟨d, events, heard, done⟩ := relays
  cases heard
  have orderly' := orderly.perform (a := .updateClient id b.header) rfl
  obtain ⟨deed, step, -⟩ := (perform_stepped orderly' done).lane k.owner
  obtain rfl := step.completed_of_confirm channel channel' (by simp [before, after])
  obtain ⟨peer', n, next, turns, sum, recv, -⟩ :=
    step.turned channel upgrade (by simp [before]) asked
  obtain rfl : peer' = peer := Option.some.inj (turns.peerUpgrade.symm.trans peerUpgrade)
  rw [sum]
  exact recv

end Chain.Relays

end Turning

namespace Passage

variable {v : ChannelVersion} {data : Bytes} {k : Acknowledgement} {o o' : Order}

/-- An upgrade to an ordering, of an end that says it sent nothing. -/
def asking (o : Order) (v : ChannelVersion) : Upgrade := ⟨⟨o, [hop], v⟩, (pledge v).timeout, 0⟩

/-- What a chain shows of its end in an upgrade to an ordering, whatever its end is like. -/
def pretending (t : Terms) (st : ChannelState) (n : Sequence) (u : Upgrade) : Shelf :=
  { Shelf.fresh (t.endAt (fun _ => owner) st n .left) with upgrade := some u }

variable [Digest]

/-- A counterparty that shows what it likes takes an open end through an upgrade to the other
ordering. Where this is the ordered one, the end waits for the first packet again. -/
theorem exists_turn {h : Height} {i : Nat} {c : Chain} {n m : Sequence} {own peer : Option Upgrade}
    (orderly : c.Orderly)
    (stage : Stage (terms o v) (terms o' v) (fun _ => owner) .right h i c
      ((terms o v).endAt (fun _ => owner) .opened n .right) own peer)
    (changed : o' ≠ o) (newer : ¬ m ≤ n) (room : h.Room (i + 2))
    (ahead : (pledge v).timeout.Ahead h i) :
    ∃ l c', c.Reaches l c' ∧
      Stage (terms o v) (terms o' v) (fun _ => owner) .right h (i + 2) c'
        ((terms o' v).endAt (fun _ => owner) .opened m .right) none none ∧
      (c'.host.store.lane owner).receipts = (c.host.store.lane owner).receipts ∧
      (o' = .ordered → (c'.host.store.lane owner).nextRecv = some 1) := by
  have fields : (terms o' v).fields .right ≠ (terms o v).fields .right := by
    intro same
    exact changed (congrArg UpgradeFields.ordering same)
  have asks : (asking o' v).Asks ((terms o' v).fields .left) (pledge v).timeout := ⟨rfl, rfl, 1, rfl⟩
  let shown (st : ChannelState) : Block := block 1 (pretending (terms o v) st m (asking o' v)).store
  obtain ⟨d, u, answers, stage₁, asked, -⟩ := stage.exists_answers (b := shown .initUpgrade)
    fields asks ahead newer Site.holds_end (Site.holds_upgrade rfl) (room.mono (Nat.le_succ _))
    (pledge v).timeout
  obtain ⟨c', confirms, stage₂, -⟩ := stage₁.exists_confirms (b := shown .ackUpgrade) asked asks
    (Early.of_low (n := 1) (by decide)).before Site.holds_end room
  obtain ⟨l, onward⟩ := answers.exists_reaches
  obtain ⟨l', onward'⟩ := confirms.exists_reaches
  refine ⟨l ++ l', c', onward.trans onward', stage₂, confirms.receipts.trans answers.receipts, ?_⟩
  rintro rfl
  have unordered : o = .unordered := by
    cases o with
    | unordered => rfl
    | ordered => exact absurd rfl changed
  have ordering : u.fields.ordering = .ordered := by
    rw [asked.fields]
    rfl
  exact confirms.nextRecv (onward.keeps_orderly orderly) stage₁.channel stage₂.channel
    stage₁.upgrade stage₁.peerUpgrade unordered rfl ordering

/-- The chain that received the first packet in order and answered it. -/
def keeping (v : ChannelVersion) (data : Bytes) (k : Acknowledgement) : Site :=
  (arrived (leading .ordered v) (following .ordered v) (opened .ordered v) (commitment data)
    (packet data)).put
    ((received (opened .ordered v)).store.setAcknowledgement ⟨owner, 1⟩
      (Commitment.ofAcknowledgement k))

theorem at_keeping : (keeping v data k).At 4 := at_following.hear.grow.put

theorem stage_keeping :
    Stage (terms .ordered v) (terms .unordered v) (fun _ => owner) .right
      (keeping v data k).host.height 0 (keeping v data k).chain
      ((terms .ordered v).endAt (fun _ => owner) .opened 0 .right) none none where
  change := (change (t := following .ordered v) rfl (by decide)).congr rfl rfl fun _ => rfl
  clean := clean_owner
  thawed := at_keeping.going.thawed
  willing := ⟨app, _, Site.appOf_chain, fun _ _ => rfl⟩
  height := Height.later_zero.symm
  channel := Map.getElem?_single
  upgrade := Map.getElem?_single
  peerUpgrade := Map.getElem?_single

theorem exists_fallen (orderly : (keeping v data k).chain.Orderly) :
    ∃ l c, (keeping v data k).chain.Reaches l c ∧ ¬ (c.host.store.lane owner).HasReceived 1 := by
  have here : (keeping v data k).At 4 := at_keeping
  have room := here.room_ahead (k := 4) (by decide) (by decide)
  obtain ⟨l, d, onward, stage, receipts, -⟩ := exists_turn (m := 1) orderly stage_keeping
    (by decide) (by decide) (room.mono (by decide)) (here.ahead (by decide) (by decide))
  have carried : connection.supports .ordered := by decide
  obtain ⟨l', c, onward', -, receipts', counter⟩ := exists_turn (m := 2)
    (onward.keeps_orderly orderly) { stage with change := stage.change.symm carried } (by decide)
    (by decide) room (here.ahead (by decide) (by decide))
  refine ⟨l ++ l', c, onward.trans onward', ?_⟩
  rintro (marked | ⟨next, there, below⟩)
  · rw [receipts', receipts] at marked
    cases marked
  · obtain rfl := Option.some.inj ((counter rfl).symm.trans there)
    exact absurd below (by decide)

end Passage

/-- What is answered need not have been received. And what was received and answered need not count
as received any more, although no answer to it is written again. -/
theorem Chain.Reaches.not_hasReceived_of_answered :
    letI : Digest := .plain
    (¬ ∀ (c d : Chain) (l : History) (slot : Slot), c.host.store = .empty → c.Reaches l d →
      d.host.store.acknowledgements[slot]? ≠ none →
        (d.host.store.lane slot.owner).HasReceived slot.sequence) ∧
    ¬ ∀ (c d d' : Chain) (l l' : History) (slot : Slot), c.host.store = .empty → c.Reaches l d →
      d.host.store.acknowledgements[slot]? ≠ none →
        (d.host.store.lane slot.owner).HasReceived slot.sequence → d.Reaches l' d' →
          (d'.host.store.lane slot.owner).HasReceived slot.sequence := by
  let _ : Digest := .plain
  constructor
  · let r := Passage.foreseen "ics20-1" [1] [2] (by decide) (by decide)
    obtain ⟨kept, missing⟩ : (r.lane 13 .right Passage.owner).Foreseen 1 := Passage.foreseen_foreseen
    intro all
    exact missing (all (r.world 0 .right) _ _ ⟨Passage.owner, 1⟩ (r.started.chain .right).store
      (r.leads .right 13).reaches kept)
  · let r := Passage.direct "ics20-1" [1] (by decide)
    let d := (Passage.keeping "ics20-1" [1] [2]).chain
    -- The packet arrives and is answered.
    have answered : (r.world 11 .right).perform
        (.writeAcknowledgement Passage.handle (Passage.packet [1]) [2]) =
          some (⟨some .applied, [.acknowledgement (Passage.packet [1]) [2]]⟩, d) :=
      Passage.Site.perform_answer (l := Passage.received (Passage.opened .ordered "ics20-1"))
        Passage.first_packet rfl
        ⟨rfl, rfl, rfl, rfl⟩ (by decide)
    have reaches := (r.leads .right 11).reaches.act (.inl answered)
    have start := (r.started.chain .right).store
    have kept : d.host.store.acknowledgements[Slot.mk Passage.owner 1]? =
        some (Commitment.ofAcknowledgement [2]) := Std.ExtTreeMap.getElem?_insert_self
    have received : (d.host.store.lane Passage.owner).HasReceived 1 :=
      .inr ⟨2, Map.getElem?_single, by decide⟩
    obtain ⟨l', d', onward, missing⟩ := Passage.exists_fallen (reaches.orderly start)
    intro all
    exact missing (all (r.world 0 .right) d d' _ l' ⟨Passage.owner, 1⟩ start reaches
      (by simp [kept]) received onward)

end Crosschain
