import Crosschain.Proofs.OrderedDelivery
import Crosschain.Proofs.Reclaiming

/-!
# Received or timed out, not both

The receiver takes a packet only before its timeout by its own height and time, and the sender takes
it back only against a block of the receiver that has reached the timeout. So that block is later
than the receipt of the packet, and shows it. The two have to be told the same packet for that: a
commitment also stands for packets whose times differ and count the same nanoseconds, of which one
can be received and another one taken back.
-/

namespace Crosschain

section Steps

variable [Digest] {h : Host} {a : Action} {e : EndId} {l l' : Lane} {d : Deed}

theorem LaneStep.receipts {n : Sequence} (step : LaneStep h a e l d l') (kept : l.receipts n = true) :
    l'.receipts n = true := by
  cases step with
  | receiveUnordered _ m x next acks =>
    dsimp only
    by_cases same : n = m.packet.sequence
    · rw [same, Function.update_self]
    · rwa [Function.update_of_ne same]
  | openInit => cases kept
  | openTry => cases kept
  | _ => exact kept

theorem LaneStep.marked {p : Packet} {x : ChannelEnd} (step : LaneStep h a e l (.received p) l')
    (there : l.channel = some x) (unordered : x.ordering ≠ .ordered) :
    l'.receipts p.sequence = true := by
  cases step with
  | receiveOrdered _ m y next acks action owner guard ordered =>
    obtain rfl := Option.some.inj (there.symm.trans guard.channel)
    exact absurd ordered unordered
  | receiveUnordered => exact Function.update_self ..

theorem LaneStep.timedOut {p : Packet} (step : LaneStep h a e l (.timedOut p) l') :
    e = p.source ∧ ∃ m x c time, a = .deliver (.packet (.timeout m)) ∧ m.packet = p ∧
      l.channel = some x ∧ x.peer = .ofEnd p.destination ∧ l.commitments p.sequence = some c ∧
      Commitment.ofPacket? p = some c ∧ p.timedOut m.evidence.height time ∧
      (x.ordering = .ordered ∧ ¬ p.sequence < m.nextRecv ∧ h.Sees x m.evidence.height time
          [⟨m.evidence.object, .nextRecv p.destination, some (Word.bytes m.nextRecv)⟩] ∨
        x.ordering ≠ .ordered ∧ h.Sees x m.evidence.height time
          [⟨m.evidence.object, .receipt p.destinationSlot, none⟩]) := by
  cases step with
  | timeoutOrdered _ m x c time action owner channel named stored commitment late ordering expected
      shown =>
    exact ⟨owner, m, x, c, time, action, rfl, channel, named, stored, commitment, late,
      .inl ⟨ordering, expected, shown⟩⟩
  | timeoutUnordered _ m x c time action owner channel named stored commitment late ordering shown =>
    exact ⟨owner, m, x, c, time, action, rfl, channel, named, stored, commitment, late,
      .inr ⟨ordering, shown⟩⟩

end Steps

namespace Run

variable [Digest] {r : Run} {i j k : Nat} {s : Side} {e d : EndId} {x y : ChannelEnd}

/-! ### Orderings that stay -/

/-- No step of the end changes its ordering. -/
def KeepsOrdering (r : Run) (s : Side) (e : EndId) : Prop :=
  ∀ i x y, (r.lane i s e).channel = some x → (r.lane (i + 1) s e).channel = some y →
    y.ordering = x.ordering

theorem KeepsOrdering.of_le (keeps : r.KeepsOrdering s e) (le : i ≤ j)
    (hx : (r.lane i s e).channel = some x) (hy : (r.lane j s e).channel = some y) :
    y.ordering = x.ordering := by
  induction j, le using Nat.le_induction generalizing y with
  | base =>
    rw [hx] at hy
    cases hy
    rfl
  | succ k le ih =>
    obtain ⟨z, there, -⟩ := exists_later le hx
    exact (keeps k z y there hy).trans (ih there)

theorem KeepsOrdering.eq (keeps : r.KeepsOrdering s e) (hx : (r.lane i s e).channel = some x)
    (hy : (r.lane j s e).channel = some y) : y.ordering = x.ordering := by
  rcases Nat.le_total i j with le | le
  · exact keeps.of_le le hx hy
  · exact (keeps.of_le le hy hx).symm

/-- Two ends that name each other and keep their orderings have the same one. -/
theorem ordering_eq (free : Digest.InjectiveOn r.Hashed) (keeps : r.KeepsOrdering s d)
    (keeps' : r.KeepsOrdering s.other e) (hx : (r.lane i s d).channel = some x)
    (packets : x.state.allowsPackets) (names : x.peer = .ofEnd e)
    (hy : (r.lane j s.other e).channel = some y) : y.ordering = x.ordering := by
  obtain ⟨t, -, v, opened, -, f, names', k, -, z, joined, -, -, fits⟩ :=
    exists_opening free hx packets
  obtain rfl := ChannelPeer.ofEnd_injective (names.symm.trans names')
  have agreed : v.ordering = z.ordering := fits.1
  rw [keeps'.eq joined hy, ← agreed, keeps.eq hx opened]

/-! ### Receipts that stay -/

theorem receipts_of_le {n : Sequence} (le : i ≤ j) (kept : (r.lane i s e).receipts n = true) :
    (r.lane j s e).receipts n = true := by
  induction j, le using Nat.le_induction with
  | base => exact kept
  | succ k le ih =>
    obtain ⟨a, deed, happens⟩ := r.happens k s e
    exact happens.step.receipts ih

theorem delivered_mono (le : i ≤ j) : r.delivered i s e <+: r.delivered j s e := by
  induction j, le using Nat.le_induction with
  | base => exact List.prefix_rfl
  | succ k le ih =>
    obtain ⟨a, deed, happens⟩ := r.happens k s e
    rw [happens.delivered]
    exact ih.trans (List.prefix_append _ _)

/-! ### The order of a receipt and a block -/

/-- A block that reached a timeout comes after a moment at which it was not reached yet. -/
theorem lt_of_timedOut {p : Packet} {height : Height} {time now : Timestamp}
    (block : blockTime? height = some time)
    (reached : r.Reached k s height) (late : p.timedOut height time)
    (now_eq : (r.host i s).now? = some now)
    (height_early : p.timeoutHeight.reachedAt (r.host i s).height = false)
    (time_early : p.timeoutTime.reachedAt now = false) : i < k := by
  by_contra before
  obtain ⟨revision, upto⟩ := reached.mono (Nat.not_lt.1 before)
  rw [Packet.timedOut, Bool.or_eq_true] at late
  rcases late with late | late
  · have le : height ≤ (r.host i s).height := by
      rw [Height.le_iff]
      exact .inr ⟨revision, upto⟩
    cases limit : p.timeoutHeight with
    | never =>
      rw [limit] at late
      cases late
    | atHeight bound =>
      rw [limit] at late height_early
      simp only [TimeoutHeight.reachedAt, decide_eq_true_eq, decide_eq_false_iff_not]
        at late height_early
      exact height_early (Height.le_trans late le)
  · have later := lt_of_reachedAt now_eq block time_early late
    omega

/-! ### Exclusion -/

/-- The receipt of a packet was applied. -/
def AppliesReceipt (r : Run) (i : Nat) (s : Side) (p : Packet) : Prop :=
  ∃ rep m, r.move i = some ⟨s, .deliver (.packet (.receive m)), rep⟩ ∧
    rep.outcome = some .applied ∧ m.packet = p

/-- The timeout of a packet was applied. -/
def AppliesTimeout (r : Run) (i : Nat) (s : Side) (p : Packet) : Prop :=
  ∃ rep m, r.move i = some ⟨s, .deliver (.packet (.timeout m)), rep⟩ ∧
    rep.outcome = some .applied ∧ m.packet = p

section Packet

variable {p q q' : Packet} {n : Nat} (free : Digest.InjectiveOn r.Hashed)

include free

/-- One and the same packet is not both received and timed out. -/
theorem not_received_and_timedOut_of_same {a b : Action}
    (received : r.Happens i s.other p.destination a (.received p))
    (timedOut : r.Happens j s p.source b (.timedOut p)) (keeps : r.KeepsOrdering s p.source)
    (keeps' : r.KeepsOrdering s.other p.destination) : False := by
  obtain ⟨-, m, x, rfl, rfl, guard⟩ := received.step.received
  obtain ⟨now, now_eq, time_early⟩ := guard.time
  obtain ⟨-, m', y, c, time, rfl, -, there, names, -, -, late, shown⟩ := timedOut.step.timedOut
  have acts' := timedOut.acts (by simp)
  have agreed : y.ordering = x.ordering := by
    rw [← s.other_other] at keeps there
    exact ordering_eq free keeps' keeps guard.channel guard.state guard.peer there
  -- The block of the timeout is later than the receipt.
  have later {k : Nat} {claims : List Claimed} (saw : r.Saw k s m'.evidence.height time claims) :
      i < k := lt_of_timedOut saw.time saw.reached late now_eq guard.height time_early
  obtain ⟨ordered, expected, shown⟩ | ⟨unordered, shown⟩ := shown
  · -- The block shows a receive counter that is not past the packet, which was counted by then.
    obtain ⟨k, -, saw⟩ := exists_saw free shown acts' (by
      simp [Action.proofs, Datagram.evidence?, Evidence.proofs])
    have lt := later saw
    have counter := saw.nextRecv List.mem_cons_self
    have numbered : Numbered (r.lane k s.other m.packet.destination).nextRecv
        (r.delivered k s.other m.packet.destination) := by
      refine numbered_of_ordered fun l _ v channel => ?_
      rw [keeps'.eq guard.channel channel, ← agreed]
      exact ordered
    have mem : m.packet ∈ r.delivered k s.other m.packet.destination := by
      refine (delivered_mono (Nat.succ_le_of_lt lt)).subset ?_
      rw [received.delivered]
      exact List.mem_append_right _ List.mem_cons_self
    obtain ⟨l, hl, place⟩ := List.mem_iff_getElem.1 mem
    have number := numbered.numbers l hl
    have total := numbered.some _ counter
    rw [place] at number
    rw [UInt64.lt_iff_toNat_lt] at expected
    omega
  · -- The block shows no receipt, but receipts stay.
    obtain ⟨k, -, saw⟩ := exists_saw free shown acts' (by
      simp [Action.proofs, Datagram.evidence?, Evidence.proofs])
    have lt := later saw
    have absent := saw.noReceipt List.mem_cons_self
    have marked := received.step.marked guard.channel (by rwa [← agreed])
    have kept := receipts_of_le (Nat.succ_le_of_lt lt) marked
    rw [show m.packet.destinationSlot.owner = m.packet.destination from rfl,
      show m.packet.destinationSlot.sequence = m.packet.sequence from rfl, kept] at absent
    cases absent

variable (announced : p ∈ r.announced n s p.source)

include announced

theorem received_of_appliesReceipt (applies : r.AppliesReceipt i s.other q)
    (slot : q.destinationSlot = p.destinationSlot) :
    q.Alike p ∧ r.NamesTime q.timeoutTime ∧
      ∃ a, r.Happens i s.other q.destination a (.received q) := by
  obtain ⟨rep, m, move, outcome, rfl⟩ := applies
  obtain ⟨destination, sequence⟩ := Slot.mk.inj slot
  obtain ⟨a, deed, happens⟩ := r.happens i s.other m.packet.destination
  obtain ⟨rfl, rfl⟩ := happens.applied (.receive m) rep move rfl outcome
  obtain ⟨-, m', x, same_action, -, guard⟩ := happens.step.received
  cases same_action
  have delivered : m.packet ∈ r.delivered (i + 1) s.other m.packet.destination := by
    rw [happens.delivered]
    exact List.mem_append_right _ List.mem_cons_self
  obtain ⟨t, -, b, sending⟩ := exists_sent announced
  obtain ⟨-, -, -, ⟨y, there, packets, names⟩, -⟩ := sending.step.sent
  have channel := guard.channel
  rw [destination] at channel
  have back := named_back free there packets names channel (.inr guard.state)
  have source := ChannelPeer.ofEnd_injective (guard.peer.symm.trans back)
  obtain ⟨p', announced', alike⟩ := exists_alike_of_delivered free delivered
  rw [Side.other_other, source] at announced'
  obtain rfl := announced_unique announced announced' (sequence.symm.trans alike.sequence)
  exact ⟨alike, namesTime_of_delivered delivered, _, happens⟩

theorem timedOut_of_appliesTimeout (applies : r.AppliesTimeout j s q)
    (slot : q.sourceSlot = p.sourceSlot)
    (proper : ∀ a, r.action? j s = some a → a.ProperHeights) :
    q.Alike p ∧ r.NamesTime q.timeoutTime ∧ ∃ a, r.Happens j s q.source a (.timedOut q) := by
  obtain ⟨rep, m, move, outcome, rfl⟩ := applies
  obtain ⟨source, sequence⟩ := Slot.mk.inj slot
  obtain ⟨a, deed, happens⟩ := r.happens j s m.packet.source
  obtain ⟨rfl, rfl⟩ := happens.applied (.timeout m) rep move rfl outcome
  obtain ⟨-, -, x, c, time, -, -, channel, names, stored, commitment, -⟩ := happens.step.timedOut
  have acts := happens.acts (by simp [PacketMessage.deed])
  obtain ⟨p', announced', alike⟩ : ∃ p' ∈ r.announced j s m.packet.source, m.packet.Alike p' :=
    exists_alike_of_stored free acts rfl (proper _ acts) channel names stored commitment
  rw [source] at announced'
  obtain rfl := announced_unique announced announced' (sequence.symm.trans alike.sequence)
  exact ⟨alike, ⟨j, s, _, _, acts, rfl, rfl⟩, _, happens⟩

/-- When what is received and what is timed out both stand in the place of an announced packet, they
are that packet but for their times, which count the same nanoseconds and are not the same. So when
the times of the run are told apart by their nanoseconds, no announced packet is both received and
timed out, in whatever order the two would come. -/
theorem not_received_and_timedOut (proper : ∀ i m, r.move i = some m → m.action.ProperHeights)
    (keeps : r.KeepsOrdering s p.source) (keeps' : r.KeepsOrdering s.other p.destination) :
    (∀ i j q q', r.AppliesReceipt i s.other q → q.destinationSlot = p.destinationSlot →
      r.AppliesTimeout j s q' → q'.sourceSlot = p.sourceSlot →
        q.Alike p ∧ q'.Alike p ∧ q.timeoutTime ≠ q'.timeoutTime) ∧
    (r.TimesApart →
      ¬ ((∃ i q, r.AppliesReceipt i s.other q ∧ q.destinationSlot = p.destinationSlot) ∧
        ∃ j q, r.AppliesTimeout j s q ∧ q.sourceSlot = p.sourceSlot)) := by
  have proper' (j : Nat) (a : Action) (action : r.action? j s = some a) : a.ProperHeights := by
    obtain ⟨rep, move, -⟩ := acts action
    exact proper j _ move
  have differ (i j : Nat) (q q' : Packet) (receipt : r.AppliesReceipt i s.other q)
      (slot : q.destinationSlot = p.destinationSlot) (timeout : r.AppliesTimeout j s q')
      (slot' : q'.sourceSlot = p.sourceSlot) :
      q.Alike p ∧ q'.Alike p ∧ q.timeoutTime ≠ q'.timeoutTime := by
    obtain ⟨alike, -, a, received⟩ := received_of_appliesReceipt free announced receipt slot
    obtain ⟨alike', -, b, timedOut⟩ :=
      timedOut_of_appliesTimeout free announced timeout slot' (proper' j)
    refine ⟨alike, alike', fun time => ?_⟩
    obtain rfl := (alike.of_both alike').eq time
    rw [← alike.source] at keeps
    rw [← alike.destination] at keeps'
    exact not_received_and_timedOut_of_same free received timedOut keeps keeps'
  refine ⟨differ, fun apart => ?_⟩
  rintro ⟨⟨i, q, receipt, slot⟩, j, q', timeout, slot'⟩
  obtain ⟨alike, names, -⟩ := received_of_appliesReceipt free announced receipt slot
  obtain ⟨alike', names', -⟩ :=
    timedOut_of_appliesTimeout free announced timeout slot' (proper' j)
  obtain ⟨-, -, other⟩ := differ i j q q' receipt slot timeout slot'
  exact other (congrArg _ (apart.eq (alike.of_both alike') names names'))

end Packet

end Run

/-- A packet that got through over a channel that was opened ordered. -/
theorem Run.not_timedOut_direct :
    letI : Digest := .plain
    let r := Passage.direct "ics20-1" [1] (by decide)
    r.TimesApart ∧ r.AppliesReceipt 10 .right (Passage.packet [1]) ∧
      ¬ ((∃ i q, r.AppliesReceipt i .right q ∧
          q.destinationSlot = (Passage.packet [1]).destinationSlot) ∧
        ∃ j q, r.AppliesTimeout j .left q ∧ q.sourceSlot = (Passage.packet [1]).sourceSlot) := by
  let _ : Digest := .plain
  have filled : [1] ≠ ([] : Bytes) := by decide
  have keeps (s : Side) (e : EndId) :
      (Passage.direct "ics20-1" [1] filled).KeepsOrdering s e := by
    intro i x y hx hy
    rw [Passage.ordered_direct _ filled hx, Passage.ordered_direct _ filled hy]
  have announced : Passage.packet [1] ∈
      (Passage.direct "ics20-1" [1] filled).announced 11 .left Passage.owner := by
    rw [(Passage.direct_delivers _ filled).1]
    exact List.mem_cons_self
  have apart := Passage.timesApart_direct "ics20-1" filled
  refine ⟨apart, ⟨_, _, rfl, rfl, rfl⟩, ?_⟩
  exact (not_received_and_timedOut (s := .left) (n := 11) (p := Passage.packet [1])
    (Digest.injectiveOn_plain _) announced
    (fun i m => Passage.properHeights_direct _ filled) (keeps _ _) (keeps _ _)).2 apart

/-- Without times that are told apart, a packet that was received can be timed out as well: one
without a time, once it is told of with the first moment of all as its time. -/
theorem Run.received_and_timedOut_epoch :
    letI : Digest := .plain
    let r := Passage.reclaimed "ics20-1" Passage.twins_epoch Passage.inTime_unset.1
      Passage.inTime_unset.2 Passage.late_epoch
    let p := Passage.lasting .unset
    let q := Passage.lasting Passage.epoch
    Digest.InjectiveOn r.Hashed ∧ (∀ i m, r.move i = some m → m.action.ProperHeights) ∧
      r.KeepsOrdering .left p.source ∧ r.KeepsOrdering .right p.destination ∧
      p ∈ r.announced 13 .left p.source ∧
      r.AppliesReceipt 10 .right p ∧ r.AppliesTimeout 12 .left q ∧
      q.sourceSlot = p.sourceSlot := by
  let _ : Digest := .plain
  intro r p q
  have keeps (s : Side) (e : EndId) : r.KeepsOrdering s e := by
    intro i x y hx hy
    rw [Passage.ordered_reclaimed hx, Passage.ordered_reclaimed hy]
  refine ⟨Digest.injectiveOn_plain _, fun i m move a h asked limit => ?_, keeps _ _, keeps _ _, ?_,
    ⟨_, _, rfl, rfl, rfl⟩, ⟨_, _, rfl, rfl, rfl⟩, rfl⟩
  · obtain rfl | rfl := Passage.asks_reclaimed move asked
    · cases limit
      decide
    · cases limit
      decide
  · rw [show r.announced 13 .left p.source = [p] from Passage.announced_reclaimed]
    exact List.mem_cons_self

end Crosschain
