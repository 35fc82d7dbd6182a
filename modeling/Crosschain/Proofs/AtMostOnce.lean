import Crosschain.Proofs.Agreement
import Crosschain.Proofs.OrderedDelivery

/-!
# No packet is handed over twice

What an end was handed lies below its receive counter or has a receipt, and below the counter while
the end is ordered. When an upgrade turns the end ordered, the counter goes on behind the last packet
that the other end had sent when it proposed, and it sends nothing until it is through. So nothing
is handed over again, as long as the proposal the end goes by is the one the other end has now.
-/

namespace Crosschain

/-! ### Steps -/

/-- What was handed over is below the counter or has a receipt, and below the counter while the end
is ordered. -/
structure Lane.Guards (l : Lane) (packets : List Packet) : Prop where
  start : l.nextRecv = none → packets = []
  once : (packets.map Packet.sequence).Nodup
  marked : ∀ n, l.nextRecv = some n → ∀ p ∈ packets,
    p.sequence < n ∨ l.receipts p.sequence = true
  ordered : ∀ x n, l.channel = some x → x.ordering = .ordered → l.nextRecv = some n →
    ∀ p ∈ packets, p.sequence < n

/-- An upgrade turns the end ordered by the proposal of the other end that it keeps. -/
structure Lane.Turns (l : Lane) (x : ChannelEnd) (own peer : Upgrade) : Prop where
  channel : l.channel = some x
  upgrade : l.upgrade = some own
  peerUpgrade : l.peerUpgrade = some peer
  before : x.ordering ≠ .ordered
  after : own.fields.ordering = .ordered

/-- While an upgrade is on its way, the end goes through it or was closed. If the upgrade changes the
ordering, the end has sent nothing since it proposed. -/
def Lane.Paused (l : Lane) : Prop :=
  ∀ own, l.upgrade = some own → ∃ x, l.channel = some x ∧
    (x.state.isUpgrading ∨ x.state = .closed) ∧
      (own.fields.ordering ≠ x.ordering → ∀ n, l.nextSend = some n →
        n.toNat = own.latestSend.toNat + 1)

section Steps

variable [Digest] {h : Host} {a : Action} {e : EndId} {l l' : Lane} {d : Deed}
  {packets : List Packet}

omit [Digest] in
/-- A completed upgrade keeps the guard if the packets handed over are covered by the proposal of
the other end. -/
theorem Lane.Guards.of_resets {x : ChannelEnd} {own : Upgrade} {nextRecv nextAck : Option Sequence}
    (guards : l.Guards packets) (channel : l.channel = some x) (upgrade : l.upgrade = some own)
    (resets : l.Resets x own.fields nextRecv nextAck)
    (covered : ∀ x own peer, l.Turns x own peer →
      ∀ p ∈ packets, p.sequence.toNat ≤ peer.latestSend.toNat) :
    Lane.Guards { l with
      channel := some { x.withFields own.fields with state := .opened }
      nextRecv, nextAck, upgrade := none, peerUpgrade := none } packets := by
  rcases resets with ⟨keeps, rfl, -⟩ | ⟨turns, before, peer, next, recv, kept, sum, -, rfl, -⟩
  · refine ⟨guards.start, guards.once, guards.marked, ?_⟩
    rintro y n ⟨⟩ ordered counter
    have was : x.ordering = .ordered := by
      by_contra other
      exact keeps ⟨ordered, other⟩
    exact guards.ordered x n channel was counter
  · have below : ∀ p ∈ packets, p.sequence < recv := by
      intro p mem
      have upto := covered x own peer ⟨channel, upgrade, kept, before, turns⟩ p mem
      have one : (1 : UInt64).toNat = 1 := rfl
      rw [UInt64.lt_iff_toNat_lt, Word.add?_eq_some_iff.1 sum]
      omega
    refine ⟨by simp, guards.once, ?_, ?_⟩
    · rintro n ⟨⟩ p mem
      exact .inl (below p mem)
    · rintro y n - - ⟨⟩ p mem
      exact below p mem

omit [Digest] in
theorem Lane.Guards.of_receive {p : Packet} (guards : l.Guards packets)
    (fresh : ∀ q ∈ packets, q.sequence ≠ p.sequence) :
    ((packets ++ [p]).map Packet.sequence).Nodup := by
  rw [List.map_append, List.nodup_append]
  refine ⟨guards.once, by simp, ?_⟩
  intro m hm n hn
  obtain ⟨q, hq, rfl⟩ := List.mem_map.1 hm
  obtain rfl := List.mem_singleton.1 hn
  exact fresh q hq

omit [Digest] in
theorem Lane.Guards.receiveOrdered {x : ChannelEnd} {p : Packet} {next : Sequence}
    {acks : Sequence → Option Bytes} (guards : l.Guards packets) (channel : l.channel = some x)
    (ordering : x.ordering = .ordered) (counter : l.nextRecv = some p.sequence)
    (counted : Word.add? p.sequence 1 = some next) :
    Lane.Guards { l with nextRecv := some next, acknowledgements := acks } (packets ++ [p]) := by
  have below := guards.ordered x _ channel ordering counter
  have one : (1 : UInt64).toNat = 1 := rfl
  have sum := Word.add?_eq_some_iff.1 counted
  have all_below : ∀ q ∈ packets ++ [p], q.sequence < next := by
    intro q mem
    rw [UInt64.lt_iff_toNat_lt, sum]
    rcases List.mem_append.1 mem with mem | mem
    · have lt := UInt64.lt_iff_toNat_lt.1 (below q mem)
      omega
    · rw [List.mem_singleton.1 mem]
      omega
  refine ⟨by simp, guards.of_receive ?_, ?_, ?_⟩
  · intro q mem equal
    have lt := below q mem
    rw [equal] at lt
    exact UInt64.lt_irrefl _ lt
  · rintro n ⟨⟩ q mem
    exact .inl (all_below q mem)
  · rintro y n - - ⟨⟩ q mem
    exact all_below q mem

omit [Digest] in
theorem Lane.Guards.receiveUnordered {x : ChannelEnd} {p : Packet} {next : Sequence}
    {acks : Sequence → Option Bytes} (guards : l.Guards packets) (channel : l.channel = some x)
    (unordered : x.ordering ≠ .ordered) (counter : l.nextRecv = some next)
    (above : ¬ p.sequence < next) (fresh : l.receipts p.sequence = false) :
    Lane.Guards { l with
      receipts := Function.update l.receipts p.sequence true
      acknowledgements := acks } (packets ++ [p]) := by
  refine ⟨by simp [counter], guards.of_receive ?_, ?_, ?_⟩
  · intro q mem equal
    rcases guards.marked next counter q mem with below | marked
    · rw [equal] at below
      exact above below
    · rw [equal, fresh] at marked
      cases marked
  · intro n there q mem
    dsimp only at there ⊢
    rcases List.mem_append.1 mem with mem | mem
    · rcases guards.marked n there q mem with below | marked
      · exact .inl below
      · by_cases equal : q.sequence = p.sequence
        · exact .inr (by rw [equal, Function.update_self])
        · exact .inr (by rwa [Function.update_of_ne equal])
    · rw [List.mem_singleton.1 mem]
      exact .inr (Function.update_self ..)
  · intro y n there ordered
    rw [show l.channel = some y from there] at channel
    cases channel
    exact absurd ordered unordered

theorem LaneStep.guards (step : LaneStep h a e l d l') (guards : l.Guards packets)
    (covered : d = .completed → ∀ x own peer, l.Turns x own peer →
      ∀ p ∈ packets, p.sequence.toNat ≤ peer.latestSend.toNat) :
    l'.Guards (packets ++ d.received?.toList) := by
  -- Most steps leave the receive counter and the receipts alone, and the end its ordering.
  have quietly {c : Option ChannelEnd} {nextSend nextAck : Option Sequence}
      {own peer : Option Upgrade} {receipt : Option ErrorReceipt}
      {commitments acknowledgements : Sequence → Option Bytes}
      (kept : ∀ y, c = some y → ∃ x, l.channel = some x ∧ y.ordering = x.ordering) :
      Lane.Guards ⟨c, nextSend, l.nextRecv, nextAck, own, peer, receipt, commitments, l.receipts,
        acknowledgements⟩ (packets ++ []) := by
    rw [List.append_nil]
    refine ⟨guards.start, guards.once, guards.marked, ?_⟩
    intro y n there ordered counter
    obtain ⟨x, channel, same⟩ := kept y there
    exact guards.ordered x n channel (same ▸ ordered) counter
  have same (y : ChannelEnd) (there : l.channel = some y) :
      ∃ x, l.channel = some x ∧ y.ordering = x.ordering := ⟨y, there, rfl⟩
  have alike {x z : ChannelEnd} (channel : l.channel = some x) (ordering : z.ordering = x.ordering)
      (y : ChannelEnd) (there : some z = some y) :
      ∃ x, l.channel = some x ∧ y.ordering = x.ordering := by
    cases there
    exact ⟨x, channel, ordering⟩
  have created {c : Option ChannelEnd} : Lane.Guards { Lane.empty with
      channel := c, nextSend := some 1, nextRecv := some 1, nextAck := some 1 } [] :=
    ⟨by simp, List.nodup_nil, by simp, by simp⟩
  cases step with
  | openInit =>
    rw [guards.start rfl]
    exact created
  | openTry =>
    rw [guards.start rfl]
    exact created
  | receiveOrdered _ m x next acks action owner guard ordering counter counted =>
    exact guards.receiveOrdered guard.channel ordering counter counted
  | receiveUnordered _ m x next acks action owner guard unordered counter above fresh =>
    exact guards.receiveUnordered guard.channel unordered counter above fresh
  | confirm _ m x own nextRecv nextAck action owner channel state upgrade shown resets =>
    show Lane.Guards _ (packets ++ [])
    rw [List.append_nil]
    exact guards.of_resets channel upgrade resets (covered rfl)
  | finish _ m x own nextRecv nextAck action owner channel state upgrade shown resets =>
    show Lane.Guards _ (packets ++ [])
    rw [List.append_nil]
    exact guards.of_resets channel upgrade resets (covered rfl)
  | openAck _ m x hop peerHop time action owner channel => exact quietly (alike channel rfl)
  | openConfirm _ m x hop peerHop peer time action owner channel =>
    exact quietly (alike channel rfl)
  | close _ cap m x action owner channel => exact quietly (alike channel rfl)
  | timeoutOrdered _ m x c time action owner channel => exact quietly (alike channel rfl)
  | propose _ cap m x n sequence timeout hop c action owner channel =>
    exact quietly (alike channel rfl)
  | reply _ m x fields n action owner guard => exact quietly (alike guard.channel rfl)
  | cross _ m x fields own action owner guard => exact quietly (alike guard.channel rfl)
  | agree _ m x own hop peerHop peer second time action owner channel =>
    exact quietly (alike channel rfl)
  | cancel _ m x peer time action owner channel => exact quietly (alike channel rfl)
  | abort _ x receipt channel => exact quietly (alike channel rfl)
  | expire _ m x own peer time receipt action owner channel => exact quietly (alike channel rfl)
  | _ => exact quietly same

omit [Digest] in
theorem Word.pred_add_one {n : UInt64} (positive : n ≠ 0) : n.toNat = (Word.pred n).toNat + 1 := by
  have above : 0 < n.toNat := by
    rw [Nat.pos_iff_ne_zero]
    intro zero
    exact positive (UInt64.toNat_inj.1 zero)
  have one : (1 : UInt64).toNat = 1 := rfl
  rw [Word.pred, if_neg positive, UInt64.toNat_sub_of_le _ _ (UInt64.le_iff_toNat_le.2 (by omega))]
  omega

theorem LaneStep.confirmed {x : ChannelEnd} (step : LaneStep h a e l .completed l')
    (there : l.channel = some x) (state : x.state = .tryUpgrade) :
    ∃ m, a = .deliver (.upgrade (.confirm m)) ∧ e = m.owner := by
  cases step with
  | confirm _ m y own nextRecv nextAck action owner => exact ⟨m, action, owner⟩
  | finish _ m y own nextRecv nextAck action owner channel agreed =>
    rw [there] at channel
    cases channel
    rw [state] at agreed
    cases agreed

theorem LaneStep.paused (step : LaneStep h a e l d l') (paused : l.Paused)
    (positive : ∀ n, l.nextSend = some n → n ≠ 0) : l'.Paused := by
  have running {x : ChannelEnd} {own : Upgrade} (channel : l.channel = some x)
      (upgrade : l.upgrade = some own) : (x.state.isUpgrading ∨ x.state = .closed) ∧
        (own.fields.ordering ≠ x.ordering → ∀ n, l.nextSend = some n →
          n.toNat = own.latestSend.toNat + 1) := by
    obtain ⟨y, there, found⟩ := paused own upgrade
    rw [channel] at there
    cases there
    exact found
  intro own upgrade
  cases step with
  | openInit => cases upgrade
  | openTry => cases upgrade
  | confirm => cases upgrade
  | finish => cases upgrade
  | cancel => cases upgrade
  | abort => cases upgrade
  | expire => cases upgrade
  | openAck _ m x hop peerHop time action owner channel state =>
    obtain ⟨going, -⟩ := running channel upgrade
    rcases state with state | state <;> simp [state, ChannelState.isUpgrading_iff] at going
  | openConfirm _ m x hop peerHop peer time action owner channel state =>
    obtain ⟨going, -⟩ := running channel upgrade
    simp [state, ChannelState.isUpgrading_iff] at going
  | close _ cap m x action owner channel => exact ⟨_, rfl, .inr rfl, (running channel upgrade).2⟩
  | timeoutOrdered _ m x c time action owner channel =>
    exact ⟨_, rfl, .inr rfl, (running channel upgrade).2⟩
  | send _ cap m x peer n next c p action owner channel state order =>
    obtain ⟨going | closed, -⟩ := running channel upgrade
    · -- During an upgrade packets are sent only if it keeps the ordering.
      refine ⟨x, channel, .inl going, fun changed => ?_⟩
      obtain ⟨u, pending, same⟩ := order going
      rw [show l.upgrade = some own from upgrade] at pending
      cases pending
      exact absurd same changed
    · rw [closed] at state
      cases state
  | propose _ cap m x n sequence timeout hop c action owner channel state changed hops connection
      counter =>
    cases upgrade
    refine ⟨_, rfl, .inl rfl, fun _ k there => ?_⟩
    rw [show l.nextSend = some k from there] at counter
    cases counter
    exact Word.pred_add_one (positive _ there)
  | reply _ m x fields n action owner guard state newer counter =>
    cases upgrade
    refine ⟨_, rfl, .inl rfl, fun _ k there => ?_⟩
    rw [show l.nextSend = some k from there] at counter
    cases counter
    exact Word.pred_add_one (positive _ there)
  | cross _ m x fields own' action owner guard state pending =>
    cases upgrade
    exact ⟨_, rfl, .inl rfl, (running guard.channel pending).2⟩
  | agree _ m x own' hop peerHop peer second time action owner channel =>
    exact ⟨_, rfl, .inl rfl, (running channel upgrade).2⟩
  | _ => exact paused own upgrade

end Steps

namespace Run

variable [Digest] {r : Run} {i j k : Nat} {s : Side} {e d : EndId} {x y z w : ChannelEnd}
  {own peer v : Upgrade} {p : Packet}

theorem paused : (r.lane i s e).Paused := by
  induction i with
  | zero =>
    rw [lane_zero]
    intro own upgrade
    cases upgrade
  | succ i ih =>
    obtain ⟨a, deed, happens⟩ := r.happens i s e
    refine happens.step.paused ih ?_
    intro n there zero
    have counted := (r.numbered (i := i) (s := s) (e := e)).some n there
    rw [zero] at counted
    cases counted

theorem announced_le (there : (r.lane i s e).channel = some x)
    (upgrade : (r.lane i s e).upgrade = some own) (changes : own.fields.ordering ≠ x.ordering)
    (mem : p ∈ r.announced i s e) : p.sequence.toNat ≤ own.latestSend.toNat := by
  have numbered := r.numbered (i := i) (s := s) (e := e)
  obtain ⟨y, there', -, last⟩ := paused own upgrade
  rw [there] at there'
  cases there'
  obtain ⟨k, lt, rfl⟩ := List.mem_iff_getElem.1 mem
  have number := numbered.numbers k lt
  cases counter : (r.lane i s e).nextSend with
  | none =>
    have empty := numbered.none counter
    rw [empty] at lt
    cases lt
  | some n =>
    have length := numbered.some n counter
    have covered := last changes n counter
    omega

/-- While a change of the ordering is agreed to, nothing is handed over. -/
theorem delivered_eq_of_ack (le : j ≤ i) (waiting : ∀ k, j ≤ k → k < i →
    (r.lane k s e).channel = some x ∧ (r.lane k s e).upgrade = some own)
    (agreed : x.state = .ackUpgrade) (changes : own.fields.ordering ≠ x.ordering) :
    r.delivered i s e = r.delivered j s e := by
  induction i, le using Nat.le_induction with
  | base => rfl
  | succ i le ih =>
    have before := ih fun k ge lt => waiting k ge (Nat.lt_succ_of_lt lt)
    obtain ⟨there, upgrade⟩ := waiting i le (Nat.lt_succ_self i)
    obtain ⟨a, deed, happens⟩ := r.happens i s e
    rw [happens.delivered, before]
    cases deed with
    | received p =>
      obtain ⟨-, m, y, -, -, guard⟩ := happens.step.received
      have channel := guard.channel
      rw [there] at channel
      cases channel
      obtain ⟨u, pending, same⟩ := guard.order agreed
      rw [upgrade] at pending
      cases pending
      exact absurd same changes
    | _ => exact List.append_nil _

/-! ### What the counter goes on behind -/

/-- An upgrade that turns an end ordered is confirmed by a proposal of the other end that is not the
one the other end has by then. -/
def ConfirmsStale (r : Run) (i : Nat) (s : Side) : Prop :=
  ∃ m x own peer d v, r.Happens i s m.owner (.deliver (.upgrade (.confirm m))) .completed ∧
    (r.lane i s m.owner).Turns x own peer ∧ x.peer = .ofEnd d ∧
      (r.lane i s.other d).upgrade = some v ∧ v.latestSend ≠ peer.latestSend

variable (free : Digest.InjectiveOn r.Hashed)

include free

/-- When an upgrade is confirmed, the other end still has the proposal it agreed with. -/
theorem exists_pending_of_confirm (hx : (r.lane i s e).channel = some x)
    (state : x.state = .tryUpgrade) (upgrade : (r.lane i s e).upgrade = some own)
    (changes : own.fields.ordering ≠ x.ordering) (le : j ≤ i)
    (hz : (r.lane j s.other d).channel = some z) (agreed : z.state = .ackUpgrade)
    (names : z.peer = .ofEnd e) (same : z.upgradeSequence = x.upgradeSequence)
    (fits : r.Fits s x.fields z.fields) :
    ∃ y v, (r.lane i s.other d).channel = some y ∧ (r.lane i s.other d).upgrade = some v ∧
      v.fields.ordering ≠ y.ordering := by
  have running : x.state.isUpgrading := by
    rw [state]
    rfl
  have phase := ChannelEnd.phase_of_try state
  have back : (r.lane i s.other.other e).channel = some x := by rwa [Side.other_other]
  obtain ⟨v, pending, proposals⟩ := proposals_fit free hx running upgrade hz agreed names same
  have ordering : v.fields.ordering ≠ z.ordering := by
    rw [← proposals.1, ← show x.ordering = z.ordering from fits.1]
    exact changes
  rcases follow_ack free le hz agreed names back
      (by rw [phase, ChannelEnd.phase_of_ack agreed, same]; omega) with
    ⟨y, there, kept, upgrade'⟩ | ⟨t, ge, lt, a, happens, there, -⟩
  · have fields : y.fields = z.fields := by
      rcases kept with rfl | ⟨-, fields⟩
      · rfl
      · exact fields
    refine ⟨y, v, there, upgrade'.trans pending, ?_⟩
    rw [show y.ordering = z.ordering from congrArg UpgradeFields.ordering fields]
    exact ordering
  · -- The end would have agreed to the upgrade itself.
    obtain ⟨-, -, far⟩ := phase_le_of_completed free happens there names (Nat.le_of_lt lt) back
    rw [phase, same] at far
    omega

theorem exists_completing (le : k ≤ j) (hy : (r.lane k s d).channel = some y)
    (running : y.state.isUpgrading) (hz : (r.lane j s d).channel = some z)
    (opened : z.state = .opened) (same : z.upgradeSequence = y.upgradeSequence)
    (changed : z.fields ≠ y.fields) :
    ∃ t a u, k ≤ t ∧ t < j ∧ r.Happens t s d a .completed ∧ (r.lane t s d).channel = some u ∧
      u.state.isUpgrading ∧ u.upgradeSequence = y.upgradeSequence := by
  have joined : y.Joined := .inr (by simp [ChannelState.allowsPackets, running])
  obtain ⟨t, ge, lt, a, happens⟩ := exists_completed_of_fields_ne free le hy joined hz changed
  obtain ⟨u, -, -, channel, -, state, -⟩ := happens.step.completed
  have still : u.state.isUpgrading := (ChannelState.isUpgrading_iff _).2 (.inr state)
  refine ⟨t, a, u, ge, lt, happens, channel, still, ?_⟩
  -- The phase of the end never falls, and is that of one round before and after.
  have since := phase_le ge hy channel
  have upto := phase_le (Nat.le_of_lt lt) channel hz
  have first := ChannelState.stage_of_isUpgrading running
  have middle := ChannelState.stage_of_isUpgrading still
  have last := ChannelEnd.phase_of_open opened
  rw [same] at last
  have at_first : y.phase = 5 * y.upgradeSequence.toNat + y.state.stage := rfl
  have at_middle : u.phase = 5 * u.upgradeSequence.toNat + u.state.stage := rfl
  rw [← UInt64.toNat_inj]
  omega

/-- When an end agrees to an upgrade that it goes on to finish, the other end has the proposal that
it was shown. -/
theorem exists_pending_of_finish {t : Nat} (hw : (r.lane t s e).channel = some w)
    (before : w.phase < 5 * x.upgradeSequence.toNat + 3) (le : k ≤ t)
    (rests : r.Rests k s e d x own peer y v) (changes : own.fields.ordering ≠ x.ordering)
    (hz : (r.lane j s.other d).channel = some z) (names : z.peer = .ofEnd e)
    (same : z.upgradeSequence = x.upgradeSequence)
    (shown : z.state = .ackUpgrade ∨ z.state = .opened ∧ r.Fits s own.fields z.fields) :
    ∃ u, (r.lane t s.other d).channel = some u ∧ (r.lane t s.other d).upgrade = some v ∧
      v.fields.ordering ≠ u.ordering := by
  have ordering : v.fields.ordering ≠ y.ordering := by
    rw [← rests.fits.1, rests.ordering]
    exact changes
  have running : y.state.isUpgrading := by
    rw [rests.state]
    rfl
  have stays {u : ChannelEnd} (fields : u.fields = y.fields) : v.fields.ordering ≠ u.ordering := by
    rw [show u.ordering = y.ordering from congrArg UpgradeFields.ordering fields]
    exact ordering
  have back : (r.lane t s.other.other e).channel = some w := by rwa [Side.other_other]
  rcases shown with agreed | ⟨opened, fits⟩
  · -- The other end was in the round both when it answered and when it was shown.
    have still : z.state.isUpgrading := by
      rw [agreed]
      rfl
    have round := same.trans rests.sequence.symm
    rcases Nat.le_total t j with le' | le'
    · obtain ⟨u, there, fields, upgrade⟩ := exists_between rests.there hz running still round le le'
      exact ⟨u, there, upgrade.trans rests.proposal, stays fields⟩
    · obtain ⟨fields, upgrade⟩ := same_round rests.there hz running still round
      rcases follow_ack free le' hz agreed names back
          (by rw [ChannelEnd.phase_of_ack agreed, same]; exact Nat.le_of_lt before) with
        ⟨u, there, kept, upgrade'⟩ | ⟨t', ge, lt, a, happens, there, -⟩
      · refine ⟨u, there, upgrade'.trans (upgrade.trans rests.proposal), stays ?_⟩
        rcases kept with rfl | ⟨-, fields'⟩
        · exact fields
        · exact fields'.trans fields
      · -- The end would have agreed to the upgrade before.
        obtain ⟨-, -, far⟩ := phase_le_of_completed free happens there names (Nat.le_of_lt lt) back
        rw [same] at far
        omega
  · -- The other end completed the round, after this end had agreed to it.
    have far := ChannelEnd.phase_of_open opened
    have near := ChannelEnd.phase_of_try rests.state
    rw [same] at far
    rw [rests.sequence] at near
    have le' : k ≤ j := le_of_phase_lt rests.there hz (by omega)
    have changed : z.fields ≠ y.fields := by
      intro fields
      exact stays fields (rests.fits.1.symm.trans fits.1)
    obtain ⟨t', a, u, ge, lt, happens, channel, still, level⟩ := exists_completing free le'
      rests.there running hz opened (same.trans rests.sequence.symm) changed
    have round := level.trans rests.sequence
    have joined : u.Joined := .inr (by simp [ChannelState.allowsPackets, still])
    have named : u.peer = .ofEnd e :=
      (peer_eq_of_joined free (Nat.le_of_lt lt) channel joined hz).symm.trans names
    have late : t ≤ t' := by
      by_contra other
      obtain ⟨-, -, far⟩ :=
        phase_le_of_completed free happens channel named (Nat.le_of_not_le other) back
      rw [round] at far
      omega
    obtain ⟨c, there, fields, upgrade⟩ := exists_between rests.there channel running still
      (round.trans rests.sequence.symm) le late
    exact ⟨c, there, upgrade.trans rests.proposal, stays fields⟩

/-- When an upgrade turns an end ordered, all packets handed over are covered by the proposal it goes
by, if that is the one the other end has. -/
theorem covered_of_completed (fresh : ¬ r.ConfirmsStale i s) {a : Action}
    (happens : r.Happens i s e a .completed) (turns : (r.lane i s e).Turns x own peer)
    (mem : p ∈ r.delivered i s e) : p.sequence.toNat ≤ peer.latestSend.toNat := by
  have channel := turns.channel
  have changes : own.fields.ordering ≠ x.ordering := by
    rw [turns.after]
    exact Ne.symm turns.before
  obtain ⟨own', d, pending, -, state, named, j, le, z, there, back, sequence, shown⟩ :=
    exists_peer_of_completed free happens channel
  rw [turns.upgrade] at pending
  cases pending
  rcases state with state | state
  · -- The end confirms, so the other end agreed to the proposal that it announced packets under.
    have answered : z.state = .ackUpgrade ∧ r.Fits s x.fields z.fields := by
      rcases shown with answered | ⟨agreed, -⟩
      · exact answered
      · rw [state] at agreed
        cases agreed
    obtain ⟨y, v, there', proposal, changes'⟩ := exists_pending_of_confirm free channel state
      turns.upgrade changes le there answered.1 back sequence answered.2
    have current : v.latestSend = peer.latestSend := by
      by_contra stale
      obtain ⟨m, rfl, rfl⟩ := happens.step.confirmed channel state
      exact fresh ⟨m, x, own, peer, d, v, happens, turns, named, proposal, stale⟩
    obtain ⟨q, announced, alike⟩ := exists_announced_by_peer free (Nat.le_refl i) channel named mem
    rw [← current, alike.sequence]
    exact announced_le there' proposal changes' announced
  · -- The end agreed first, and nothing was handed over since.
    obtain ⟨own', peer', d', pending, pending', named', t, lt, ⟨w, there', before⟩, quiet, since, k,
      le', y, v, rests⟩ := exists_rests free channel state
    rw [turns.upgrade] at pending
    cases pending
    rw [turns.peerUpgrade] at pending'
    cases pending'
    obtain rfl := ChannelPeer.ofEnd_injective (named.symm.trans named')
    rw [ChannelEnd.phase_of_ack state] at before
    obtain ⟨u, there'', proposal, changes'⟩ := exists_pending_of_finish free there' before le' rests
      changes there back sequence (shown.imp And.left And.right)
    have same : r.delivered i s e = r.delivered t s e := by
      rw [← quiet]
      exact delivered_eq_of_ack lt (fun k ge lt' => since k ge (Nat.le_of_lt lt')) state changes
    rw [same] at mem
    obtain ⟨q, announced, alike⟩ :=
      exists_announced_by_peer free (Nat.le_of_lt lt) channel named mem
    rw [← rests.latest, alike.sequence]
    exact announced_le there'' proposal changes' announced

theorem guards (fresh : ∀ i s, ¬ r.ConfirmsStale i s) :
    (r.lane i s e).Guards (r.delivered i s e) := by
  induction i with
  | zero =>
    rw [lane_zero, delivered_zero]
    exact ⟨fun _ => rfl, List.nodup_nil, by simp, by simp⟩
  | succ i ih =>
    obtain ⟨a, deed, happens⟩ := r.happens i s e
    rw [happens.delivered]
    refine happens.step.guards ih ?_
    rintro rfl x own peer turns p mem
    exact covered_of_completed free (fresh i s) happens turns mem

/-- No packet is handed over twice, whatever upgrades the channel goes through, as long as an upgrade
that turns an end ordered is confirmed by the proposal that the other end has by then. -/
theorem delivered_once (fresh : ∀ i s, ¬ r.ConfirmsStale i s) :
    ((r.delivered i s e).map Packet.sequence).Nodup :=
  (guards free fresh).once

end Run

/-- A packet over a channel that was turned ordered. -/
theorem Run.delivered_once_upgraded :
    letI : Digest := .plain
    let r := Passage.upgraded "ics20-1" [1] (by decide)
    r.delivered 21 .right Passage.owner = [Passage.packet [1]] ∧
      ((r.delivered 21 .right Passage.owner).map Packet.sequence).Nodup := by
  let _ : Digest := .plain
  have filled : [1] ≠ ([] : Bytes) := by decide
  have fresh (i : Nat) (s : Side) :
      ¬ (Passage.upgraded "ics20-1" [1] filled).ConfirmsStale i s := by
    rintro ⟨m, x, own, peer, d, v, -, turns, -, upgrade, stale⟩
    rw [Passage.upgrade_upgraded _ filled upgrade,
      Passage.peerUpgrade_upgraded _ filled turns.peerUpgrade] at stale
    exact stale rfl
  exact ⟨(Passage.upgraded_delivers _ filled).2, delivered_once (Digest.injectiveOn_plain _) fresh⟩

end Crosschain
