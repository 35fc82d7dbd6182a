import Crosschain.Proofs.Pairing

/-!
# Rounds of upgrades

While an end goes through the upgrade of one sequence, its fields and its own proposal stay. It
leaves the round for good: by completing it, which takes a sight of the other end at the same
sequence, by giving up, which leaves an error receipt behind, by a receipt of the other end, or by
closing.
-/

namespace Crosschain

/-! ### Steps of an upgrade -/

namespace LaneStep

variable [Digest] {h : Host} {a : Action} {e : EndId} {l l' : Lane} {d : Deed} {x y : ChannelEnd}

theorem upgrade_eq (step : LaneStep h a e l d l') (before : l.channel = some x)
    (after : l'.channel = some y) (running : x.state.isUpgrading) (still : y.state.isUpgrading) :
    y.fields = x.fields ∧ l'.upgrade = l.upgrade := by
  constructor
  · obtain ⟨z, there, change⟩ := step.endStep before
    rw [after] at there
    cases there
    rcases change.fields_eq (by simp [ChannelState.allowsPackets, running]) with same | rfl
    · exact same
    · cases change with
      | same _ other => exact absurd rfl other
      | shut _ other => exact absurd rfl other
      | completed => cases still
  · cases step with
    | openInit => cases before
    | openTry => cases before
    | propose _ cap m z n sequence timeout hop c action owner channel state =>
      rw [before] at channel
      cases channel
      simp [state, ChannelState.isUpgrading_iff] at running
    | reply _ m z fields n action owner guard state =>
      have channel := guard.channel
      rw [before] at channel
      cases channel
      simp [state, ChannelState.isUpgrading_iff] at running
    | cross _ m z fields own action owner guard state upgrade => exact upgrade.symm
    | confirm => cases after; cases still
    | finish => cases after; cases still
    | cancel => cases after; cases still
    | abort => cases after; cases still
    | expire => cases after; cases still
    | _ => rfl

theorem completed (step : LaneStep h a e l .completed l') :
    ∃ (x : ChannelEnd) (own : Upgrade) (v : Evidence), l.channel = some x ∧ l.upgrade = some own ∧
      (x.state = .tryUpgrade ∨ x.state = .ackUpgrade) ∧
      l'.channel = some { x.withFields own.fields with state := .opened } ∧
        v.object ∈ a.proofs ∧ (Lane.PeerShown h e x v .ackUpgrade ∨
          x.state = .ackUpgrade ∧ Lane.PeerCompleted h e x v own.fields) := by
  cases step with
  | confirm _ m x own nextRecv nextAck action owner channel state upgrade shown =>
    refine ⟨x, own, m.evidence, channel, upgrade, .inl state, rfl, ?_, .inl shown⟩
    simp [action, Action.proofs, Datagram.evidence?, Evidence.proofs]
  | finish _ m x own nextRecv nextAck action owner channel state upgrade shown =>
    refine ⟨x, own, m.evidence, channel, upgrade, .inr state, rfl, ?_, ?_⟩
    · simp [action, Action.proofs, Datagram.evidence?, Evidence.proofs]
    · exact shown.imp id fun completed => ⟨state, completed⟩

theorem action_of_completed (step : LaneStep h a e l .completed l') :
    ∃ m, a = .deliver (.upgrade m) ∧ ∀ c, m ≠ .cancel c := by
  cases step with
  | confirm _ m x own nextRecv nextAck action => exact ⟨_, action, nofun⟩
  | finish _ m x own nextRecv nextAck action => exact ⟨_, action, nofun⟩

theorem kept_or_entered (step : LaneStep h a e l d l') (before : l.channel = some x)
    (after : l'.channel = some y) (state : y.state = .tryUpgrade ∨ y.state = .ackUpgrade) :
    y = x ∧ l'.upgrade = l.upgrade ∧ l'.peerUpgrade = l.peerUpgrade ∨
      d = .replied ∧ y.state = .tryUpgrade ∨ d = .agreed ∧ y.state = .ackUpgrade := by
  have kept (channel : l.channel = some y) : y = x := by
    rw [before] at channel
    exact (Option.some.inj channel).symm
  cases step with
  | reply =>
    cases after
    exact .inr (.inl ⟨rfl, rfl⟩)
  | cross =>
    cases after
    exact .inr (.inl ⟨rfl, rfl⟩)
  | agree =>
    cases after
    exact .inr (.inr ⟨rfl, rfl⟩)
  | idle => exact .inl ⟨kept after, rfl, rfl⟩
  | send => exact .inl ⟨kept after, rfl, rfl⟩
  | receiveOrdered => exact .inl ⟨kept after, rfl, rfl⟩
  | receiveUnordered => exact .inl ⟨kept after, rfl, rfl⟩
  | answer => exact .inl ⟨kept after, rfl, rfl⟩
  | acknowledge => exact .inl ⟨kept after, rfl, rfl⟩
  | timeoutUnordered => exact .inl ⟨kept after, rfl, rfl⟩
  | _ =>
    cases after
    rcases state with state | state <;> cases state

theorem ack_or_agreed (step : LaneStep h a e l d l') (before : l.channel = some x)
    (after : l'.channel = some y) (state : y.state = .ackUpgrade) :
    y = x ∧ l'.upgrade = l.upgrade ∧ l'.peerUpgrade = l.peerUpgrade ∨ d = .agreed := by
  rcases step.kept_or_entered before after (.inr state) with kept | ⟨-, answering⟩ | ⟨agreed, -⟩
  · exact .inl kept
  · rw [state] at answering
    cases answering
  · exact .inr agreed

theorem agreed (step : LaneStep h a e l .agreed l') : ∃ (x : ChannelEnd) (own u : Upgrade)
    (v : Evidence) (second : StateProof) (hop peerHop : ConnectionId) (peer : EndId)
    (time : Timestamp), l.channel = some x ∧ l'.channel = some { x with state := .ackUpgrade } ∧
      (x.state = .initUpgrade ∨ x.state = .tryUpgrade) ∧ l.upgrade = some own ∧
      l'.upgrade = some own ∧ l'.peerUpgrade = some u ∧ v.object ∈ a.proofs ∧ second ∈ a.proofs ∧
      x.hops = [hop] ∧ h.Links hop peerHop ∧ x.peer = .ofEnd peer ∧
      h.Sees x v.height time [⟨v.object, .channelEnd peer, some (ChannelEnd.mk .tryUpgrade x.ordering
          (.ofEnd e) [peerHop] x.version x.upgradeSequence).encode⟩,
        ⟨second, .upgrade peer, some u.encode⟩] ∧ h.Matches own.fields u.fields := by
  cases step with
  | agree _ m x own hop peerHop peer second time action owner channel state upgrade hops links named
      other shown agrees =>
    refine ⟨x, own, m.peerUpgrade, m.evidence, second, hop, peerHop, peer, time, channel, rfl, state,
      upgrade, upgrade, rfl, ?_, ?_, hops, links, named, shown, agrees⟩
    · simp [action, Action.proofs, Datagram.evidence?, Evidence.proofs]
    · simp [action, Action.proofs, Datagram.evidence?, Evidence.proofs, other]

/-- Only completing, a receipt of the other end and closing lead out of an agreed upgrade. -/
theorem leaves_ack (step : LaneStep h a e l d l') (before : l.channel = some x)
    (state : x.state = .ackUpgrade) (after : l'.channel = some y) (left : y.state ≠ .ackUpgrade) :
    y.state = .closed ∧ y.fields = x.fields ∧ l'.upgrade = l.upgrade ∨
      d = .completed ∨ d ≠ .idle ∧ ∃ m peer time,
      a = .deliver (.upgrade (.cancel m)) ∧ e = m.owner ∧ y.state = .opened ∧
        x.upgradeSequence ≤ m.receipt.sequence ∧ x.peer = .ofEnd peer ∧
        h.Sees x m.evidence.height time
          [⟨m.evidence.object, .upgradeError peer, some m.receipt.encode⟩] := by
  have kept (channel : l.channel = some y) : False := by
    rw [before] at channel
    cases channel
    exact left state
  cases step with
  | confirm => exact .inr (.inl rfl)
  | finish => exact .inr (.inl rfl)
  | close _ cap m z action owner channel =>
    rw [before] at channel
    cases channel
    cases after
    exact .inl ⟨rfl, rfl, rfl⟩
  | timeoutOrdered _ m z c time action owner channel =>
    rw [before] at channel
    cases channel
    cases after
    exact .inl ⟨rfl, rfl, rfl⟩
  | cancel _ m z peer time action owner channel running newer named shown =>
    rw [before] at channel
    cases channel
    cases after
    exact .inr (.inr ⟨by simp, m, peer, time, action, owner, rfl, UInt64.not_lt.1 newer, named, shown⟩)
  | openInit => cases before
  | openTry => cases before
  | reply _ m z fields n action owner guard => simp_all [guard.channel]
  | cross _ m z fields own action owner guard => simp_all [guard.channel]
  | idle => exact (kept after).elim
  | send => exact (kept after).elim
  | receiveOrdered => exact (kept after).elim
  | receiveUnordered => exact (kept after).elim
  | answer => exact (kept after).elim
  | acknowledge => exact (kept after).elim
  | timeoutUnordered => exact (kept after).elim
  | _ =>
    cases after
    simp_all

theorem upgrade_eq_of_closed (step : LaneStep h a e l d l') (before : l.channel = some x)
    (state : x.state = .closed) : l'.upgrade = l.upgrade := by
  have other {z : ChannelEnd} (channel : l.channel = some z) : z.state = .closed := by
    rw [before] at channel
    cases channel
    exact state
  cases step with
  | openInit => rfl
  | openTry => rfl
  | propose _ cap m z n sequence timeout hop c action owner channel open_z =>
    simp [other channel] at open_z
  | reply _ m z fields n action owner guard open_z => simp [other guard.channel] at open_z
  | cross _ m z fields own action owner guard running => simp [other guard.channel] at running
  | confirm _ m z own nextRecv nextAck action owner channel running => simp [other channel] at running
  | finish _ m z own nextRecv nextAck action owner channel running => simp [other channel] at running
  | cancel _ m z peer time action owner channel running =>
    simp [other channel, ChannelState.isUpgrading_iff] at running
  | abort _ z receipt channel running => simp [other channel] at running
  | expire _ m z own peer time receipt action owner channel running => simp [other channel] at running
  | _ => rfl

/-- An error receipt is written by an open end that is shown a proposal no newer than its round, or
by an end that gives up an upgrade. -/
theorem writesReceipt {receipt : ErrorReceipt} (step : LaneStep h a e l d l')
    (there : l'.errorReceipt = some receipt) (fresh : l.errorReceipt ≠ some receipt) :
    d = .restored ∧ ∃ x y, l.channel = some x ∧ l'.channel = some y ∧ y.state = .opened ∧
      y.upgradeSequence = receipt.sequence ∧
      ((x.state = .opened ∧ receipt.sequence = x.upgradeSequence ∧
          ∃ m, a = .deliver (.upgrade (.answer m)) ∧ m.peerSequence ≤ x.upgradeSequence) ∨
        x.state = .initUpgrade ∨ x.state = .tryUpgrade) := by
  cases step with
  | abort _ x rc channel state =>
    cases there
    exact ⟨rfl, x, _, channel, rfl, rfl, rfl, state⟩
  | expire _ m x own peer time rc action owner channel state upgrade named late shown pending
      sequence =>
    cases there
    exact ⟨rfl, x, _, channel, rfl, rfl, sequence.symm, .inr state⟩
  | openInit => cases there
  | openTry => cases there
  | _ => exact absurd there fresh

theorem errorReceipt {receipt : ErrorReceipt} (step : LaneStep h a e l d l')
    (there : l'.errorReceipt = some receipt) : l.errorReceipt = some receipt ∨
      ∃ y, l'.channel = some y ∧ y.state = .opened ∧ y.upgradeSequence = receipt.sequence := by
  by_cases before : l.errorReceipt = some receipt
  · exact .inl before
  · obtain ⟨-, x, y, -, after, opened, sequence, -⟩ := step.writesReceipt there before
    exact .inr ⟨y, after, opened, sequence⟩

theorem errorReceipt_of_completed (step : LaneStep h a e l .completed l') :
    l'.errorReceipt = l.errorReceipt := by
  cases step <;> rfl

end LaneStep

namespace Run

variable [Digest] {r : Run} {i j k : Nat} {s : Side} {e d : EndId} {x y z : ChannelEnd}

/-! ### The course of one round -/

/-- From a round on, an end is in that round with the same fields and proposal, or past it. -/
theorem exists_follow (le : i ≤ j) (hx : (r.lane i s e).channel = some x)
    (running : x.state.isUpgrading) : ∃ y, (r.lane j s e).channel = some y ∧
      (5 * x.upgradeSequence.toNat + 4 ≤ y.phase ∨ y.state.isUpgrading ∧
        y.fields = x.fields ∧ (r.lane j s e).upgrade = (r.lane i s e).upgrade) := by
  induction j, le using Nat.le_induction with
  | base => exact ⟨x, hx, .inr ⟨running, rfl, rfl⟩⟩
  | succ k le ih =>
    obtain ⟨y, before, follow⟩ := ih
    obtain ⟨a, deed, happens⟩ := r.happens k s e
    obtain ⟨z, after, step⟩ := happens.step.endStep before
    have onward := step.phase_le
    have since := phase_le le hx before
    refine ⟨z, after, ?_⟩
    rcases follow with past | ⟨going, fields, upgrade⟩
    · exact .inl (Nat.le_trans past onward)
    · by_cases still : z.state.isUpgrading
      · obtain ⟨fields', upgrade'⟩ := happens.step.upgrade_eq before after going still
        exact .inr ⟨still, fields'.trans fields, upgrade'.trans upgrade⟩
      · have stage : z.state.stage = 4 := step.stage_of_leaves going still
        have before_stage := ChannelState.stage_of_isUpgrading going
        have start_stage := ChannelState.stage_of_isUpgrading running
        simp only [ChannelEnd.phase] at *
        omega

theorem same_round (hx : (r.lane i s e).channel = some x) (hy : (r.lane j s e).channel = some y)
    (running : x.state.isUpgrading) (still : y.state.isUpgrading)
    (same : y.upgradeSequence = x.upgradeSequence) :
    y.fields = x.fields ∧ (r.lane j s e).upgrade = (r.lane i s e).upgrade := by
  have one_way {i j : Nat} {x y : ChannelEnd} (le : i ≤ j) (hx : (r.lane i s e).channel = some x)
      (hy : (r.lane j s e).channel = some y) (running : x.state.isUpgrading)
      (still : y.state.isUpgrading) (same : y.upgradeSequence = x.upgradeSequence) :
      y.fields = x.fields ∧ (r.lane j s e).upgrade = (r.lane i s e).upgrade := by
    obtain ⟨z, there, follow⟩ := exists_follow le hx running
    rw [hy] at there
    cases there
    rcases follow with past | ⟨-, found⟩
    · have stage := ChannelState.stage_of_isUpgrading still
      rw [ChannelEnd.phase, same] at past
      omega
    · exact found
  rcases Nat.le_total i j with le | le
  · exact one_way le hx hy running still same
  · obtain ⟨fields, upgrade⟩ := one_way le hy hx still running same.symm
    exact ⟨fields.symm, upgrade.symm⟩

theorem exists_between (hx : (r.lane i s e).channel = some x) (hy : (r.lane j s e).channel = some y)
    (running : x.state.isUpgrading) (still : y.state.isUpgrading)
    (same : y.upgradeSequence = x.upgradeSequence) (le : i ≤ k) (le' : k ≤ j) :
    ∃ z, (r.lane k s e).channel = some z ∧ z.fields = x.fields ∧
      (r.lane k s e).upgrade = (r.lane i s e).upgrade := by
  obtain ⟨z, there, since⟩ := exists_later le hx
  have upto := phase_le le' there hy
  have stage := z.state.stage_le
  have first := ChannelState.stage_of_isUpgrading running
  have last := ChannelState.stage_of_isUpgrading still
  simp only [ChannelEnd.phase, same] at since upto
  have sequence : z.upgradeSequence = x.upgradeSequence := by
    rw [← UInt64.toNat_inj]
    omega
  rw [sequence] at since upto
  have between : z.state.isUpgrading := ChannelState.isUpgrading_of_stage (by omega) (by omega)
  obtain ⟨fields, upgrade⟩ := same_round hx there running between sequence
  exact ⟨z, there, fields, upgrade⟩

/-- An end that answered a proposal or agreed to an upgrade did so at some moment before, and has
kept what it had then. -/
theorem exists_entered (hx : (r.lane i s e).channel = some x)
    (state : x.state = .tryUpgrade ∨ x.state = .ackUpgrade) :
    ∃ t < i, ∃ a deed, r.Happens t s e a deed ∧
      (deed = .replied ∧ x.state = .tryUpgrade ∨ deed = .agreed ∧ x.state = .ackUpgrade) ∧
        ∀ k, t < k → k ≤ i →
          (r.lane k s e).channel = some x ∧ (r.lane k s e).upgrade = (r.lane i s e).upgrade ∧
            (r.lane k s e).peerUpgrade = (r.lane i s e).peerUpgrade := by
  induction i generalizing x with
  | zero =>
    rw [lane_zero] at hx
    cases hx
  | succ i ih =>
    obtain ⟨a, deed, happens⟩ := r.happens i s e
    cases before : (r.lane i s e).channel with
    | none =>
      obtain ⟨-, -, init | ⟨-, -, -, -, -, tryOpen, -⟩⟩ := happens.step.created before hx
      · simp [init] at state
      · simp [tryOpen] at state
    | some w =>
      rcases happens.step.kept_or_entered before hx state with ⟨rfl, upgrade, peerUpgrade⟩ | entered
      · obtain ⟨t, lt, b, deed', entered, which, since⟩ := ih before state
        refine ⟨t, Nat.lt_succ_of_lt lt, b, deed', entered, which, ?_⟩
        intro k after upto
        rcases Nat.lt_or_eq_of_le upto with before' | rfl
        · rw [upgrade, peerUpgrade]
          exact since k after (Nat.le_of_lt_succ before')
        · exact ⟨hx, rfl, rfl⟩
      · refine ⟨i, Nat.lt_succ_self i, a, deed, happens, entered, ?_⟩
        intro k after upto
        obtain rfl : k = i + 1 := by omega
        exact ⟨hx, rfl, rfl⟩

theorem exists_writing {receipt : ErrorReceipt}
    (there : (r.lane i s e).errorReceipt = some receipt) : ∃ k < i,
      (r.lane k s e).errorReceipt ≠ some receipt ∧
        (r.lane (k + 1) s e).errorReceipt = some receipt := by
  induction i with
  | zero =>
    rw [lane_zero] at there
    cases there
  | succ i ih =>
    by_cases before : (r.lane i s e).errorReceipt = some receipt
    · obtain ⟨k, lt, found⟩ := ih before
      exact ⟨k, Nat.lt_succ_of_lt lt, found⟩
    · exact ⟨i, Nat.lt_succ_self i, before, there⟩

theorem exists_past_of_errorReceipt {receipt : ErrorReceipt}
    (there : (r.lane i s e).errorReceipt = some receipt) :
    ∃ x, (r.lane i s e).channel = some x ∧ 5 * receipt.sequence.toNat + 4 ≤ x.phase := by
  induction i with
  | zero =>
    rw [lane_zero] at there
    cases there
  | succ i ih =>
    obtain ⟨a, deed, happens⟩ := r.happens i s e
    rcases happens.step.errorReceipt there with before | ⟨y, after, opened, sequence⟩
    · obtain ⟨x, hx, past⟩ := ih before
      obtain ⟨y, hy, onward⟩ := exists_later (Nat.le_succ i) hx
      exact ⟨y, hy, Nat.le_trans past onward⟩
    · exact ⟨y, after, Nat.le_of_eq (by rw [ChannelEnd.phase_of_open opened, sequence])⟩

theorem phase_of_unopened (hx : (r.lane i s e).channel = some x)
    (state : x.state = .init ∨ x.state = .tryOpen) : x.phase = 0 := by
  induction i generalizing x with
  | zero =>
    rw [lane_zero] at hx
    cases hx
  | succ i ih =>
    obtain ⟨a, deed, happens⟩ := r.happens i s e
    cases before : (r.lane i s e).channel with
    | none =>
      obtain ⟨-, sequence, -⟩ := happens.step.created before hx
      rcases state with state | state <;> rw [ChannelEnd.phase, state, sequence] <;> rfl
    | some w =>
      obtain ⟨y, after, step⟩ := happens.step.endStep before
      rw [hx] at after
      cases after
      obtain rfl := step.eq_of_unopened state
      exact ih before state

/-! ### What completing takes -/

variable (free : Digest.InjectiveOn r.Hashed)

include free

/-- When an upgrade is completed, the other end has agreed to it, or has completed it before. -/
theorem exists_peer_of_completed {a : Action} (happens : r.Happens i s e a .completed)
    (hx : (r.lane i s e).channel = some x) :
    ∃ own d, (r.lane i s e).upgrade = some own ∧
      (r.lane (i + 1) s e).channel = some { x.withFields own.fields with state := .opened } ∧
      (x.state = .tryUpgrade ∨ x.state = .ackUpgrade) ∧ x.peer = .ofEnd d ∧
      ∃ j ≤ i, ∃ z, (r.lane j s.other d).channel = some z ∧ z.peer = .ofEnd e ∧
        z.upgradeSequence = x.upgradeSequence ∧
        (z.state = .ackUpgrade ∧ r.Fits s x.fields z.fields ∨
          x.state = .ackUpgrade ∧ z.state = .opened ∧ r.Fits s own.fields z.fields) := by
  obtain ⟨w, own, v, channel, upgrade, state, after, brought, shown⟩ := happens.step.completed
  rw [hx] at channel
  cases channel
  have acts := happens.acts (by simp)
  rcases shown with ⟨hop, peerHop, d, time, hops, links, named, shown⟩ |
    ⟨agreed, hop, peerHop, d, time, hops, links, named, shown⟩
  · obtain ⟨j, le, saw⟩ := exists_saw free shown acts (by simpa using brought)
    exact ⟨own, d, upgrade, after, state, named, j, le, _, saw.channel List.mem_cons_self, rfl, rfl,
      .inl ⟨rfl, rfl, rfl, hop, peerHop, hops, rfl, links_iff.1 links⟩⟩
  · obtain ⟨j, le, saw⟩ := exists_saw free shown acts (by simpa using brought)
    exact ⟨own, d, upgrade, after, state, named, j, le, _, saw.channel List.mem_cons_self, rfl, rfl,
      .inr ⟨agreed, rfl, rfl, rfl, hop, peerHop, hops, rfl, links_iff.1 links⟩⟩

theorem phase_le_of_completed {a : Action} (happens : r.Happens i s e a .completed)
    (hx : (r.lane i s e).channel = some x) (names : x.peer = .ofEnd d) (le : i ≤ k)
    (hy : (r.lane k s.other d).channel = some y) :
    x.state.isUpgrading ∧ x.phase ≤ 5 * x.upgradeSequence.toNat + 3 ∧
      5 * x.upgradeSequence.toNat + 3 ≤ y.phase := by
  obtain ⟨own, f, -, -, state, named, j, le', z, there, -, sequence, shown⟩ :=
    exists_peer_of_completed free happens hx
  obtain rfl := ChannelPeer.ofEnd_injective (names.symm.trans named)
  have running : x.state.isUpgrading := by
    rw [ChannelState.isUpgrading_iff]
    exact .inr state
  have stage := ChannelState.stage_of_isUpgrading running
  have onward := phase_le (Nat.le_trans le' le) there hy
  have far : 3 ≤ z.state.stage := by
    rcases shown with ⟨agreed, -⟩ | ⟨-, opened, -⟩
    · rw [agreed]
      decide
    · rw [opened]
      decide
  refine ⟨running, ?_, ?_⟩
  · rw [ChannelEnd.phase]
    omega
  · rw [ChannelEnd.phase, sequence] at onward
    omega

/-- While the other end is behind, an end keeps its fields. -/
theorem fields_kept (le : j ≤ i) (hz : (r.lane j s d).channel = some z) (joined : z.Joined)
    (names : z.peer = .ofEnd e) (hx : (r.lane i s.other e).channel = some x)
    (behind : x.phase < z.phase ∨ x.phase = 0) (hy : (r.lane i s d).channel = some y) :
    y.fields = z.fields := by
  by_contra changed
  obtain ⟨t, ge, lt, a, happens⟩ := exists_completed_of_fields_ne free le hz joined hy changed
  obtain ⟨w, before, peer, -⟩ := exists_joined_later free ge hz joined
  -- The other end would not be behind.
  have since := phase_le ge hz before
  obtain ⟨-, upper, far⟩ := phase_le_of_completed free happens before (peer.trans names)
    (Nat.le_of_lt lt) hx
  omega

/-- While the other end is in the round of an agreed upgrade, the end is as it was, or closed, or
has completed the upgrade. -/
theorem follow_ack (le : j ≤ i) (hz : (r.lane j s d).channel = some z)
    (agreed : z.state = .ackUpgrade) (names : z.peer = .ofEnd e)
    (hx : (r.lane i s.other e).channel = some x) (upto : x.phase ≤ z.phase) :
    (∃ y, (r.lane i s d).channel = some y ∧ (y = z ∨ y.state = .closed ∧ y.fields = z.fields) ∧
        (r.lane i s d).upgrade = (r.lane j s d).upgrade) ∨
      ∃ t, j ≤ t ∧ t < i ∧ ∃ a, r.Happens t s d a .completed ∧ (r.lane t s d).channel = some z ∧
        (r.lane t s d).upgrade = (r.lane j s d).upgrade := by
  have follow {k : Nat} (ge : j ≤ k) (le : k ≤ i) :
      (∃ y, (r.lane k s d).channel = some y ∧ (y = z ∨ y.state = .closed ∧ y.fields = z.fields) ∧
          (r.lane k s d).upgrade = (r.lane j s d).upgrade) ∨
        ∃ t, j ≤ t ∧ t < k ∧ ∃ a, r.Happens t s d a .completed ∧
          (r.lane t s d).channel = some z ∧ (r.lane t s d).upgrade = (r.lane j s d).upgrade := by
    induction k, ge using Nat.le_induction with
    | base => exact .inl ⟨z, hz, .inl rfl, rfl⟩
    | succ k ge ih =>
      obtain ⟨a, deed, happens⟩ := r.happens k s d
      rcases ih (by omega) with ⟨w, before, rfl | ⟨closed, fields⟩, upgrade⟩ |
        ⟨t, ge', lt, completed⟩
      · obtain ⟨v, after, step⟩ := happens.step.endStep before
        by_cases still : v.state = .ackUpgrade
        · rcases happens.step.ack_or_agreed before after still with ⟨rfl, upgrade', -⟩ | rfl
          · exact .inl ⟨v, after, .inl rfl, upgrade'.trans upgrade⟩
          · obtain ⟨u, -, -, -, -, -, -, -, -, channel, -, state, -⟩ := happens.step.agreed
            rw [before] at channel
            cases channel
            simp [agreed] at state
        · rcases happens.step.leaves_ack before agreed after still with
            ⟨closed, fields, upgrade'⟩ | rfl | ⟨acts, m, f, time, action, rfl, -, newer, named, shown⟩
          · exact .inl ⟨v, after, .inr ⟨closed, fields⟩, upgrade'.trans upgrade⟩
          · exact .inr ⟨k, ge, Nat.lt_succ_self k, a, happens, before, upgrade⟩
          · -- A receipt would show the other end past the round.
            obtain ⟨l, le', saw⟩ := exists_saw free shown (happens.acts acts) (by
              simp [action, Action.proofs, Datagram.evidence?, Evidence.proofs])
            obtain rfl := ChannelPeer.ofEnd_injective (named.symm.trans names)
            obtain ⟨u, there, past⟩ := exists_past_of_errorReceipt
              (saw.errorReceipt List.mem_cons_self)
            have onward := phase_le (by omega : l ≤ i) there hx
            rw [ChannelEnd.phase_of_ack agreed] at upto
            rw [UInt64.le_iff_toNat_le] at newer
            omega
      · -- A closed end stays as it is.
        obtain ⟨v, after, step⟩ := happens.step.endStep before
        have fields' := step.fields_eq_of_closed closed
        have upgrade' := happens.step.upgrade_eq_of_closed before closed
        exact .inl ⟨v, after, .inr ⟨step.closed closed, fields'.trans fields⟩,
          upgrade'.trans upgrade⟩
      · exact .inr ⟨t, ge', Nat.lt_succ_of_lt lt, completed⟩
  exact follow le (Nat.le_refl i)

omit free in
/-- What an agreement rests on: the answering end of the other chain with its proposal, as they were
at some moment. -/
structure Rests (r : Run) (j : Nat) (s : Side) (e d : EndId) (x : ChannelEnd) (own peer : Upgrade)
    (z : ChannelEnd) (v : Upgrade) : Prop where
  there : (r.lane j s.other d).channel = some z
  state : z.state = .tryUpgrade
  sequence : z.upgradeSequence = x.upgradeSequence
  ordering : z.ordering = x.ordering
  proposal : (r.lane j s.other d).upgrade = some v
  latest : v.latestSend = peer.latestSend
  fits : r.Fits s own.fields v.fields

/-- An end that agreed to an upgrade was shown the proposal the other end has in that round. -/
theorem exists_rests (hx : (r.lane i s e).channel = some x) (state : x.state = .ackUpgrade) :
    ∃ own peer d, (r.lane i s e).upgrade = some own ∧ (r.lane i s e).peerUpgrade = some peer ∧
      x.peer = .ofEnd d ∧ ∃ t < i, (∃ w, (r.lane t s e).channel = some w ∧ w.phase < x.phase) ∧
        r.delivered (t + 1) s e = r.delivered t s e ∧
        (∀ k, t < k → k ≤ i →
          (r.lane k s e).channel = some x ∧ (r.lane k s e).upgrade = some own) ∧
        ∃ j ≤ t, ∃ z v, r.Rests j s e d x own peer z v := by
  obtain ⟨t, lt, a, deed, happens, ⟨-, answering⟩ | ⟨rfl, -⟩, since⟩ := exists_entered hx (.inr state)
  · rw [state] at answering
    cases answering
  obtain ⟨there, upgrade, peerUpgrade⟩ := since (t + 1) (Nat.lt_succ_self t) (Nat.succ_le_of_lt lt)
  obtain ⟨w, own, u, v, second, hop, peerHop, d, time, channel, after, before, -, upgrade',
    peerUpgrade', brought, brought', hops, links, named, shown, agrees⟩ := happens.step.agreed
  rw [there] at after
  cases after
  obtain ⟨j, le, saw⟩ := exists_saw free shown (happens.acts (by simp)) (by
    simp [brought, brought'])
  obtain ⟨p, proposal, fields, latest⟩ := saw.upgrade (List.mem_cons_of_mem _ List.mem_cons_self)
  have own_eq := upgrade.symm.trans upgrade'
  refine ⟨own, u, d, own_eq, peerUpgrade.symm.trans peerUpgrade', named, t, lt, ⟨w, channel, ?_⟩,
    ?_, ?_, j, le, _, p, saw.channel List.mem_cons_self, rfl, rfl, rfl, proposal, latest, ?_⟩
  · change w.phase < 5 * w.upgradeSequence.toNat + 3
    rw [ChannelEnd.phase]
    rcases before with state | state <;> rw [state] <;> exact Nat.add_lt_add_left (by decide) _
  · rw [happens.delivered]
    exact List.append_nil _
  · intro k after upto
    obtain ⟨there', upgrade'', -⟩ := since k after upto
    exact ⟨there', upgrade''.trans own_eq⟩
  · rw [fields]
    exact fits_iff.1 agrees

/-- Two ends in one round, of which one agreed to the upgrade, have proposals that fit. -/
theorem proposals_fit {own : Upgrade} (hx : (r.lane i s e).channel = some x)
    (running : x.state.isUpgrading) (upgrade : (r.lane i s e).upgrade = some own)
    (hz : (r.lane j s.other d).channel = some z) (agreed : z.state = .ackUpgrade)
    (names : z.peer = .ofEnd e) (same : z.upgradeSequence = x.upgradeSequence) :
    ∃ u, (r.lane j s.other d).upgrade = some u ∧ r.Fits s own.fields u.fields := by
  obtain ⟨u, q, f, pending, -, named, -, -, -, -, -, k, -, y, v, rests⟩ :=
    exists_rests free hz agreed
  obtain rfl := ChannelPeer.ofEnd_injective (names.symm.trans named)
  have there := rests.there
  have proposal := rests.proposal
  rw [Side.other_other] at there proposal
  have round := same_round there hx (by rw [rests.state]; rfl) running
    (same.symm.trans rests.sequence.symm)
  rw [round.2, proposal] at upgrade
  cases upgrade
  have fits := rests.fits.symm
  rw [Side.other_other] at fits
  exact ⟨u, pending, fits⟩

end Run

end Crosschain
