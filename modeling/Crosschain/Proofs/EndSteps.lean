import Crosschain.Proofs.Runs

/-!
# How a channel end changes

Of a step of a lane, what becomes of the channel end itself. An end is created `init` or `tryOpen`,
opens once, goes through upgrades one by one, each at a sequence of its own, and may close for good.
So the upgrade sequence together with the stage of the upgrade never goes back.
-/

namespace Crosschain

/-- How far an end has come with the upgrade of its sequence. -/
def ChannelState.stage : ChannelState → Nat
  | .initUpgrade => 1
  | .tryUpgrade => 2
  | .ackUpgrade => 3
  | .opened | .closed => 4
  | .uninitialized | .init | .tryOpen => 0

theorem ChannelState.stage_of_isUpgrading {s : ChannelState} (h : s.isUpgrading) :
    1 ≤ s.stage ∧ s.stage ≤ 3 := by
  cases s <;> first | decide | cases h

theorem ChannelState.isUpgrading_of_stage {s : ChannelState} (h : 1 ≤ s.stage) (h' : s.stage ≤ 3) :
    s.isUpgrading := by
  cases s <;> first | rfl | simp [stage] at h h'

theorem ChannelState.stage_le (s : ChannelState) : s.stage ≤ 4 := by
  cases s <;> decide

/-- The upgrade sequence of an end and its stage, one after the other. -/
def ChannelEnd.phase (x : ChannelEnd) : Nat := 5 * x.upgradeSequence.toNat + x.state.stage

namespace ChannelEnd

variable {x : ChannelEnd}

theorem phase_of_init (state : x.state = .initUpgrade) :
    x.phase = 5 * x.upgradeSequence.toNat + 1 := by
  rw [phase, state]
  rfl

theorem phase_of_try (state : x.state = .tryUpgrade) :
    x.phase = 5 * x.upgradeSequence.toNat + 2 := by
  rw [phase, state]
  rfl

theorem phase_of_ack (state : x.state = .ackUpgrade) :
    x.phase = 5 * x.upgradeSequence.toNat + 3 := by
  rw [phase, state]
  rfl

theorem phase_of_open (state : x.state = .opened) :
    x.phase = 5 * x.upgradeSequence.toNat + 4 := by
  rw [phase, state]
  rfl

end ChannelEnd

/-- How an end changes in a step, by what is done to it. -/
inductive EndStep (x : ChannelEnd) : Deed → ChannelEnd → Prop
  | same (d : Deed) (other : d ≠ .completed) (other' : d ≠ .agreed) : EndStep x d x
  | acked (c : ChannelId) (version : ChannelVersion) (state : x.state = .init ∨ x.state = .tryOpen) :
    EndStep x .settled { x.withPeerChannel c with state := .opened, version }
  | confirmed (state : x.state = .tryOpen) : EndStep x .settled { x with state := .opened }
  | shut (d : Deed) (other : d ≠ .completed) (other' : d ≠ .agreed) :
    EndStep x d { x with state := .closed }
  | proposed (n : Sequence) (state : x.state = .opened) (newer : x.upgradeSequence < n) :
    EndStep x .proposed { x with upgradeSequence := n, state := .initUpgrade }
  | replied (n : Sequence) (state : x.state = .opened) (newer : x.upgradeSequence < n) :
    EndStep x .replied { x with upgradeSequence := n, state := .tryUpgrade }
  | crossed (n : Sequence) (state : x.state = .initUpgrade) (newer : x.upgradeSequence ≤ n) :
    EndStep x .replied { x with upgradeSequence := n, state := .tryUpgrade }
  | agreed (state : x.state = .initUpgrade ∨ x.state = .tryUpgrade) :
    EndStep x .agreed { x with state := .ackUpgrade }
  | completed (f : UpgradeFields) (state : x.state = .tryUpgrade ∨ x.state = .ackUpgrade) :
    EndStep x .completed { x.withFields f with state := .opened }
  | restored (n : Sequence) (state : x.state = .opened ∨ x.state.isUpgrading)
    (newer : x.upgradeSequence ≤ n) :
    EndStep x .restored { x with state := .opened, upgradeSequence := n }

theorem ChannelState.isUpgrading_iff (s : ChannelState) :
    s.isUpgrading ↔ s = .initUpgrade ∨ s = .tryUpgrade ∨ s = .ackUpgrade := by
  cases s <;> decide

theorem ChannelState.allowsPackets_iff (s : ChannelState) :
    s.allowsPackets ↔ s = .opened ∨ s = .initUpgrade ∨ s = .tryUpgrade ∨ s = .ackUpgrade := by
  cases s <;> decide

/-- The end takes part in its channel: it answers a proposal, or packets go over it. -/
def ChannelEnd.Joined (x : ChannelEnd) : Prop := x.state = .tryOpen ∨ x.state.allowsPackets

theorem LaneStep.endStep [Digest] {h : Host} {a : Action} {e : EndId} {l l' : Lane} {d : Deed}
    {x : ChannelEnd} (step : LaneStep h a e l d l') (there : l.channel = some x) :
    ∃ y, l'.channel = some y ∧ EndStep x d y := by
  have same {y : ChannelEnd} (channel : l.channel = some y) : y = x :=
    Option.some.inj (channel.symm.trans there)
  cases step with
  | idle => exact ⟨x, there, .same _ (by simp) (by simp)⟩
  | openInit => cases there
  | openTry => cases there
  | openAck _ m y hop peerHop time action owner channel state =>
    obtain rfl := same channel
    exact ⟨_, rfl, .acked _ _ state⟩
  | openConfirm _ m y hop peerHop peer time action owner channel state =>
    obtain rfl := same channel
    exact ⟨_, rfl, .confirmed state⟩
  | close _ cap m y action owner channel =>
    obtain rfl := same channel
    exact ⟨_, rfl, .shut _ (by simp) (by simp)⟩
  | timeoutOrdered _ m y c time action owner channel =>
    obtain rfl := same channel
    exact ⟨_, rfl, .shut _ (by simp) (by simp)⟩
  | propose _ cap m y n sequence timeout hop c action owner channel state changed hops connection
      counter counted =>
    obtain rfl := same channel
    exact ⟨_, rfl, .proposed sequence state (Word.lt_of_add?_one counted)⟩
  | reply _ m y fields n action owner guard state newer =>
    obtain rfl := same guard.channel
    exact ⟨_, rfl, .replied _ state newer⟩
  | cross _ m y fields own action owner guard state =>
    obtain rfl := same guard.channel
    exact ⟨_, rfl, .crossed _ state (Word.le_max_left _ _)⟩
  | agree _ m y own hop peerHop peer second time action owner channel state =>
    obtain rfl := same channel
    exact ⟨_, rfl, .agreed state⟩
  | confirm _ m y own nextRecv nextAck action owner channel state =>
    obtain rfl := same channel
    exact ⟨_, rfl, .completed _ (.inl state)⟩
  | finish _ m y own nextRecv nextAck action owner channel state =>
    obtain rfl := same channel
    exact ⟨_, rfl, .completed _ (.inr state)⟩
  | cancel _ m y peer time action owner channel state newer =>
    obtain rfl := same channel
    exact ⟨_, rfl, .restored _ (.inr state) (UInt64.not_lt.1 newer)⟩
  | abort _ y receipt channel state newer =>
    obtain rfl := same channel
    refine ⟨_, rfl, .restored _ ?_ (UInt64.not_lt.1 newer)⟩
    obtain ⟨opened, -⟩ | state | state := state
    · exact .inl opened
    · exact .inr ((ChannelState.isUpgrading_iff _).2 (.inl state))
    · exact .inr ((ChannelState.isUpgrading_iff _).2 (.inr (.inl state)))
  | expire _ m y own peer time receipt action owner channel state =>
    obtain rfl := same channel
    refine ⟨_, rfl, .restored y.upgradeSequence (.inr ?_) (UInt64.le_refl _)⟩
    obtain state | state := state
    · exact (ChannelState.isUpgrading_iff _).2 (.inl state)
    · exact (ChannelState.isUpgrading_iff _).2 (.inr (.inl state))
  | _ => exact ⟨x, there, .same _ (by simp) (by simp)⟩

theorem LaneStep.endStep_of_channel [Digest] {h : Host} {a : Action} {e : EndId} {l l' : Lane}
    {d : Deed} {x y : ChannelEnd} (step : LaneStep h a e l d l') (before : l.channel = some x)
    (after : l'.channel = some y) : EndStep x d y := by
  obtain ⟨z, after', change⟩ := step.endStep before
  obtain rfl : z = y := Option.some.inj (after'.symm.trans after)
  exact change

/-- Only an acknowledgement could give an end that answers a proposal another peer or fields. -/
theorem LaneStep.acked_of_ne [Digest] {h : Host} {a : Action} {e : EndId} {l l' : Lane}
    {d : Deed} {x y : ChannelEnd} (step : LaneStep h a e l d l') (before : l.channel = some x)
    (after : l'.channel = some y) (state : x.state = .tryOpen)
    (changed : ¬ (y.peer = x.peer ∧ y.fields = x.fields)) :
    ∃ m peerHop time, a = .deliver (.handshake (.openAck m)) ∧ d ≠ .idle ∧
      h.Sees x m.evidence.height time [⟨m.evidence.object,
        .channelEnd ⟨x.peer.port, m.peerChannel⟩, some (ChannelEnd.ofParts .tryOpen x.ordering
          (.ofEnd e) [peerHop] m.peerVersion).encode⟩] := by
  have kept (channel : l.channel = some y) : False := by
    rw [before] at channel
    cases channel
    exact changed ⟨rfl, rfl⟩
  cases step with
  | openAck _ m z hop peerHop time action owner channel state hops links shown =>
    rw [before] at channel
    cases channel
    exact ⟨m, peerHop, time, action, by simp, shown⟩
  | openInit => cases before
  | openTry => cases before
  | reply _ m z fields n action owner guard => simp_all [guard.channel]
  | cross _ m z fields own action owner guard => simp_all [guard.channel]
  | idle => exact (kept after).elim
  | send => exact (kept after).elim
  | receiveOrdered => exact (kept after).elim
  | receiveUnordered => exact (kept after).elim
  | answer => exact (kept after).elim
  | acknowledge => exact (kept after).elim
  | timeoutUnordered => exact (kept after).elim
  | _ =>
    cases after
    simp_all [ChannelEnd.fields]

theorem LaneStep.created [Digest] {h : Host} {a : Action} {e : EndId} {l l' : Lane} {d : Deed}
    {y : ChannelEnd} (step : LaneStep h a e l d l') (before : l.channel = none)
    (after : l'.channel = some y) :
    d ≠ .idle ∧ y.upgradeSequence = 0 ∧ (y.state = .init ∨
      ∃ m peerHop peer time, a = .deliver (.handshake (.openTry m)) ∧ y.state = .tryOpen ∧
        y.peer = .ofEnd peer ∧ h.Sees m.proposal m.evidence.height time
          [⟨m.evidence.object, .channelEnd peer, some (ChannelEnd.ofParts .init
            m.proposal.ordering ⟨m.port, none⟩ [peerHop] m.peerVersion).encode⟩]) := by
  cases step with
  | openInit =>
    cases after
    exact ⟨by simp, rfl, .inl rfl⟩
  | openTry m version hop peerHop peer time action owner hops links named shown =>
    cases after
    exact ⟨by simp, rfl, .inr ⟨m, peerHop, peer, time, action, rfl, named, shown⟩⟩
  | idle => simp [before] at after
  | receiveOrdered _ m x next acks action owner guard => simp [before] at after
  | receiveUnordered _ m x next acks action owner guard => simp [before] at after
  | reply _ m x fields n action owner guard => simp [guard.channel] at before
  | cross _ m x fields own action owner guard => simp [guard.channel] at before
  | _ => simp_all

/-- An end opens when the other end is shown to have joined with the same fields. -/
theorem LaneStep.opening [Digest] {h : Host} {a : Action} {e : EndId} {l l' : Lane} {d : Deed}
    {x y : ChannelEnd} (step : LaneStep h a e l d l') (before : l.channel = some x)
    (after : l'.channel = some y) (closed : ¬ x.state.allowsPackets)
    (packets : y.state.allowsPackets) :
    d ≠ .idle ∧ y.state = .opened ∧ (x.state = .init ∨ x.state = .tryOpen) ∧
      ∃ proof ∈ a.proofs, ∃ height time st hop peerHop peer, y.peer = .ofEnd peer ∧
        y.hops = [hop] ∧ h.Links hop peerHop ∧
        (st = .tryOpen ∨ st = .opened ∧ x.state = .tryOpen) ∧
        h.Sees x height time [⟨proof, .channelEnd peer, some (ChannelEnd.ofParts st y.ordering
          (.ofEnd e) [peerHop] y.version).encode⟩] := by
  have same {z : ChannelEnd} (channel : l.channel = some z) (packets : z.state.allowsPackets) :
      False := by
    rw [before] at channel
    cases channel
    exact closed packets
  cases step with
  | openAck _ m z hop peerHop time action owner channel state hops links shown =>
    rw [before] at channel
    cases channel
    cases after
    refine ⟨by simp, rfl, state, m.evidence.object, ?_, m.evidence.height, time, .tryOpen, hop,
      peerHop, ⟨x.peer.port, m.peerChannel⟩, rfl, hops, links, .inl rfl, shown⟩
    simp [action, Action.proofs, Datagram.evidence?, Evidence.proofs]
  | openConfirm _ m z hop peerHop peer time action owner channel state hops links named shown =>
    rw [before] at channel
    cases channel
    cases after
    refine ⟨by simp, rfl, .inr state, m.evidence.object, ?_, m.evidence.height, time, .opened, hop,
      peerHop, peer, named, hops, links, .inr ⟨rfl, state⟩, shown⟩
    simp [action, Action.proofs, Datagram.evidence?, Evidence.proofs]
  | openInit => cases before
  | openTry => cases before
  | idle => exact (same after packets).elim
  | send => exact (same after packets).elim
  | receiveOrdered => exact (same after packets).elim
  | receiveUnordered => exact (same after packets).elim
  | answer => exact (same after packets).elim
  | acknowledge => exact (same after packets).elim
  | timeoutUnordered => exact (same after packets).elim
  | reply _ m z fields n action owner guard state =>
    exact (same guard.channel (by rw [state]; rfl)).elim
  | cross _ m z fields own action owner guard state =>
    exact (same guard.channel (by rw [state]; rfl)).elim
  | _ =>
    cases after
    simp_all [ChannelState.allowsPackets_iff, ChannelState.isUpgrading_iff]

theorem ChannelEnd.Joined.of_opening {st : ChannelState} {ordering : Order} {peer : ChannelPeer}
    {hops : List ConnectionId} {version : ChannelVersion} {p : Prop}
    (state : st = .tryOpen ∨ st = .opened ∧ p) :
    (ChannelEnd.ofParts st ordering peer hops version).Joined := by
  obtain rfl | ⟨rfl, -⟩ := state
  · exact .inl rfl
  · exact .inr rfl

namespace EndStep

variable {x y : ChannelEnd} {d : Deed}

theorem phase_le (step : EndStep x d y) : x.phase ≤ y.phase := by
  have stage := x.state.stage_le
  cases step with
  | same => exact Nat.le_refl _
  | acked c version state =>
    show 5 * x.upgradeSequence.toNat + x.state.stage ≤ 5 * x.upgradeSequence.toNat + 4
    omega
  | confirmed state =>
    show 5 * x.upgradeSequence.toNat + x.state.stage ≤ 5 * x.upgradeSequence.toNat + 4
    omega
  | shut =>
    show 5 * x.upgradeSequence.toNat + x.state.stage ≤ 5 * x.upgradeSequence.toNat + 4
    omega
  | proposed n state newer =>
    rw [UInt64.lt_iff_toNat_lt] at newer
    show 5 * x.upgradeSequence.toNat + x.state.stage ≤ 5 * n.toNat + 1
    omega
  | replied n state newer =>
    rw [UInt64.lt_iff_toNat_lt] at newer
    show 5 * x.upgradeSequence.toNat + x.state.stage ≤ 5 * n.toNat + 2
    omega
  | crossed n state newer =>
    rw [UInt64.le_iff_toNat_le] at newer
    have before : x.state.stage = 1 := by rw [state]; rfl
    show 5 * x.upgradeSequence.toNat + x.state.stage ≤ 5 * n.toNat + 2
    omega
  | agreed state =>
    have before : x.state.stage ≤ 2 := by rcases state with h | h <;> rw [h] <;> decide
    show 5 * x.upgradeSequence.toNat + x.state.stage ≤ 5 * x.upgradeSequence.toNat + 3
    omega
  | completed f state =>
    show 5 * x.upgradeSequence.toNat + x.state.stage ≤ 5 * x.upgradeSequence.toNat + 4
    omega
  | restored n state newer =>
    rw [UInt64.le_iff_toNat_le] at newer
    show 5 * x.upgradeSequence.toNat + x.state.stage ≤ 5 * n.toNat + 4
    omega

theorem eq_of_unopened (step : EndStep x d y) (state : y.state = .init ∨ y.state = .tryOpen) :
    y = x := by
  cases step with
  | same => rfl
  | _ => simp at state

theorem peer_eq (step : EndStep x d y) (open_or_later : x.state ≠ .init) (past : x.state ≠ .tryOpen) :
    y.peer = x.peer := by
  cases step with
  | acked c version state =>
    rcases state with state | state
    · exact absurd state open_or_later
    · exact absurd state past
  | _ => rfl

theorem closed (step : EndStep x d y) (state : x.state = .closed) : y.state = .closed := by
  cases step with
  | same => exact state
  | shut => rfl
  | _ => simp_all [ChannelState.isUpgrading]

theorem joined (step : EndStep x d y) (before : x.Joined ∨ x.state = .closed) :
    y.Joined ∨ y.state = .closed := by
  cases step with
  | same => exact before
  | shut => exact .inr rfl
  | _ => exact .inl (.inr rfl)

theorem fields_eq (step : EndStep x d y) (packets : x.state.allowsPackets) :
    y.fields = x.fields ∨ d = .completed := by
  cases step with
  | completed => exact .inr rfl
  | acked c version state =>
    rcases state with state | state <;> simp_all [ChannelState.allowsPackets_iff]
  | _ => exact .inl rfl

theorem ordering_eq (step : EndStep x d y) (other : d ≠ .completed) : y.ordering = x.ordering := by
  cases step with
  | completed => exact absurd rfl other
  | _ => rfl

theorem fields_eq_of_closed (step : EndStep x d y) (state : x.state = .closed) :
    y.fields = x.fields := by
  cases step <;> simp_all [ChannelState.isUpgrading_iff, ChannelEnd.fields]

theorem allowsPackets (step : EndStep x d y) (packets : x.state.allowsPackets) :
    y.state.allowsPackets ∨ y.state = .closed := by
  cases step with
  | same => exact .inl packets
  | shut => exact .inr rfl
  | _ => exact .inl rfl

theorem stage_of_leaves (step : EndStep x d y) (running : x.state.isUpgrading)
    (left : ¬ y.state.isUpgrading) : y.state.stage = 4 := by
  cases step with
  | same => exact absurd running left
  | proposed => exact absurd rfl left
  | replied => exact absurd rfl left
  | crossed => exact absurd rfl left
  | agreed => exact absurd rfl left
  | _ => rfl

end EndStep

end Crosschain
