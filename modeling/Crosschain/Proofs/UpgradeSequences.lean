import Crosschain.Proofs.Rounds
import Crosschain.Proofs.UpgradeEffects

/-!
# Sequences of upgrades

Each upgrade of an end runs at a sequence of its own, above those of all upgrades before it, however
the sequence is come by: counted up, taken over from the other end or from its receipt. So a receipt
of an error is about an upgrade that the end is past, and the receipt by which an upgrade was
cancelled can cancel none after it.
-/

namespace Crosschain

/-! ### Going on -/

namespace Chain

variable [Digest] {c d d' : Chain} {l l' : History} {e : EndId} {x : ChannelEnd}

/-- Once an end exists, it goes through its upgrades, each of which it enters at a new sequence. -/
theorem Leads.phase_le (start : c.host.store = .empty) (leads : c.Leads l d)
    (there : d.host.store.ends[e]? = some x) (onward : d.Leads l' d') :
    ∃ y, d'.host.store.ends[e]? = some y ∧ x.phase ≤ y.phase := by
  induction onward with
  | rest => exact ⟨x, there, Nat.le_refl _⟩
  | act before done ih =>
    obtain ⟨y, earlier, upto⟩ := ih
    obtain ⟨deed, step, -⟩ := (perform_stepped ((leads.trans before).orderly start) done).lane e
    obtain ⟨z, after, change⟩ := step.endStep earlier
    exact ⟨z, after, Nat.le_trans upto change.phase_le⟩

end Chain

theorem ChannelEnd.sequence_le_of_phase_le {x y : ChannelEnd} (le : x.phase ≤ y.phase) :
    x.upgradeSequence ≤ y.upgradeSequence := by
  have stage := y.state.stage_le
  simp only [phase] at le
  rw [UInt64.le_iff_toNat_le]
  omega

theorem ChannelEnd.le_sequence_of_past {x : ChannelEnd} {n : Sequence}
    (past : 5 * n.toNat + 4 ≤ x.phase) : n ≤ x.upgradeSequence := by
  have stage := x.state.stage_le
  simp only [phase] at past
  rw [UInt64.le_iff_toNat_le]
  omega

theorem ChannelEnd.lt_sequence_of_past {x : ChannelEnd} {n : Sequence}
    (past : 5 * n.toNat + 4 ≤ x.phase) (running : x.state.isUpgrading) : n < x.upgradeSequence := by
  have stage := ChannelState.stage_of_isUpgrading running
  simp only [phase] at past
  rw [UInt64.lt_iff_toNat_lt]
  omega

theorem EndStep.lt_sequence {x y : ChannelEnd} {d : Deed} (step : EndStep x d y)
    (opened : x.state = .opened) (entered : y.state.isUpgrading) :
    x.upgradeSequence < y.upgradeSequence := by
  refine ChannelEnd.lt_sequence_of_past ?_ entered
  rw [← ChannelEnd.phase_of_open opened]
  exact step.phase_le

/-! ### Receipts of errors -/

/-- The receipt of an error is about an upgrade that the end is past. -/
def Lane.Past (l : Lane) : Prop :=
  ∀ r, l.errorReceipt = some r → ∃ x, l.channel = some x ∧ 5 * r.sequence.toNat + 4 ≤ x.phase

section Steps

variable [Digest] {h : Host} {a : Action} {e : EndId} {l l' : Lane} {d : Deed} {r : ErrorReceipt}

theorem Lane.Past.step (past : l.Past) (step : LaneStep h a e l d l') : l'.Past := by
  intro r there
  rcases step.errorReceipt there with before | ⟨y, after, opened, sequence⟩
  · obtain ⟨x, channel, le⟩ := past r before
    obtain ⟨y, after, change⟩ := step.endStep channel
    exact ⟨y, after, Nat.le_trans le change.phase_le⟩
  · exact ⟨y, after, Nat.le_of_eq (by rw [ChannelEnd.phase_of_open opened, sequence])⟩

/-- A receipt is kept until one of an equal or a later sequence takes its place. -/
theorem Lane.Past.receipt_le (past : l.Past) (step : LaneStep h a e l d l')
    (there : l.errorReceipt = some r) :
    ∃ r', l'.errorReceipt = some r' ∧ r.sequence ≤ r'.sequence := by
  have below {x : ChannelEnd} (channel : l.channel = some x) : r.sequence ≤ x.upgradeSequence := by
    obtain ⟨y, channel', le⟩ := past r there
    obtain rfl : y = x := Option.some.inj (channel'.symm.trans channel)
    exact ChannelEnd.le_sequence_of_past le
  cases step with
  | openInit => cases there
  | openTry => cases there
  | abort _ x receipt channel state newer =>
    exact ⟨receipt, rfl, UInt64.le_trans (below channel) (UInt64.not_lt.1 newer)⟩
  | expire _ m x own peer time receipt action owner channel state upgrade named late shown pending
      sequence =>
    refine ⟨receipt, rfl, ?_⟩
    rw [sequence]
    exact below channel
  | _ => exact ⟨r, there, UInt64.le_refl _⟩

end Steps

/-! ### All along a history -/

namespace Chain

variable [Digest] {c d d' : Chain} {l l' : History} {e : EndId} {x : ChannelEnd}
  {rep : Report}

theorem Leads.past (start : c.host.store = .empty) (leads : c.Leads l d) (e : EndId) :
    (d.host.store.lane e).Past := by
  induction leads with
  | rest =>
    rw [start, ChannelStore.lane_empty]
    intro r there
    cases there
  | act before done ih =>
    obtain ⟨deed, step, -⟩ := (perform_stepped (before.orderly start) done).lane e
    exact ih.step step

theorem Leads.receipt_le {r : ErrorReceipt} (start : c.host.store = .empty) (leads : c.Leads l d)
    (there : d.host.store.errorReceipts[e]? = some r) (onward : d.Leads l' d') :
    ∃ r', d'.host.store.errorReceipts[e]? = some r' ∧ r.sequence ≤ r'.sequence := by
  induction onward with
  | rest => exact ⟨r, there, UInt64.le_refl _⟩
  | act before done ih =>
    obtain ⟨r', earlier, upto⟩ := ih
    have here := leads.trans before
    obtain ⟨deed, step, -⟩ := (perform_stepped (here.orderly start) done).lane e
    obtain ⟨r'', after, le⟩ := (here.past start e).receipt_le step earlier
    exact ⟨r'', after, UInt64.le_trans upto le⟩

theorem exists_cancelled_of_perform {m : UpgradeCancel} {o : Outcome}
    (done : d.perform (.deliver (.upgrade (.cancel m))) = some (rep, d'))
    (taken : rep.outcome = some o) :
    ∃ x, d.host.store.ends[m.owner]? = some x ∧ x.state.isUpgrading ∧
      x.upgradeSequence ≤ m.receipt.sequence ∧ d'.host.store.ends[m.owner]? =
        some { x with state := .opened, upgradeSequence := m.receipt.sequence } := by
  obtain ⟨x, change, channel, effect, -, store⟩ := exists_effect_of_perform done taken
  have stored := d.host.store.channel_applyUpgrade change
  rw [effect.owner, ← store] at stored
  cases effect with
  | cancelled k message running newer =>
    obtain rfl : m = k := UpgradeMessage.cancel.inj message
    exact ⟨x, channel, running, newer, stored⟩
  | answered k message => cases message
  | acknowledged k message => cases message
  | timedOut k message => cases message
  | completed own reset completes => exact completes.elim
  | aborted may => exact may.elim

/-- How the sequences of an end that is `x` now go on from here. -/
structure SequencesGrow (d : Chain) (e : EndId) (x : ChannelEnd) : Prop where
  /-- The sequence of the end never falls. -/
  grows : ∀ l' d', d.Leads l' d' →
    ∃ y, d'.host.store.ends[e]? = some y ∧ x.upgradeSequence ≤ y.upgradeSequence
  /-- An open end enters an upgrade at a later sequence. -/
  enters : ∀ a rep d' y, d.perform a = some (rep, d') → d'.host.store.ends[e]? = some y →
    x.state = .opened → y.state = .initUpgrade ∨ y.state = .tryUpgrade →
      x.upgradeSequence < y.upgradeSequence
  /-- The receipt of the last error is about no later sequence. -/
  behind : ∀ r, d.host.store.errorReceipts[e]? = some r → r.sequence ≤ x.upgradeSequence
  /-- The receipt of the last error is never lost, and its sequence never falls. -/
  receipts : ∀ r l' d', d.host.store.errorReceipts[e]? = some r → d.Leads l' d' →
    ∃ r', d'.host.store.errorReceipts[e]? = some r' ∧ r.sequence ≤ r'.sequence
  /-- After an upgrade was cancelled, all upgrades run above the sequence of the receipt. -/
  later : ∀ m rep d₁ l' d₂ z, d.perform (.deliver (.upgrade (.cancel m))) = some (rep, d₁) →
    m.owner = e → rep.outcome = some .applied → d₁.Leads l' d₂ →
      d₂.host.store.ends[e]? = some z → z.state.isUpgrading →
        m.receipt.sequence < z.upgradeSequence
  /-- Neither that receipt nor an older one is taken again. -/
  refused : ∀ m rep d₁ l' d₂ k rep' d₃,
    d.perform (.deliver (.upgrade (.cancel m))) = some (rep, d₁) → m.owner = e →
      rep.outcome = some .applied → d₁.Leads l' d₂ →
        d₂.perform (.deliver (.upgrade (.cancel k))) = some (rep', d₃) → k.owner = e →
          k.receipt.sequence ≤ m.receipt.sequence → rep'.outcome = none

/-- On a chain that started without channels, the sequence of an end only grows, by each upgrade it
enters, and so does that of its error receipt, which it never exceeds. A receipt that cancelled an
upgrade, or an older one, is of no use against the upgrades that follow. It rests on sequences being
checked: one that wraps around would start again below the receipts written before. -/
theorem Leads.sequences_grow (start : c.host.store = .empty) (leads : c.Leads l d)
    (there : d.host.store.ends[e]? = some x) : d.SequencesGrow e x := by
  have later (m rep d₁ l' d₂ z)
      (done : d.perform (.deliver (.upgrade (.cancel m))) = some (rep, d₁)) (owner : m.owner = e)
      (taken : rep.outcome = some .applied) (onward : d₁.Leads l' d₂)
      (after : d₂.host.store.ends[e]? = some z) (running : z.state.isUpgrading) :
      m.receipt.sequence < z.upgradeSequence := by
    -- The cancellation puts the end past the upgrade of the receipt, and there is no way back.
    obtain ⟨w, -, -, -, restored⟩ := exists_cancelled_of_perform done taken
    rw [owner] at restored
    obtain ⟨z', after', past⟩ := (Leads.act leads done).phase_le start restored onward
    obtain rfl : z' = z := Option.some.inj (after'.symm.trans after)
    rw [ChannelEnd.phase_of_open rfl] at past
    exact ChannelEnd.lt_sequence_of_past past running
  refine ⟨?_, ?_, ?_, ?_, later, ?_⟩
  · intro l' d' onward
    obtain ⟨y, after, le⟩ := leads.phase_le start there onward
    exact ⟨y, after, ChannelEnd.sequence_le_of_phase_le le⟩
  · intro a rep d' y done after opened entered
    obtain ⟨deed, step, -⟩ := (perform_stepped (leads.orderly start) done).lane e
    have change := step.endStep_of_channel there after
    refine change.lt_sequence opened ((ChannelState.isUpgrading_iff _).2 ?_)
    exact entered.imp_right .inl
  · intro r kept
    obtain ⟨y, channel, past⟩ := leads.past start e r kept
    obtain rfl : y = x := Option.some.inj (channel.symm.trans there)
    exact ChannelEnd.le_sequence_of_past past
  · intro r l' d' kept onward
    exact leads.receipt_le start kept onward
  · intro m rep d₁ l' d₂ k rep' d₃ done owner taken onward again owner' old
    by_contra accepted
    obtain ⟨o, outcome⟩ := Option.ne_none_iff_exists'.1 accepted
    obtain ⟨z, channel, running, newer, -⟩ := exists_cancelled_of_perform again outcome
    rw [owner'] at channel
    have above := later m rep d₁ l' d₂ z done owner taken onward channel running
    exact absurd (UInt64.le_trans newer old) (UInt64.not_le.2 above)

end Chain

/-- The chain that proposed an upgrade takes up a sequence that it never goes back on. -/
theorem Chain.Leads.sequences_grow_upgraded :
    letI : Digest := .plain
    let r := Passage.upgraded "ics20-1" [1] (by decide)
    (r.world 8 .left).SequencesGrow Passage.owner (Passage.turning .initUpgrade "ics20-1") := by
  let _ : Digest := .plain
  have filled : [1] ≠ ([] : Bytes) := by decide
  let r := Passage.upgraded "ics20-1" [1] filled
  exact Leads.sequences_grow (r.started.chain .left).store (r.leads .left 8)
    Passage.Shelf.ends_store

end Crosschain
