import Crosschain.Proofs.Abandonment
import Crosschain.Proofs.Refusals

/-!
# What a message of an upgrade comes to

A message of an upgrade that is taken changes the end it is for in one of six ways: the end answers
or acknowledges, completes the upgrade, or gives it up, because the other end did, because the step
cannot be taken, or because the deadline passed. The first two are taken only if nothing is in
flight that must not be. But for these messages and proposals, no action writes or drops an upgrade.
-/

namespace Crosschain

/-- The message completes the upgrade of an end in a state. -/
def UpgradeMessage.Completes (m : UpgradeMessage) (s : ChannelState) : Prop :=
  match m with
  | .confirm _ => s = .tryUpgrade
  | .finish _ => s = .ackUpgrade
  | .answer _ | .ack _ | .cancel _ | .expire _ => False

/-- The message asks for a step that is given up where it cannot be taken. -/
def UpgradeMessage.MayAbort (m : UpgradeMessage) : Prop :=
  match m with
  | .answer _ | .ack _ | .confirm _ => True
  | .finish _ | .cancel _ | .expire _ => False

theorem UpgradeMessage.Completes.isUpgrading {m : UpgradeMessage} {s : ChannelState}
    (completes : m.Completes s) : s = .tryUpgrade ∨ s = .ackUpgrade := by
  cases m with
  | confirm => exact .inl completes
  | finish => exact .inr completes
  | _ => exact completes.elim

namespace Upgrading

/-! ### One step -/

/-- Nothing that an end sent is in flight, if these fields change its ordering. -/
def Flushed (h : Host) (owner : EndId) (x : ChannelEnd) (fields : UpgradeFields) : Prop :=
  fields.ordering ≠ x.ordering → h.store.inFlight owner = .ok false

/-- What a step of an upgrade asks for, in terms of the end `x` that it is taken for. -/
inductive Effect (h : Host) (m : UpgradeMessage) (x : ChannelEnd) : UpgradeChange → Prop
  | answered (k : UpgradeTry) (message : m = .answer k) (own : Upgrade) (n : Sequence)
      (flushed : Flushed h m.owner x own.fields) :
      Effect h m x ⟨m.owner, { x with upgradeSequence := n, state := .tryUpgrade },
        .answered own k.peerUpgrade⟩
  | acknowledged (k : UpgradeAck) (message : m = .ack k) (own : Upgrade)
      (stored : h.store.upgrades[m.owner]? = some own) (flushed : Flushed h m.owner x own.fields) :
      Effect h m x ⟨m.owner, { x with state := .ackUpgrade }, .acknowledged k.peerUpgrade⟩
  | completed (own : Upgrade) (reset : Option SequenceReset) (completes : m.Completes x.state)
      (stored : h.store.upgrades[m.owner]? = some own) :
      Effect h m x ⟨m.owner, { x.withFields own.fields with state := .opened }, .completed reset⟩
  | cancelled (k : UpgradeCancel) (message : m = .cancel k) (running : x.state.isUpgrading)
      (newer : x.upgradeSequence ≤ k.receipt.sequence) :
      Effect h m x ⟨m.owner, { x with state := .opened, upgradeSequence := k.receipt.sequence },
        .cancelled⟩
  | aborted (may : m.MayAbort) (n : Sequence) (receipt : ErrorReceipt) :
      Effect h m x ⟨m.owner, { x with state := .opened, upgradeSequence := n }, .aborted receipt⟩
  | timedOut (k : UpgradeExpire) (message : m = .expire k) (receipt : ErrorReceipt) :
      Effect h m x ⟨m.owner, { x with state := .opened }, .timedOut receipt⟩

theorem Effect.owner {h : Host} {m : UpgradeMessage} {x : ChannelEnd} {change : UpgradeChange}
    (effect : Effect h m x change) : change.owner = m.owner := by
  cases effect <;> rfl

section Steps

variable {h : Host} {out : Output UpgradeChange}

theorem flushed_of_ensureFlushed {owner : EndId} {x : ChannelEnd} {fields : UpgradeFields}
    {u : Unit} (ok : ensureFlushed h owner x fields = .ok u) : Flushed h owner x fields := by
  intro changes
  rw [ensureFlushed, if_neg changes] at ok
  simp only [Except.bind_eq_ok, Fault.lift_eq_ok, Fault.ensure_eq_ok] at ok
  obtain ⟨inFlight, scanned, none⟩ := ok
  rw [Bool.not_eq_true'] at none
  rw [scanned, none]

variable [Digest]

/-- A message of an upgrade that a host takes has one of the effects. -/
theorem effect_of_step {m : UpgradeMessage} (ok : step h m = .ok out) :
    ∃ x, h.store.ends[m.owner]? = some x ∧ Effect h m x out.result := by
  cases step_eq_ok.1 ok with
  | @outdated m x _ _ answerable =>
    exact ⟨x, answerable.channel, .aborted (by trivial) x.upgradeSequence _⟩
  | @answered m x _ _ answerable _ _ _ flushed =>
    exact ⟨x, answerable.channel, .answered m rfl _ _ (flushed_of_ensureFlushed flushed)⟩
  | @crossed m x _ _ answerable _ _ _ flushed =>
    exact ⟨x, answerable.channel, .answered m rfl _ _ (flushed_of_ensureFlushed flushed)⟩
  | @clashed m x _ _ answerable => exact ⟨x, answerable.channel, .aborted (by trivial) _ _⟩
  | @mismatched m x _ _ answered =>
    exact ⟨x, answered.running.channel, .aborted (by trivial) x.upgradeSequence _⟩
  | @answeredLate m x _ _ _ answered =>
    exact ⟨x, answered.running.channel, .aborted (by trivial) x.upgradeSequence _⟩
  | @acknowledged m x _ own _ answered _ _ _ flushed =>
    exact ⟨x, answered.running.channel,
      .acknowledged m rfl own answered.running.upgrade (flushed_of_ensureFlushed flushed)⟩
  | @acknowledgedLate m x _ _ _ acknowledged =>
    exact ⟨x, acknowledged.running.channel, .aborted (by trivial) x.upgradeSequence _⟩
  | @confirmed m x _ own _ reset acknowledged =>
    obtain ⟨running, state, -⟩ := acknowledged
    exact ⟨x, running.channel, .completed own reset state running.upgrade⟩
  | @finished m x _ _ own reset running state =>
    exact ⟨x, running.channel, .completed own reset state running.upgrade⟩
  | @cancelled m x _ channel upgrading newer =>
    exact ⟨x, channel, .cancelled m rfl upgrading (UInt64.not_lt.1 newer)⟩
  | @expired m x _ _ _ running => exact ⟨x, running.channel, .timedOut m rfl _⟩

end Steps

end Upgrading

/-! ### Actions of a chain -/

namespace ChannelStore

@[simp] theorem channel_applyUpgrade (s : ChannelStore) (c : UpgradeChange) :
    (s.applyUpgrade c).ends[c.owner]? = some c.value := by
  obtain ⟨recv, ack, receipt, lane⟩ := s.exists_lane_applyUpgrade c
  exact congrArg Lane.channel lane

theorem upgrade_applyUpgrade (s : ChannelStore) (c : UpgradeChange) :
    (s.applyUpgrade c).upgrades[c.owner]? = c.step.ownAfter s.upgrades[c.owner]? := by
  obtain ⟨recv, ack, receipt, lane⟩ := s.exists_lane_applyUpgrade c
  exact congrArg Lane.upgrade lane

theorem upgrades_applyPacket (s : ChannelStore) (c : PacketChange) :
    (s.applyPacket c).upgrades = s.upgrades := by
  rw [applyPacket_eq]

theorem upgrades_applyEnd {s t : ChannelStore} {c : EndChange} {r : Attempt (Option Capability)}
    (stored : s.applyEnd c = (r, t)) : t.upgrades = s.upgrades := by
  obtain rfl : (s.applyEnd c).2 = t := congrArg Prod.snd stored
  rw [applyEnd_eq]

end ChannelStore

namespace Upgrading.Effect

variable {h : Host} {m : UpgradeMessage} {x y : ChannelEnd} {change : UpgradeChange}
  {s : ChannelStore}

theorem value_eq (effect : Effect h m x change)
    (after : (s.applyUpgrade change).ends[m.owner]? = some y) : change.value = y := by
  rw [← effect.owner, ChannelStore.channel_applyUpgrade] at after
  exact Option.some.inj after

theorem upgrade (effect : Effect h m x change) :
    (s.applyUpgrade change).upgrades[m.owner]? = change.step.ownAfter s.upgrades[m.owner]? := by
  rw [← effect.owner]
  exact s.upgrade_applyUpgrade change

end Upgrading.Effect

namespace Chain

variable [Digest] {c c' : Chain} {a : Action} {rep : Report}

theorem exists_effect_of_perform {m : UpgradeMessage} {o : Outcome}
    (done : c.perform (.deliver (.upgrade m)) = some (rep, c')) (taken : rep.outcome = some o) :
    ∃ x change, c.host.store.ends[m.owner]? = some x ∧ Upgrading.Effect c.host m x change ∧
      o = upgradeOutcome change.step ∧ c'.host.store = c.host.store.applyUpgrade change := by
  obtain ⟨out, ok, outcome, stored, -⟩ := exists_step_of_perform done taken
  obtain ⟨x, channel, effect⟩ := Upgrading.effect_of_step ok
  exact ⟨x, out.result, channel, effect, outcome, stored⟩

theorem proposed_of_perform {cap : Capability} {m : UpgradeInit}
    (done : c.perform (.proposeUpgrade cap m) = some (rep, c')) :
    c'.host.store = c.host.store ∨ ∃ x change, c.host.store.ends[m.owner]? = some x ∧
      x.state = .opened ∧ change.owner = m.owner ∧
        c'.host.store = c.host.store.applyUpgrade change := by
  obtain ⟨d, performs, store⟩ := exists_performs_store done
  rw [store]
  cases performs with
  | refused => exact .inl rfl
  | @proposed _ _ out ok =>
    have found : ∃ x, c.host.store.ends[m.owner]? = some x ∧ x.state = .opened ∧
        out.result.owner = m.owner := by
      cases Upgrading.propose_eq_ok.1 ok with
      | proposed channel owned state => exact ⟨_, channel, state, rfl⟩
    obtain ⟨x, channel, opened, named⟩ := found
    exact .inr ⟨x, out.result, channel, opened, named, rfl⟩

theorem Delivers.upgrades {m : Datagram} {r : Routed DeliveryReceipt} (delivers : c.Delivers m r) :
    (∃ m', m = .upgrade m') ∨ r.2.host.store.upgrades = c.host.store.upgrades := by
  cases delivers with
  | unrouted | unowned | failed | declined | repeated => exact .inr rfl
  | unstored bound ok agrees stored | stored bound ok agrees stored =>
    exact .inr (ChannelStore.upgrades_applyEnd stored)
  | upgraded | upgradedTold => exact .inl ⟨_, rfl⟩
  | applied => exact .inr (ChannelStore.upgrades_applyPacket _ _)
  | answered =>
    exact .inr ((ChannelStore.upgrades_applyPacket _ _).trans
      (ChannelStore.upgrades_applyPacket _ _))

theorem upgrades_of_perform (done : c.perform a = some (rep, c')) :
    (∃ m, a = .deliver (.upgrade m)) ∨ (∃ cap m, a = .proposeUpgrade cap m) ∨
      c'.host.store.upgrades = c.host.store.upgrades := by
  obtain ⟨d, performs, store⟩ := exists_performs_store done
  rw [store]
  cases performs with
  | relayed delivers =>
    obtain ⟨m, rfl⟩ | same := delivers.upgrades
    · exact .inl ⟨m, rfl⟩
    · exact .inr (.inr same)
  | proposed => exact .inr (.inl ⟨_, _, rfl⟩)
  | sent | written => exact .inr (.inr (ChannelStore.upgrades_applyPacket _ _))
  | refused | closed | advanced | heard => exact .inr (.inr rfl)

end Chain

end Crosschain
