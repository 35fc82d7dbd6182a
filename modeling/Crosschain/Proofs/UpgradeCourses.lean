import Crosschain.Proofs.Rounds
import Crosschain.Proofs.UpgradeEffects
import Crosschain.Proofs.UpgradeRecords

/-!
# What upgrades change

The terms of an end are its ordering, its hops, its version and its peer. An upgrade under way
leaves them alone and keeps the proposal it began with. So a completed upgrade sets the terms to
that proposal, and one that is given up leaves the end with the terms it had, although nothing was
put aside for that.
-/

namespace Crosschain

/-! ### Actions on an end -/

/-- The message takes an upgrade back. -/
def UpgradeMessage.TakesBack (m : UpgradeMessage) : Prop :=
  (∃ k, m = .cancel k) ∨ ∃ k, m = .expire k

namespace Action

/-- An end opens as it hears which end answered it and with what version. -/
def Opens (a : Action) (e : EndId) (x y : ChannelEnd) : Prop :=
  ∃ m, a = .deliver (.handshake (.openAck m)) ∧ m.owner = e ∧
    (x.state = .init ∨ x.state = .tryOpen) ∧
      y = { x.withPeerChannel m.peerChannel with state := .opened, version := m.peerVersion }

/-- An end completes an upgrade to the given fields, from the state that goes with the message. -/
def Completes (a : Action) (e : EndId) (f : UpgradeFields) (x y : ChannelEnd) : Prop :=
  ∃ m, a = .deliver (.upgrade m) ∧ m.owner = e ∧ m.Completes x.state ∧
    y = { x.withFields f with state := .opened }

/-- The action is one that closes an end. -/
def Closes (a : Action) (e : EndId) : Prop :=
  (∃ cap m, a = .close cap m ∧ m.owner = e) ∨
    ∃ m, a = .deliver (.packet (.timeout m)) ∧ m.packet.source = e

/-- An upgrade of an end is given up: a step of it was aborted, or it was cancelled or timed out. -/
def GivesUp (a : Action) (rep : Report) (e : EndId) : Prop :=
  ∃ m, a = .deliver (.upgrade m) ∧ m.owner = e ∧
    (rep.outcome = some .aborted ∨ rep.outcome = some .applied ∧ m.TakesBack)

end Action

/-! ### One step -/

theorem ChannelEnd.eq_of_terms {x y : ChannelEnd} (fields : y.fields = x.fields)
    (peer : y.peer = x.peer) :
    y = { x with state := y.state, upgradeSequence := y.upgradeSequence } := by
  obtain ⟨state, ordering, peer', hops, version, n⟩ := y
  simp only [ChannelEnd.fields, UpgradeFields.mk.injEq] at fields peer
  obtain ⟨rfl, rfl, rfl⟩ := fields
  rw [peer]

theorem EndStep.before_upgrading {x y : ChannelEnd} {d : Deed} (step : EndStep x d y)
    (after : y.state.isUpgrading) : x.state = .opened ∨ x.state.isUpgrading := by
  cases step with
  | same => exact .inr after
  | proposed n state => exact .inl state
  | replied n state => exact .inl state
  | crossed n state => exact .inr ((ChannelState.isUpgrading_iff _).2 (.inl state))
  | agreed state =>
    exact .inr ((ChannelState.isUpgrading_iff _).2 (state.imp_right .inl))
  | _ => cases after

theorem EndStep.terms_eq {x y : ChannelEnd} {d : Deed} (step : EndStep x d y)
    (settled : d ≠ .settled) (completed : d ≠ .completed) :
    y.fields = x.fields ∧ y.peer = x.peer := by
  cases step with
  | acked => exact absurd rfl settled
  | completed => exact absurd rfl completed
  | _ => exact ⟨rfl, rfl⟩

section Steps

variable [Digest] {h : Host} {a : Action} {e : EndId} {l l' : Lane} {d : Deed} {x y : ChannelEnd}

theorem LaneStep.opens (step : LaneStep h a e l .settled l') (before : l.channel = some x)
    (after : l'.channel = some y) :
    y.fields = x.fields ∧ y.peer = x.peer ∨ a.Opens e x y := by
  cases step with
  | openAck _ m z hop peerHop time action owner channel state =>
    obtain rfl : z = x := Option.some.inj (channel.symm.trans before)
    cases after
    exact .inr ⟨m, action, owner.symm, state, rfl⟩
  | openConfirm _ m z hop peerHop peer time action owner channel =>
    obtain rfl : z = x := Option.some.inj (channel.symm.trans before)
    cases after
    exact .inl ⟨rfl, rfl⟩

theorem LaneStep.completes (step : LaneStep h a e l .completed l') (before : l.channel = some x)
    (after : l'.channel = some y) :
    ∃ own, l.upgrade = some own ∧ a.Completes e own.fields x y := by
  cases step with
  | confirm _ m z own nextRecv nextAck action owner channel state upgrade =>
    obtain rfl : z = x := Option.some.inj (channel.symm.trans before)
    cases after
    exact ⟨own, upgrade, .confirm m, action, owner.symm, state, rfl⟩
  | finish _ m z own nextRecv nextAck action owner channel state upgrade =>
    obtain rfl : z = x := Option.some.inj (channel.symm.trans before)
    cases after
    exact ⟨own, upgrade, .finish m, action, owner.symm, state, rfl⟩

theorem LaneStep.terms (step : LaneStep h a e l d l') (before : l.channel = some x)
    (after : l'.channel = some y) : y.fields = x.fields ∧ y.peer = x.peer ∨ a.Opens e x y ∨
      ∃ own, l.upgrade = some own ∧ a.Completes e own.fields x y := by
  have change := step.endStep_of_channel before after
  by_cases settled : d = .settled
  · subst settled
    exact (step.opens before after).imp_right .inl
  by_cases completed : d = .completed
  · subst completed
    exact .inr (.inr (step.completes before after))
  exact .inl (change.terms_eq settled completed)

theorem LaneStep.closes_of_kept {own : Upgrade} (step : LaneStep h a e l d l')
    (before : l.channel = some x) (running : x.state.isUpgrading) (kept : l'.upgrade = some own)
    (after : l'.channel = some y) (left : ¬ y.state.isUpgrading) :
    a.Closes e ∧ y = { x with state := .closed } := by
  have same {z : ChannelEnd} (channel : l.channel = some z) : z = x :=
    Option.some.inj (channel.symm.trans before)
  cases step with
  | openInit => cases before
  | openTry => cases before
  | openAck _ m z hop peerHop time action owner channel state =>
    obtain rfl := same channel
    rcases state with state | state <;> simp [state, ChannelState.isUpgrading_iff] at running
  | openConfirm _ m z hop peerHop peer time action owner channel state =>
    obtain rfl := same channel
    simp [state, ChannelState.isUpgrading_iff] at running
  | close _ cap m z action owner channel =>
    obtain rfl := same channel
    cases after
    exact ⟨.inl ⟨cap, m, action, owner.symm⟩, rfl⟩
  | timeoutOrdered _ m z c time action owner channel =>
    obtain rfl := same channel
    cases after
    exact ⟨.inr ⟨m, action, owner.symm⟩, rfl⟩
  -- These lead into an upgrade or on in it.
  | propose => cases after; exact absurd rfl left
  | reply => cases after; exact absurd rfl left
  | cross => cases after; exact absurd rfl left
  | agree => cases after; exact absurd rfl left
  -- These drop the proposal.
  | confirm => cases kept
  | finish => cases kept
  | cancel => cases kept
  | abort => cases kept
  | expire => cases kept
  | _ =>
    obtain rfl := same after
    exact absurd running left

end Steps

/-! ### Upgrades under way -/

variable [Digest]

/-- The end is in an upgrade that began with this proposal, and has the terms it had before. -/
structure Chain.InUpgrade (c : Chain) (e : EndId) (w : ChannelEnd) (own : Upgrade)
    (x : ChannelEnd) : Prop where
  channel : c.host.store.ends[e]? = some x
  running : x.state.isUpgrading
  terms : x = { w with state := x.state, upgradeSequence := x.upgradeSequence }
  kept : c.host.store.upgrades[e]? = some own

/-- Since the chain was `c` and the end was open as `w`, an upgrade of the end has been under way
with one proposal. -/
inductive Chain.Upgrades (c : Chain) (e : EndId) (w : ChannelEnd) (own : Upgrade) :
    History → Chain → Prop
  | enter {d : Chain} {a : Action} {rep : Report} {x : ChannelEnd}
      (channel : c.host.store.ends[e]? = some w) (opened : w.state = .opened)
      (done : c.perform a = some (rep, d)) (inside : d.InUpgrade e w own x) :
      Upgrades c e w own [(a, rep)] d
  | goOn {l : History} {d d' : Chain} {a : Action} {rep : Report} {x : ChannelEnd}
      (before : Upgrades c e w own l d) (done : d.perform a = some (rep, d'))
      (inside : d'.InUpgrade e w own x) : Upgrades c e w own (l ++ [(a, rep)]) d'

/-- What becomes of an upgrade in an action: the end was `w` before the upgrade and is `x` in it. -/
inductive UpgradeCourse (a : Action) (rep : Report) (e : EndId) (w x : ChannelEnd) (own : Upgrade) :
    ChannelEnd → Prop
  | goesOn (y : ChannelEnd) (running : y.state.isUpgrading) : UpgradeCourse a rep e w x own y
  | completed (y : ChannelEnd) (taken : rep.outcome = some .applied)
      (completes : a.Completes e own.fields x y) : UpgradeCourse a rep e w x own y
  | givenUp (n : Sequence) (gives : a.GivesUp rep e) :
      UpgradeCourse a rep e w x own { w with upgradeSequence := n }
  | closed (closes : a.Closes e) : UpgradeCourse a rep e w x own { x with state := .closed }

namespace Chain

variable {c d d' : Chain} {l : History} {a : Action} {rep : Report} {e : EndId}
  {w x y : ChannelEnd} {own : Upgrade}

theorem Upgrades.exists_inside (upgrades : c.Upgrades e w own l d) :
    w.state = .opened ∧ ∃ x, d.InUpgrade e w own x := by
  induction upgrades with
  | enter channel opened done inside => exact ⟨opened, _, inside⟩
  | goOn before done inside ih => exact ⟨ih.1, _, inside⟩

/-- Every upgrade under way began at an end that was open, and has kept the proposal it began
with. -/
theorem Leads.exists_upgrades (start : c.host.store = .empty) (leads : c.Leads l d)
    (there : d.host.store.ends[e]? = some x) (running : x.state.isUpgrading) :
    ∃ l₀ b l₁ w own, l = l₀ ++ l₁ ∧ c.Leads l₀ b ∧ b.Upgrades e w own l₁ d := by
  induction leads generalizing x with
  | rest =>
    rw [start] at there
    cases there
  | @act l d d' a rep before done ih =>
    obtain ⟨deed, step, -⟩ := (perform_stepped (before.orderly start) done).lane e
    cases earlier : d.host.store.ends[e]? with
    | none =>
      obtain ⟨-, -, init | ⟨-, -, -, -, -, tryOpen, -⟩⟩ := step.created earlier there
      · simp [init, ChannelState.isUpgrading_iff] at running
      · simp [tryOpen, ChannelState.isUpgrading_iff] at running
    | some z =>
      have change := step.endStep_of_channel earlier there
      rcases change.before_upgrading running with opened | going
      · -- The upgrade begins here, and its proposal is on record.
        obtain ⟨fields, peer⟩ := change.of_isUpgrading (.inl opened) running
        obtain ⟨own, kept⟩ := Option.isSome_iff_exists.1
          (((Leads.act before done).reaches.recorded start e).of_upgrading there running)
        exact ⟨l, d, _, z, own, rfl, before, .enter earlier opened done
          ⟨there, running, ChannelEnd.eq_of_terms fields peer, kept⟩⟩
      · obtain ⟨l₀, b, l₁, w, own, rfl, first, since⟩ := ih earlier going
        obtain ⟨-, z', inside⟩ := since.exists_inside
        obtain rfl : z' = z := Option.some.inj (inside.channel.symm.trans earlier)
        obtain ⟨fields, upgrade⟩ := step.upgrade_eq earlier there going running
        obtain ⟨-, peer⟩ := change.of_isUpgrading (.inr going) running
        have terms := inside.terms
        refine ⟨l₀, b, _, w, own, List.append_assoc .., first, .goOn since done
          ⟨there, running, ChannelEnd.eq_of_terms ?_ ?_, upgrade.trans inside.kept⟩⟩
        · rw [fields, terms]
          rfl
        · rw [peer, terms]

/-- An upgrade goes on, is completed with its proposal, is given up with the terms from before it,
or the end is closed. -/
theorem InUpgrade.course (registered : d.host.store.Registered) (orderly : d.Orderly)
    (inside : d.InUpgrade e w own x) (opened : w.state = .opened)
    (done : d.perform a = some (rep, d')) (after : d'.host.store.ends[e]? = some y) :
    UpgradeCourse a rep e w x own y := by
  by_cases running : y.state.isUpgrading
  · exact .goesOn y running
  have moved : d'.host.store.lane e ≠ d.host.store.lane e := by
    intro same
    have channel : d'.host.store.ends[e]? = d.host.store.ends[e]? := congrArg Lane.channel same
    rw [after, inside.channel] at channel
    exact running (Option.some.inj channel ▸ inside.running)
  have given (n : Sequence) (value : y = { x with state := .opened, upgradeSequence := n })
      (gives : a.GivesUp rep e) : UpgradeCourse a rep e w x own y := by
    have restored : y = { w with upgradeSequence := n } := by
      rw [value, inside.terms, ← opened]
    rw [restored]
    exact .givenUp n gives
  cases outcome : rep.outcome with
  | none =>
    have unchanged := (perform_tidied registered done).refused outcome
    exact absurd (by rw [unchanged.host]) moved
  | some o =>
  rcases upgrades_of_perform done with ⟨m, rfl⟩ | ⟨cap, m, rfl⟩ | kept
  · obtain ⟨z, change, channel, effect, rfl, store⟩ := exists_effect_of_perform done outcome
    by_cases owner : m.owner = e
    · subst owner
      obtain rfl : z = x := Option.some.inj (channel.symm.trans inside.channel)
      have value : change.value = y := effect.value_eq (store ▸ after)
      cases effect with
      | answered => exact absurd (value ▸ rfl) running
      | acknowledged => exact absurd (value ▸ rfl) running
      | completed own' reset completes stored =>
        obtain rfl := Option.some.inj (stored.symm.trans inside.kept)
        exact .completed y outcome ⟨m, rfl, rfl, completes, value.symm⟩
      | cancelled k message =>
        exact given _ value.symm ⟨m, rfl, rfl, .inr ⟨outcome, .inl ⟨k, message⟩⟩⟩
      | aborted may n receipt => exact given _ value.symm ⟨m, rfl, rfl, .inl outcome⟩
      | timedOut k message receipt =>
        exact given _ value.symm ⟨m, rfl, rfl, .inr ⟨outcome, .inr ⟨k, message⟩⟩⟩
    · rw [store, ChannelStore.lane_applyUpgrade_of_ne _ _ (effect.owner ▸ Ne.symm owner)] at moved
      exact absurd rfl moved
  · -- A proposal is for an open end, which this one is not.
    rcases proposed_of_perform done with store | ⟨z, change, channel, proposed, named, store⟩
    · exact absurd (by rw [store]) moved
    · by_cases owner : m.owner = e
      · subst owner
        obtain rfl : z = x := Option.some.inj (channel.symm.trans inside.channel)
        have going := inside.running
        simp [proposed, ChannelState.isUpgrading_iff] at going
      · rw [store, ChannelStore.lane_applyUpgrade_of_ne _ _ (named ▸ Ne.symm owner)] at moved
        exact absurd rfl moved
  · obtain ⟨deed, step, -⟩ := (perform_stepped orderly done).lane e
    have kept : d'.host.store.upgrades[e]? = some own := by rw [kept, inside.kept]
    obtain ⟨closes, rfl⟩ := step.closes_of_kept inside.channel inside.running kept after running
    exact .closed closes

/-- How an action that leads from `d` on leaves the terms of an end, which was `x` and is then `y`;
the chain came to `d` by the history. -/
structure TermsStand (c : Chain) (l : History) (d : Chain) (a : Action) (rep : Report) (e : EndId)
    (x y : ChannelEnd) : Prop where
  /-- The terms stay, unless the end opens or completes the upgrade that is kept for it. -/
  changes : y.fields = x.fields ∧ y.peer = x.peer ∨ a.Opens e x y ∨
    ∃ own, d.host.store.upgrades[e]? = some own ∧ a.Completes e own.fields x y
  /-- A message that completes an upgrade and is applied does so with the upgrade that is kept. -/
  completed : ∀ m s, a = .deliver (.upgrade m) → m.owner = e → m.Completes s →
    rep.outcome = some .applied →
      ∃ own, d.host.store.upgrades[e]? = some own ∧ a.Completes e own.fields x y
  /-- Giving up changes nothing but the state and the sequence. -/
  restored : a.GivesUp rep e → y = { x with state := .opened, upgradeSequence := y.upgradeSequence }
  /-- An upgrade began at an open end and has been under way with one proposal since. -/
  course : x.state.isUpgrading → ∃ l₀ b l₁ w own, l = l₀ ++ l₁ ∧ c.Leads l₀ b ∧
    b.Upgrades e w own l₁ d ∧ UpgradeCourse a rep e w x own y

/-- On a chain that started without channels, ordering, hops and version of an end change only when
an upgrade is completed, to those of the proposal that was on record all through the upgrade;
version and peer are set once before that, when the end opens. An upgrade that is aborted, cancelled
or timed out leaves the end open as it was before, but for the sequence. -/
theorem Leads.terms_stand (start : c.host.store = .empty) (leads : c.Leads l d)
    (there : d.host.store.ends[e]? = some x) (done : d.perform a = some (rep, d')) :
    ∃ y, d'.host.store.ends[e]? = some y ∧ c.TermsStand l d a rep e x y := by
  have orderly := leads.orderly start
  obtain ⟨deed, step, -⟩ := (perform_stepped orderly done).lane e
  obtain ⟨y, after, -⟩ := step.endStep there
  have after : d'.host.store.ends[e]? = some y := after
  -- What a message does that is taken for the end can be read off the end itself.
  have taken {m : UpgradeMessage} {o : Outcome} (action : a = .deliver (.upgrade m))
      (owner : m.owner = e) (outcome : rep.outcome = some o) : ∃ change,
        Upgrading.Effect d.host m x change ∧ o = upgradeOutcome change.step ∧ change.value = y := by
    subst action owner
    obtain ⟨z, change, channel, effect, rfl, store⟩ := exists_effect_of_perform done outcome
    obtain rfl : z = x := Option.some.inj (channel.symm.trans there)
    exact ⟨change, effect, rfl, effect.value_eq (store ▸ after)⟩
  refine ⟨y, after, step.terms there after, ?_, ?_, ?_⟩
  · intro m s action owner completes outcome
    obtain ⟨change, effect, applied, value⟩ := taken action owner outcome
    cases effect with
    | completed own reset completes' stored =>
      exact ⟨own, owner ▸ stored, m, action, owner, completes', value.symm⟩
    | aborted => cases applied
    | answered k message => exact (message ▸ completes).elim
    | acknowledged k message => exact (message ▸ completes).elim
    | cancelled k message => exact (message ▸ completes).elim
    | timedOut k message => exact (message ▸ completes).elim
  · rintro ⟨m, action, owner, aborted | ⟨outcome, takesBack⟩⟩
    · obtain ⟨change, effect, gave, value⟩ := taken action owner aborted
      cases effect with
      | aborted => rw [← value]
      | _ => cases gave
    · obtain ⟨change, effect, applied, value⟩ := taken action owner outcome
      cases effect with
      | cancelled => rw [← value]
      | timedOut => rw [← value]
      | aborted => cases applied
      | answered k message =>
        rcases takesBack with ⟨j, other⟩ | ⟨j, other⟩ <;> simp [message] at other
      | acknowledged k message =>
        rcases takesBack with ⟨j, other⟩ | ⟨j, other⟩ <;> simp [message] at other
      | completed own reset completes =>
        rcases takesBack with ⟨j, rfl⟩ | ⟨j, rfl⟩ <;> exact completes.elim
  · intro running
    obtain ⟨l₀, b, l₁, w, own, place, first, since⟩ := leads.exists_upgrades start there running
    obtain ⟨opened, z, inside⟩ := since.exists_inside
    obtain rfl : z = x := Option.some.inj (inside.channel.symm.trans there)
    exact ⟨l₀, b, l₁, w, own, place, first, since,
      inside.course (leads.registered start) orderly opened done after⟩

end Chain

theorem Run.perform_of_move {r : Run} {i : Nat} {s : Side} {a : Action} {rep : Report}
    (move : r.move i = some ⟨s, a, rep⟩) :
    (r.world i s).perform a = some (rep, r.world (i + 1) s) := by
  have step := r.step i
  rw [move] at step
  obtain ⟨c, done, world⟩ := step
  rw [world]
  exact done.trans (by simp)

omit [Digest] in
/-- The chain that answered a proposal completes the upgrade, which turns its end ordered. -/
theorem Chain.Leads.terms_stand_upgraded :
    letI : Digest := .plain
    let r := Passage.upgraded "ics20-1" [1] (by decide)
    ∃ m rep, r.move 14 = some ⟨.right, .deliver (.upgrade (.confirm m)), rep⟩ ∧
      (r.world 0 .right).TermsStand (r.history .right 14) (r.world 14 .right)
        (.deliver (.upgrade (.confirm m))) rep Passage.owner (Passage.turning .tryUpgrade "ics20-1")
        (Passage.turned "ics20-1") := by
  let _ : Digest := .plain
  have filled : [1] ≠ ([] : Bytes) := by decide
  let r := Passage.upgraded "ics20-1" [1] filled
  obtain ⟨m, rep, move⟩ :
      ∃ m rep, r.move 14 = some ⟨.right, .deliver (.upgrade (.confirm m)), rep⟩ := ⟨_, _, rfl⟩
  have there : (r.world 14 .right).host.store.ends[Passage.owner]? =
      some (Passage.turning .tryUpgrade "ics20-1") := Passage.Shelf.ends_store
  obtain ⟨y, after, stand⟩ := Leads.terms_stand (r.started.chain .right).store (r.leads .right 14)
    there (Run.perform_of_move move)
  have turned : (r.world 15 .right).host.store.ends[Passage.owner]? =
      some (Passage.turned "ics20-1") := Passage.Shelf.ends_store
  obtain rfl := Option.some.inj (turned.symm.trans after)
  exact ⟨m, rep, move, stand⟩

end Crosschain
