import Crosschain.Proofs.Counters
import Crosschain.Proofs.UpgradeCourses

/-!
# Nothing is in flight when the ordering changes

Whether an end has packets in flight is looked at only when it answers a change of its ordering and
when it acknowledges one. From its own proposal or answer on it sends nothing, so the send counter
stands still and no commitment is added until the upgrade is over. A change of the ordering is
therefore completed while none of the packets of the end is in flight.
-/

namespace Crosschain

/-! ### Packets in flight -/

theorem ChannelStore.commitment_of_inFlight {s : ChannelStore} {e : EndId} {n k : Sequence}
    (idle : s.inFlight e = .ok false) (counter : s.nextSend[e]? = some n) (positive : 0 < k)
    (below : k < n) : s.commitments[Slot.mk e k]? = none := by
  obtain ⟨b, found, scanned⟩ := exists_inFlight counter
  obtain rfl : b = false := Except.ok.inj (found.symm.trans idle)
  by_contra stored
  have there := Option.ne_none_iff_exists'.1 stored
  cases scanned.2 ⟨k, ⟨positive, below⟩, there⟩

theorem Lane.Tallies.between [Digest] {l : Lane} {sent resolved : List Packet} {k n : Sequence}
    {c : Bytes} (tallies : l.Tallies sent resolved) (stored : l.commitments k = some c)
    (counter : l.nextSend = some n) : 0 < k ∧ k < n := by
  obtain ⟨p, mem, rfl, -⟩ := (tallies.commitments k c).1 stored
  obtain ⟨i, lt, rfl⟩ := List.mem_iff_getElem.1 mem
  have number := tallies.numbered.numbers i lt
  have total := tallies.numbered.some n counter
  have zero : (0 : UInt64).toNat = 0 := rfl
  rw [UInt64.lt_iff_toNat_lt, UInt64.lt_iff_toNat_lt, zero]
  omega

theorem Lane.Tallies.clear [Digest] {s : ChannelStore} {e : EndId} {sent resolved : List Packet}
    (tallies : (s.lane e).Tallies sent resolved) (idle : s.inFlight e = .ok false) (k : Sequence) :
    (s.lane e).commitments k = none := by
  obtain ⟨n, counter, -⟩ : ∃ n, s.nextSend[e]? = some n ∧ _ := by
    simpa only [ChannelStore.inFlight, Except.bind_eq_ok, ChannelStore.nextSendOf_eq_ok] using idle
  by_contra stored
  obtain ⟨c, there⟩ := Option.ne_none_iff_exists'.1 stored
  obtain ⟨positive, below⟩ := tallies.between there counter
  exact stored (ChannelStore.commitment_of_inFlight idle counter positive below)

/-! ### Steps -/

/-- Once an end answered or acknowledged a change of its ordering, none of its packets is in
flight. -/
def Lane.Flushed (l : Lane) : Prop :=
  ∀ x own, l.channel = some x → x.state = .tryUpgrade ∨ x.state = .ackUpgrade →
    l.upgrade = some own → own.fields.ordering ≠ x.ordering → ∀ k, l.commitments k = none

section Steps

variable [Digest] {h : Host} {a : Action} {e : EndId} {l l' : Lane} {d : Deed} {x : ChannelEnd}
  {own : Upgrade}

theorem LaneStep.silent_of_changing (step : LaneStep h a e l d l') (channel : l.channel = some x)
    (running : x.state.isUpgrading) (upgrade : l.upgrade = some own)
    (changes : own.fields.ordering ≠ x.ordering) : d.sent? = none := by
  cases sent : d.sent? with
  | none => rfl
  | some p =>
    obtain rfl : d = .sent p := by
      cases d <;> cases sent
      rfl
    obtain ⟨-, -, -, -, counter, next, counted, after⟩ := step.sent
    have still := step.nextSend_of_changing channel running upgrade changes
    rw [after, counter, Option.some.injEq] at still
    rw [still] at counted
    exact absurd (Word.add?_eq_some_iff.1 counted) (Nat.ne_of_lt (Nat.lt_succ_self _))

theorem LaneStep.clear_of_changing (step : LaneStep h a e l d l') (channel : l.channel = some x)
    (running : x.state.isUpgrading) (upgrade : l.upgrade = some own)
    (changes : own.fields.ordering ≠ x.ordering) (clear : ∀ k, l.commitments k = none)
    (k : Sequence) : l'.commitments k = none := by
  by_contra stored
  obtain ⟨c, there⟩ := Option.ne_none_iff_exists'.1 stored
  -- A commitment that was not there before is of a packet sent in this step.
  rcases step.commitments there with before | ⟨p, rfl, -⟩
  · rw [clear] at before
    cases before
  · have silent := step.silent_of_changing channel running upgrade changes
    cases silent

theorem LaneStep.message (step : LaneStep h a e l d l') (entered : d = .replied ∨ d = .agreed) :
    ∃ m, a = .deliver (.upgrade m) ∧ e = m.owner ∧ d.sent? = none ∧ d.resolved? = none := by
  cases step with
  | reply _ m x fields n action owner => exact ⟨.answer m, action, owner, rfl, rfl⟩
  | cross _ m x fields own action owner => exact ⟨.answer m, action, owner, rfl, rfl⟩
  | agree _ m x own hop peerHop peer second time action owner =>
    exact ⟨.ack m, action, owner, rfl, rfl⟩
  | _ => rcases entered with entered | entered <;> cases entered

end Steps

/-! ### All along a history -/

namespace Chain

variable [Digest] {c d d' : Chain} {l : History} {a : Action} {rep : Report} {e : EndId}
  {x y : ChannelEnd} {own : Upgrade}

theorem idle_of_entered {m : UpgradeMessage} {o : Outcome}
    (done : d.perform (.deliver (.upgrade m)) = some (rep, d')) (taken : rep.outcome = some o)
    (channel : d'.host.store.ends[m.owner]? = some y)
    (state : y.state = .tryUpgrade ∨ y.state = .ackUpgrade)
    (upgrade : d'.host.store.upgrades[m.owner]? = some own)
    (changes : own.fields.ordering ≠ y.ordering) :
    d.host.store.inFlight m.owner = .ok false := by
  obtain ⟨x, change, -, effect, -, store⟩ := exists_effect_of_perform done taken
  have value : change.value = y := effect.value_eq (store ▸ channel)
  have kept : change.step.ownAfter d.host.store.upgrades[m.owner]? = some own := by
    rw [← effect.upgrade, ← store]
    exact upgrade
  cases effect with
  | answered k message own' n flushed =>
    obtain rfl : own' = own := Option.some.inj kept
    subst value
    exact flushed changes
  | acknowledged k message own' stored flushed =>
    obtain rfl : own' = own := Option.some.inj (stored.symm.trans kept)
    subst value
    exact flushed changes
  | _ =>
    subst value
    rcases state with state | state <;> cases state

namespace Leads

theorem paused (start : c.host.store = .empty) (leads : c.Leads l d) (e : EndId) :
    (d.host.store.lane e).Paused := by
  induction leads with
  | rest =>
    rw [start, ChannelStore.lane_empty]
    intro own upgrade
    cases upgrade
  | act before done ih =>
    obtain ⟨deed, step, -⟩ := (perform_stepped (before.orderly start) done).lane e
    refine step.paused ih ?_
    intro n there zero
    have counted := (before.tallies start e).numbered.some n there
    rw [zero] at counted
    cases counted

theorem flushed (start : c.host.store = .empty) (leads : c.Leads l d) (e : EndId) :
    (d.host.store.lane e).Flushed := by
  induction leads with
  | rest =>
    rw [start, ChannelStore.lane_empty]
    intro x own channel
    cases channel
  | @act l d d' a rep before done ih =>
    intro y own after state upgrade changes
    cases outcome : rep.outcome with
    | none =>
      have unchanged := (perform_tidied (before.registered start) done).refused outcome
      rw [unchanged.host] at after upgrade ⊢
      exact ih y own after state upgrade changes
    | some o =>
    obtain ⟨deed, step, -⟩ := (perform_stepped (before.orderly start) done).lane e
    cases there : (d.host.store.lane e).channel with
    | none =>
      obtain ⟨-, -, init | ⟨-, -, -, -, -, tryOpen, -⟩⟩ := step.created there after
      · simp [init] at state
      · simp [tryOpen] at state
    | some x =>
    have running : y.state.isUpgrading := (ChannelState.isUpgrading_iff _).2 (.inr state)
    rcases step.kept_or_entered there after state with ⟨rfl, kept, -⟩ | entered
    · rw [kept] at upgrade
      exact step.clear_of_changing there running upgrade changes
        (ih y own there state upgrade changes)
    · -- The end was looked at in this action, which leaves its packets alone.
      obtain ⟨m, rfl, rfl, quiet, quiet'⟩ := step.message (entered.imp And.left And.left)
      rw [step.commitments_eq quiet quiet']
      exact (before.tallies start m.owner).clear
        (idle_of_entered done outcome after state upgrade changes)

end Leads

/-- The ordering of the end `x` is to be changed by the upgrade that is kept for it. -/
structure Reorders (d : Chain) (e : EndId) (x : ChannelEnd) (own : Upgrade) : Prop where
  channel : d.host.store.ends[e]? = some x
  running : x.state.isUpgrading
  upgrade : d.host.store.upgrades[e]? = some own
  changes : own.fields.ordering ≠ x.ordering

/-- The chain goes on, and the end stays in its upgrade all the time. -/
inductive Remains (d : Chain) (e : EndId) : History → Chain → Prop
  | rest : Remains d e [] d
  | act {l : History} {b b' : Chain} {a : Action} {rep : Report} {y : ChannelEnd}
      (before : Remains d e l b) (done : b.perform a = some (rep, b'))
      (there : b'.host.store.ends[e]? = some y) (running : y.state.isUpgrading) :
      Remains d e (l ++ [(a, rep)]) b'

theorem Remains.leads (remains : d.Remains e l d') : d.Leads l d' := by
  induction remains with
  | rest => exact .rest
  | act before done there running ih => exact .act ih done

/-- No commitment to a packet of the end is kept. -/
def Clear (d : Chain) (e : EndId) : Prop := ∀ k, d.host.store.commitments[Slot.mk e k]? = none

/-- The packets of an end stand still while its ordering changes. -/
structure StandsStill (d : Chain) (e : EndId) (x : ChannelEnd) (own : Upgrade) : Prop where
  /-- The send counter is behind the last packet that the upgrade counts. -/
  counter : ∃ n, d.host.store.nextSend[e]? = some n ∧ Word.add? own.latestSend 1 = some n
  /-- As long as the upgrade is under way, it is the same and so is the counter. -/
  stays : ∀ l d', d.Remains e l d' → ∃ y, d'.Reorders e y own ∧
    d'.host.store.nextSend[e]? = d.host.store.nextSend[e]?
  /-- An end that answered or acknowledged has nothing in flight. -/
  clear : x.state = .tryUpgrade ∨ x.state = .ackUpgrade → d.Clear e
  /-- The action that changes the ordering finds nothing in flight and leaves it so. -/
  flushed : ∀ a rep d' y, d.perform a = some (rep, d') → d'.host.store.ends[e]? = some y →
    y.ordering ≠ x.ordering → d.host.store.inFlight e = .ok false ∧ d.Clear e ∧ d'.Clear e

theorem Reorders.perform (orderly : d.Orderly) (reorders : d.Reorders e x own)
    (done : d.perform a = some (rep, d')) (after : d'.host.store.ends[e]? = some y)
    (still : y.state.isUpgrading) :
    d'.Reorders e y own ∧ d'.host.store.nextSend[e]? = d.host.store.nextSend[e]? := by
  obtain ⟨there, running, upgrade, changes⟩ := reorders
  obtain ⟨deed, step, -⟩ := (perform_stepped orderly done).lane e
  obtain ⟨fields, kept⟩ := step.upgrade_eq there after running still
  have ordering : y.ordering = x.ordering := congrArg UpgradeFields.ordering fields
  refine ⟨⟨after, still, kept.trans upgrade, ?_⟩,
    step.nextSend_of_changing there running upgrade changes⟩
  rw [ordering]
  exact changes

theorem Reorders.stays {l' : History} (start : c.host.store = .empty) (leads : c.Leads l d)
    (reorders : d.Reorders e x own) (remains : d.Remains e l' d') :
    ∃ y, d'.Reorders e y own ∧ d'.host.store.nextSend[e]? = d.host.store.nextSend[e]? := by
  induction remains with
  | rest => exact ⟨x, reorders, rfl⟩
  | act before done there running ih =>
    obtain ⟨y, earlier, counter⟩ := ih
    have orderly := (leads.trans before.leads).orderly start
    obtain ⟨now, same⟩ := earlier.perform orderly done there running
    exact ⟨_, now, same.trans counter⟩

/-- On a chain that started without channels, an end whose ordering an upgrade is to change sends
nothing, and has nothing in flight from its answer or acknowledgement on. So the change is completed
only where nothing is in flight. -/
theorem Leads.stands_still (start : c.host.store = .empty) (leads : c.Leads l d)
    (reorders : d.Reorders e x own) : d.StandsStill e x own := by
  have stays (l' d') (remains : d.Remains e l' d') := reorders.stays start leads remains
  obtain ⟨there, running, upgrade, changes⟩ := reorders
  have tallies := leads.tallies start e
  obtain ⟨n, counter⟩ : ∃ n, d.host.store.nextSend[e]? = some n :=
    Option.ne_none_iff_exists'.1 (tallies.counter (by simp [ChannelStore.lane, there]))
  have clear (state : x.state = .tryUpgrade ∨ x.state = .ackUpgrade) : d.Clear e :=
    leads.flushed start e x own there state upgrade changes
  refine ⟨⟨n, counter, ?_⟩, stays, clear, ?_⟩
  · obtain ⟨x', there', -, behind⟩ := leads.paused start e own upgrade
    obtain rfl : x' = x := Option.some.inj (there'.symm.trans there)
    exact Word.add?_eq_some_iff.2 (behind changes n counter)
  · intro a rep d' y done after turned
    obtain ⟨deed, step, -⟩ := (perform_stepped (leads.orderly start) done).lane e
    have completed : deed = .completed := by
      by_contra other
      exact turned ((step.endStep_of_channel there after).ordering_eq other)
    subst completed
    obtain ⟨own', -, m, -, -, completes, -⟩ := step.completes there after
    have clear := clear completes.isUpgrading
    refine ⟨ChannelStore.inFlight_of_none counter clear, clear, ?_⟩
    exact step.clear_of_changing there running upgrade changes clear

end Chain

/-- The chain that answered a proposal to turn the channel ordered has nothing in flight. -/
theorem Chain.Leads.stands_still_upgraded :
    letI : Digest := .plain
    let r := Passage.upgraded "ics20-1" [1] (by decide)
    (r.world 11 .right).Reorders Passage.owner (Passage.turning .tryUpgrade "ics20-1")
        (Passage.pledge "ics20-1") ∧
      (r.world 11 .right).StandsStill Passage.owner (Passage.turning .tryUpgrade "ics20-1")
        (Passage.pledge "ics20-1") := by
  let _ : Digest := .plain
  have filled : [1] ≠ ([] : Bytes) := by decide
  let r := Passage.upgraded "ics20-1" [1] filled
  have reorders : (r.world 11 .right).Reorders Passage.owner
      (Passage.turning .tryUpgrade "ics20-1") (Passage.pledge "ics20-1") :=
    ⟨Passage.Shelf.ends_store, rfl, Passage.Shelf.upgrades_store, by decide⟩
  exact ⟨reorders,
    Leads.stands_still (r.started.chain .right).store (r.leads .right 11) reorders⟩

end Crosschain
