import Crosschain.Proofs.UpgradeEffects
import Crosschain.Proofs.UpgradeRecords

/-!
# What an upgrade that is kept looks like

An upgrade is kept once its fields were found to be a change of the end that the host can carry, and
as long as it is kept the fields of the end stay as they are. An upgrade that an application proposes
has a deadline that can pass. The one kept with an answer has the deadline that the message names,
which nothing looks at.
-/

namespace Crosschain

/-! ### Deadlines -/

theorem TimeoutHeight.isSet_iff {t : TimeoutHeight} :
    t.isSet = true ↔ ∃ height, t.reachedAt height = true := by
  cases t with
  | never => simp [isSet, reachedAt]
  | atHeight limit => simpa [isSet, reachedAt] using ⟨limit, Std.le_refl limit⟩

theorem Timestamp.isSet_iff {t : Timestamp} :
    t.isSet = true ↔ ∃ now, t.reachedAt now = true := by
  constructor
  · intro set
    -- A time is not after itself.
    refine ⟨t, ?_⟩
    have past : t.after t = false := by
      unfold after
      cases t.time with
      | none => rfl
      | some a =>
        show ((compare a.secs a.secs).then (compare a.nanos a.nanos)).isGT = false
        rw [Std.compare_self, Std.compare_self]
        rfl
    simp [reachedAt, set, past]
  · rintro ⟨now, reached⟩
    simp only [reachedAt, Bool.and_eq_true] at reached
    exact reached.1.1

theorem UpgradeTimeout.isSet_iff {t : UpgradeTimeout} :
    t.isSet = true ↔ ∃ height now, t.elapsedAt height now = true := by
  simp only [isSet, elapsedAt, Bool.or_eq_true, TimeoutHeight.isSet_iff, Timestamp.isSet_iff]
  constructor
  · rintro (⟨height, reached⟩ | ⟨now, reached⟩)
    · exact ⟨height, .unset, .inl reached⟩
    · exact ⟨⟨0, 0⟩, now, .inr reached⟩
  · rintro ⟨height, now, reached | reached⟩
    · exact .inl ⟨height, reached⟩
    · exact .inr ⟨now, reached⟩

/-! ### Fields -/

theorem Host.Carries.congr {h h' : Host} {x x' : ChannelEnd} {f : UpgradeFields}
    (carries : h.Carries x f) (connections : h'.connections = h.connections)
    (fields : x'.fields = x.fields) : h'.Carries x' f := by
  obtain ⟨changed, linked⟩ := carries
  rw [← connections] at linked
  rw [← fields] at changed
  exact ⟨changed, linked⟩

namespace Upgrading

variable {h : Host} {x : ChannelEnd} {out : Output UpgradeChange}

theorem carries_of_propose {cap : Capability} {m : UpgradeInit} (ok : propose h cap m = .ok out) :
    ∃ x own n, h.store.ends[m.owner]? = some x ∧ h.Carries x own.fields ∧ own.timeout.isSet ∧
      out.result = ⟨m.owner, { x with upgradeSequence := n, state := .initUpgrade },
        .proposed own⟩ := by
  cases propose_eq_ok.1 ok with
  | proposed channel owned state valid named set =>
    exact ⟨_, _, _, channel, valid, set, rfl⟩

variable [Digest]

/-- An answer that is taken gives up, or it keeps an upgrade that was kept before, or a new one that
the host can carry, with the deadline of the message. -/
theorem carries_of_answer {m : UpgradeTry} (ok : answer h m = .ok out) :
    ∃ x, h.store.ends[m.owner]? = some x ∧
      ((∃ y receipt, out.result = ⟨m.owner, y, .aborted receipt⟩) ∨
        ∃ own n, (h.store.upgrades[m.owner]? = some own ∨
            h.Carries x own.fields ∧ own.timeout = m.timeout) ∧
          out.result = ⟨m.owner, { x with upgradeSequence := n, state := .tryUpgrade },
            .answered own m.peerUpgrade⟩) := by
  cases succeeds_of_answer ok with
  | outdated answerable => exact ⟨_, answerable.channel, .inl ⟨_, _, rfl⟩⟩
  | answered answerable =>
    exact ⟨_, answerable.channel, .inr ⟨_, _, .inr ⟨answerable.valid, rfl⟩, rfl⟩⟩
  | crossed answerable proposed upgrade =>
    exact ⟨_, answerable.channel, .inr ⟨_, _, .inl upgrade, rfl⟩⟩
  | clashed answerable => exact ⟨_, answerable.channel, .inl ⟨_, _, rfl⟩⟩

end Upgrading

/-! ### Steps -/

/-- Where an upgrade is kept after a step, the end was there before and has the fields it had, and
the upgrade was kept before, or it comes from a proposal or an answer. -/
theorem LaneStep.of_upgrade [Digest] {h : Host} {a : Action} {e : EndId} {l l' : Lane} {d : Deed}
    {u : Upgrade} {y : ChannelEnd} (step : LaneStep h a e l d l') (recorded : l.Recorded)
    (kept : l'.upgrade = some u) (there : l'.channel = some y) :
    ∃ x, l.channel = some x ∧ y.fields = x.fields ∧ (l.upgrade = some u ∨
      (∃ cap m, a = .proposeUpgrade cap m ∧ m.owner = e) ∨
        ∃ m, a = .deliver (.upgrade (.answer m)) ∧ m.owner = e) := by
  cases step with
  | openAck _ m x hop peerHop time action owner channel state =>
    -- An end that opens has no upgrade yet.
    have none := (recorded.of_settled channel (state.imp_right .inl)).1
    rw [show l.upgrade = some u from kept] at none
    cases none
  | propose _ cap m x n sequence timeout hop c action owner channel =>
    cases there
    exact ⟨x, channel, rfl, .inr (.inl ⟨cap, m, action, owner.symm⟩)⟩
  | reply _ m x fields n action owner guard =>
    cases there
    exact ⟨x, guard.channel, rfl, .inr (.inr ⟨m, action, owner.symm⟩)⟩
  | cross _ m x fields own action owner guard =>
    cases there
    exact ⟨x, guard.channel, rfl, .inr (.inr ⟨m, action, owner.symm⟩)⟩
  | openInit => cases kept
  | openTry => cases kept
  | openConfirm _ m x hop peerHop peer time action owner channel =>
    cases there
    exact ⟨x, channel, rfl, .inl kept⟩
  | close _ cap m x action owner channel =>
    cases there
    exact ⟨x, channel, rfl, .inl kept⟩
  | timeoutOrdered _ m x c time action owner channel =>
    cases there
    exact ⟨x, channel, rfl, .inl kept⟩
  | agree _ m x own hop peerHop peer second time action owner channel =>
    cases there
    exact ⟨x, channel, rfl, .inl kept⟩
  | confirm => cases kept
  | finish => cases kept
  | cancel => cases kept
  | abort => cases kept
  | expire => cases kept
  | _ => exact ⟨y, there, rfl, .inl kept⟩

namespace Chain

variable [Digest] {c c' d : Chain} {rep : Report} {l : History}

theorem Delivers.upgrade_cases {m : UpgradeMessage} {r : Routed DeliveryReceipt}
    (delivers : c.Delivers (.upgrade m) r) (reports : Reports r.1 DeliveryReceipt.report rep) :
    r.2.host.store = c.host.store ∨ ∃ out, Upgrading.step c.host m = .ok out ∧
      rep.outcome = some (upgradeOutcome out.result.step) ∧
        r.2.host.store = c.host.store.applyUpgrade out.result := by
  cases delivers with
  | unrouted | failed | declined => exact .inl rfl
  | upgraded bound ok | upgradedTold bound ok =>
    rw [reports.done]
    exact .inr ⟨_, ok, rfl, rfl⟩

theorem Takes.upgrade_cases {m : UpgradeMessage} (taken : c.Takes (.deliver (.upgrade m)) rep c') :
    c'.host.store = c.host.store ∨ ∃ out, Upgrading.step c.host m = .ok out ∧
      rep.outcome = some (upgradeOutcome out.result.step) ∧
        c'.host.store = c.host.store.applyUpgrade out.result := by
  obtain ⟨d, performs, store⟩ := taken.exists_performs
  rw [store]
  cases performs with
  | refused => exact .inl rfl
  | relayed delivers reports => exact delivers.upgrade_cases reports

theorem Takes.propose_cases {cap : Capability} {m : UpgradeInit}
    (taken : c.Takes (.proposeUpgrade cap m) rep c') :
    c'.host.store = c.host.store ∨ ∃ out, Upgrading.propose c.host cap m = .ok out ∧
      c'.host.store = c.host.store.applyUpgrade out.result := by
  obtain ⟨d, performs, store⟩ := taken.exists_performs
  rw [store]
  cases performs with
  | refused => exact .inl rfl
  | proposed ok => exact .inr ⟨_, ok, rfl⟩

variable {a : Action} {e : EndId} {u : Upgrade} {x y : ChannelEnd}

/-- An upgrade is the one that was kept before, for an end with the same fields, or the host can carry
it; then it has a deadline, or it has the one of an answer that was just taken. -/
theorem Takes.carries (orderly : c.Orderly) (recorded : (c.host.store.lane e).Recorded)
    (taken : c.Takes a rep c')
    (there : c'.host.store.ends[e]? = some y) (kept : c'.host.store.upgrades[e]? = some u) :
    ∃ x, c.host.store.ends[e]? = some x ∧ y.fields = x.fields ∧
      (c.host.store.upgrades[e]? = some u ∨ c.host.Carries x u.fields ∧ (u.timeout.isSet = true ∨
        ∃ m, a = .deliver (.upgrade (.answer m)) ∧ rep.outcome = some .applied ∧ m.owner = e ∧
          m.timeout = u.timeout)) := by
  obtain ⟨deed, lane, -⟩ := (taken.stepped orderly).lane e
  obtain ⟨x, channel, fields, old | ⟨cap, m, rfl, rfl⟩ | ⟨m, rfl, rfl⟩⟩ :=
    lane.of_upgrade recorded kept there
  · exact ⟨x, channel, fields, .inl old⟩
  · refine ⟨x, channel, fields, ?_⟩
    obtain same | ⟨out, ok, store⟩ := taken.propose_cases
    · rw [same] at kept
      exact .inl kept
    obtain ⟨x', own, n, channel', carries, set, result⟩ := Upgrading.carries_of_propose ok
    obtain rfl : x' = x := Option.some.inj (channel'.symm.trans channel)
    rw [store, result, ChannelStore.upgrade_applyUpgrade _ ⟨m.owner, _, _⟩] at kept
    cases kept
    exact .inr ⟨carries, .inl set⟩
  · refine ⟨x, channel, fields, ?_⟩
    obtain same | ⟨out, ok, outcome, store⟩ := taken.upgrade_cases
    · rw [same] at kept
      exact .inl kept
    obtain ⟨x', channel', ⟨z, receipt, result⟩ | ⟨own, n, origin, result⟩⟩ :=
      Upgrading.carries_of_answer ok
    · rw [store, result, ChannelStore.upgrade_applyUpgrade _ ⟨m.owner, _, _⟩] at kept
      cases kept
    obtain rfl : x' = x := Option.some.inj (channel'.symm.trans channel)
    rw [store, result, ChannelStore.upgrade_applyUpgrade _ ⟨m.owner, _, _⟩] at kept
    cases kept
    rw [result] at outcome
    obtain old | ⟨carries, timeout⟩ := origin
    · exact .inl old
    · exact .inr ⟨carries, .inr ⟨m, rfl, outcome, rfl, timeout.symm⟩⟩

/-! ### All along a history -/

/-- A chain comes from one state to another by the actions of a history while its connections stay as
they are, whatever else happens around what the channel layer keeps. -/
inductive ReachesLinked (c : Chain) : History → Chain → Prop
  | rest : ReachesLinked c [] c
  | act {l : History} {d d' : Chain} {a : Action} {rep : Report} (before : ReachesLinked c l d)
    (taken : d.Takes a rep d') : ReachesLinked c (l ++ [(a, rep)]) d'
  | arrange {l : History} {d d' : Chain} (before : ReachesLinked c l d)
    (store : d'.host.store = d.host.store) (connections : d'.host.connections = d.host.connections)
    (ports : ∀ (port : PortId) (id : ModuleId), d.bindings[port]? = some id →
      ∃ id', d'.bindings[port]? = some id') : ReachesLinked c l d'

theorem Leads.reachesLinked (leads : c.Leads l d) : c.ReachesLinked l d := by
  induction leads with
  | rest => exact .rest
  | act before done ih => exact .act ih (.inl done)

namespace ReachesLinked

theorem reaches (linked : c.ReachesLinked l d) : c.Reaches l d := by
  induction linked with
  | rest => exact .rest
  | act before taken ih => exact .act ih taken
  | arrange before store connections ports ih => exact .arrange ih store ports

theorem carries (start : c.host.store = .empty) (linked : c.ReachesLinked l d)
    (there : d.host.store.ends[e]? = some x) (kept : d.host.store.upgrades[e]? = some u) :
    d.host.Carries x u.fields ∧ (u.timeout.isSet = true ∨
      ∃ m rep, (.deliver (.upgrade (.answer m)), rep) ∈ l ∧ rep.outcome = some .applied ∧
        m.owner = e ∧ m.timeout = u.timeout) := by
  induction linked generalizing x with
  | rest =>
    rw [start] at there
    simp [ChannelStore.empty] at there
  | @act l d d' a rep before taken ih =>
    -- What was kept before is carried still, since neither the connections nor the fields changed.
    have reaches := before.reaches
    have stepped := taken.stepped (reaches.orderly start)
    obtain ⟨x₀, channel, fields, old | ⟨carries, timeout⟩⟩ :=
      taken.carries (reaches.orderly start) (reaches.recorded start e)
        there kept
    · obtain ⟨carries, set | ⟨m, rep', mem, told⟩⟩ := ih channel old
      · exact ⟨carries.congr stepped.connections fields, .inl set⟩
      · exact ⟨carries.congr stepped.connections fields,
          .inr ⟨m, rep', List.mem_append_left _ mem, told⟩⟩
    · refine ⟨carries.congr stepped.connections fields, timeout.imp id ?_⟩
      rintro ⟨m, rfl, told⟩
      exact ⟨m, rep, List.mem_append_right _ List.mem_cons_self, told⟩
  | arrange before store connections ports ih =>
    rw [store] at there kept
    obtain ⟨carries, timeout⟩ := ih there kept
    exact ⟨carries.congr connections rfl, timeout⟩

/-- On a chain that started without channels and whose connections stay as they are, whatever the
other chains do: an upgrade that is kept, be its end closed or not, names one connection, which is
there, open and supports the ordering, and its fields are not those of the end. If the answers taken
for the end each named a deadline, the upgrade has a deadline too, and this can pass. -/
theorem stored_upgrade (start : c.host.store = .empty) (linked : c.ReachesLinked l d)
    (there : d.host.store.ends[e]? = some x) (kept : d.host.store.upgrades[e]? = some u) :
    (∃ hop conn, u.fields.hops = [hop] ∧ d.host.connections[hop]? = some conn ∧ conn.isOpen = true ∧
      conn.supports u.fields.ordering = true) ∧ u.fields ≠ x.fields ∧
    ((∀ m rep, (.deliver (.upgrade (.answer m)), rep) ∈ l → rep.outcome = some .applied →
        m.owner = e → m.timeout.isSet = true) →
      u.timeout.isSet = true ∧ ∃ height now, u.timeout.elapsedAt height now = true) := by
  obtain ⟨⟨changed, carried⟩, timeout⟩ := linked.carries start there kept
  refine ⟨carried, changed, fun named => ?_⟩
  have set : u.timeout.isSet = true := by
    obtain set | ⟨m, rep, mem, applied, owner, same⟩ := timeout
    · exact set
    · rw [← same]
      exact named m rep mem applied owner
  exact ⟨set, UpgradeTimeout.isSet_iff.1 set⟩

end ReachesLinked

end Chain

theorem Passage.timeout_upgraded [Digest] {v : ChannelVersion} {data : Bytes} (filled : data ≠ [])
    {i : Nat} {s : Side} {m : UpgradeTry} {rep : Report}
    (move : (upgraded v data filled).move i = some ⟨s, .deliver (.upgrade (.answer m)), rep⟩) :
    m.timeout = (pledge v).timeout := by
  refine Run.forall_move (P := fun n => ∀ k, n.action = .deliver (.upgrade (.answer k)) →
    k.timeout = (pledge v).timeout) (List.forall_mem_append.2 ⟨?_, List.forall_mem_append.2
      ⟨?_, ?_⟩⟩) move m rfl
  all_goals simp [opening, upgrading, passing, hears, upgradeTry]

/-- The upgrade of a chain that answered a proposal. -/
theorem Chain.ReachesLinked.stored_upgrade_upgraded :
    letI : Digest := .plain
    let r := Passage.upgraded "ics20-1" [1] (by decide)
    let d := r.world 11 .right
    ∃ x u, d.host.store.ends[Passage.owner]? = some x ∧ x.state = .tryUpgrade ∧
      d.host.store.upgrades[Passage.owner]? = some u ∧ u.fields ≠ x.fields ∧
      (∃ hop conn, u.fields.hops = [hop] ∧ d.host.connections[hop]? = some conn ∧
        conn.isOpen = true ∧ conn.supports u.fields.ordering = true) ∧
      u.timeout.isSet = true ∧ ∃ height now, u.timeout.elapsedAt height now = true := by
  let _ : Digest := .plain
  have filled : [1] ≠ ([] : Bytes) := by decide
  let r := Passage.upgraded "ics20-1" [1] filled
  have there : (r.world 11 .right).host.store.ends[Passage.owner]? =
      some (Passage.turning .tryUpgrade "ics20-1") := Passage.Shelf.ends_store
  have kept : (r.world 11 .right).host.store.upgrades[Passage.owner]? =
      some (Passage.pledge "ics20-1") := Passage.Shelf.upgrades_store
  obtain ⟨carried, changed, timely⟩ := stored_upgrade (r.started.chain .right).store
    (r.leads .right 11).reachesLinked there kept
  refine ⟨_, _, there, rfl, kept, changed, carried, timely ?_⟩
  intro m rep mem _ _
  obtain ⟨j, move⟩ := Run.exists_move_of_mem mem
  rw [Passage.timeout_upgraded filled move]
  decide

end Crosschain
