import Crosschain.Proofs.Relaying

/-!
# When a step of an upgrade succeeds

Two ends of a channel agree on terms: the connection between them, the ordering and the version. On
a host that can carry the old and the new terms, each step of an upgrade from the one to the other
succeeds when the end is in the right state, the deadline is not reached, and a block of the other
chain shows the end and the upgrade that the step asks for.
-/

namespace Crosschain

theorem Word.max_comm (a b : UInt64) : max a b = max b a := by
  show (if a ≤ b then b else a) = if b ≤ a then a else b
  split
  next le =>
    split
    next ge => exact UInt64.le_antisymm ge le
    next => rfl
  next gt => rw [if_pos (UInt64.le_of_lt (UInt64.not_le.1 gt))]

theorem Word.le_max_right (a b : UInt64) : b ≤ max a b :=
  Word.max_comm b a ▸ Word.le_max_left b a

theorem Word.exists_add?_pred (n : UInt64) : ∃ m, Word.add? (Word.pred n) 1 = some m := by
  have one : (1 : UInt64).toNat = 1 := rfl
  have small := n.toNat_lt_size
  refine ⟨Word.pred n + 1, if_pos ?_⟩
  rw [Word.pred]
  split
  next zero => decide
  next nonzero =>
    have positive : 1 ≤ n := by
      rw [UInt64.le_iff_toNat_le, one]
      exact Nat.pos_of_ne_zero fun none => nonzero (UInt64.toNat_inj.1 none)
    rw [UInt64.toNat_sub_of_le _ _ positive, one]
    rw [UInt64.le_iff_toNat_le, one] at positive
    omega

/-! ### Terms of a channel -/

/-- What two ends of a channel agree on: the connection between them, with its name and its end on
either side, the ordering, and the version. -/
structure Terms where
  hop : Side → ConnectionId
  conn : Side → ConnectionEnd
  ordering : Order
  version : ChannelVersion

namespace Terms

def fields (t : Terms) (s : Side) : UpgradeFields := ⟨t.ordering, [t.hop s], t.version⟩

/-- The end of a side, in a state and at an upgrade sequence, when the ends have these names. -/
def endAt (t : Terms) (owner : Side → EndId) (state : ChannelState) (n : Sequence) (s : Side) :
    ChannelEnd :=
  ⟨state, t.ordering, .ofEnd (owner s.other), [t.hop s], t.version, n⟩

theorem endAt_other {t : Terms} {owner : Side → EndId} {state : ChannelState} {n : Sequence}
    {s : Side} : t.endAt owner state n s.other =
      ⟨state, t.ordering, .ofEnd (owner s), [t.hop s.other], t.version, n⟩ := by
  rw [endAt, Side.other_other]

/-- The connection is open on a host, leads to the store of the other chain, and is known there by
its name. -/
structure Rests (t : Terms) (s : Side) (h : Host) : Prop where
  there : h.connections[t.hop s]? = some (t.conn s)
  isOpen : (t.conn s).isOpen
  label : (t.conn s).peer.label = .default
  peer : (t.conn s).peer.connection = some (t.hop s.other)

/-- On a host, the end of a side can go from old terms to new ones: the new ones are supported, and
if they change the ordering, nothing that the end sent is in flight. -/
structure Change (old new : Terms) (owner : Side → EndId) (s : Side) (h : Host) : Prop where
  rests : old.Rests s h
  rests' : new.Rests s h
  supported : (new.conn s).supports new.ordering
  counter : ∃ n, h.store.nextSend[owner s]? = some n
  flushed : new.ordering ≠ old.ordering → ∀ n, h.store.commitments[Slot.mk (owner s) n]? = none

namespace Rests

variable {t t' : Terms} {s : Side} {h h' : Host} {x : ChannelEnd}

theorem congr (rests : t.Rests s h) (same : h'.connections = h.connections) : t.Rests s h' :=
  ⟨same ▸ rests.there, rests.isOpen, rests.label, rests.peer⟩

theorem fields_ne (rests : t.Rests s h) (rests' : t'.Rests s h)
    (differ : t'.fields s.other ≠ t.fields s.other) : t'.fields s ≠ t.fields s := by
  intro same
  rw [fields, fields, UpgradeFields.mk.injEq, List.cons.injEq] at same
  obtain ⟨ordering, ⟨hop, -⟩, version⟩ := same
  -- One connection of the host has one name on the other chain.
  have conn : t'.conn s = t.conn s :=
    Option.some.inj (rests'.there.symm.trans (hop ▸ rests.there))
  have peer : t'.hop s.other = t.hop s.other :=
    Option.some.inj (rests'.peer.symm.trans (conn ▸ rests.peer))
  exact differ (by rw [fields, fields, ordering, peer, version])

theorem openConnection (rests : t.Rests s h) (hops : x.hops = [t.hop s]) :
    h.openConnection x = .ok (t.conn s) :=
  Host.openConnection_eq_ok.2 ⟨t.hop s, hops, rests.there, rests.isOpen⟩

theorem carries (rests : t.Rests s h) (supported : (t.conn s).supports t.ordering)
    (changed : t.fields s ≠ x.fields) : h.Carries x (t.fields s) :=
  ⟨changed, t.hop s, t.conn s, rfl, rests.there, rests.isOpen, supported⟩

theorem matchesPeer (rests : t.Rests s h) :
    Upgrading.matchesPeer h (t.fields s) (t.fields s.other) = .ok true := by
  have agree : (t.fields s).agreesWith (t.fields s.other) := by
    simp [UpgradeFields.agreesWith, fields]
  rw [Upgrading.matchesPeer, if_pos agree]
  simp only [Except.bind_eq_ok, Except.pure_eq_ok, Fault.lift_eq_ok, UpgradeFields.hop_eq_ok,
    Host.connectionAt_eq_ok, Host.peerHop_eq_ok]
  exact ⟨t.hop s, rfl, t.conn s, rests.there, t.hop s.other, rests.peer, t.hop s.other, rfl,
    decide_eq_true rfl⟩

variable [Digest] {b : Block} {e : EndId}

theorem provesEnd {expected : ChannelEnd} (rests : t.Rests s h)
    (knows : h.Knows (t.conn s) b.height b.header.consensus) (named : x.peer = .ofEnd e)
    (holds : b.Holds (.channelEnd e) expected.encode) :
    h.provesEnd (t.conn s) x b.height b.proof expected = .ok () :=
  Host.provesEnd_of_block knows named (by rw [rests.label]; exact holds)

theorem provesUpgrade {u : Upgrade} (rests : t.Rests s h)
    (knows : h.Knows (t.conn s) b.height b.header.consensus) (named : x.peer = .ofEnd e)
    (holds : b.Holds (.upgrade e) u.encode) :
    h.provesUpgrade (t.conn s) x b.height b.proof u = .ok () :=
  Host.provesUpgrade_of_block knows named (by rw [rests.label]; exact holds)

theorem provesReceipt {r : ErrorReceipt} (rests : t.Rests s h)
    (knows : h.Knows (t.conn s) b.height b.header.consensus) (named : x.peer = .ofEnd e)
    (holds : b.Holds (.upgradeError e) r.encode) :
    h.provesReceipt (t.conn s) x b.height b.proof r = .ok () :=
  Host.provesPeerValue_of_block knows named (by rw [rests.label]; exact holds)

end Rests

theorem Change.congr {old new : Terms} {owner : Side → EndId} {s : Side} {h h' : Host}
    (change : old.Change new owner s h) (connections : h'.connections = h.connections)
    (nextSend : h'.store.nextSend[owner s]? = h.store.nextSend[owner s]?)
    (commitments : ∀ n, h'.store.commitments[Slot.mk (owner s) n]? =
      h.store.commitments[Slot.mk (owner s) n]?) : old.Change new owner s h' := by
  refine ⟨change.rests.congr connections, change.rests'.congr connections, change.supported, ?_,
    fun turns n => ?_⟩
  · rw [nextSend]
    exact change.counter
  · rw [commitments]
    exact change.flushed turns n

theorem Change.symm {old new : Terms} {owner : Side → EndId} {s : Side} {h : Host}
    (change : old.Change new owner s h) (supported : (old.conn s).supports old.ordering) :
    new.Change old owner s h :=
  ⟨change.rests', change.rests, supported, change.counter, fun turns => change.flushed turns.symm⟩

end Terms

/-- An upgrade asks for fields by a deadline, and holds the number of the last packet that its end
sent. -/
structure Upgrade.Asks (u : Upgrade) (f : UpgradeFields) (t : UpgradeTimeout) : Prop where
  fields : u.fields = f
  timeout : u.timeout = t
  counted : ∃ n, u.latestSend = Word.pred n

/-! ### Packets in flight -/

namespace ChannelStore

variable {s : ChannelStore} {e : EndId} {n : Sequence}

/-- A commitment of an end stands under a number below a counter. -/
def CommittedBelow (s : ChannelStore) (e : EndId) (n : Sequence) : Prop :=
  ∃ k, (0 < k ∧ k < n) ∧ ∃ c, s.commitments[Slot.mk e k]? = some c

theorem exists_inFlight (counter : s.nextSend[e]? = some n) :
    ∃ b, s.inFlight e = .ok b ∧ (b = true ↔ s.CommittedBelow e n) := by
  refine ⟨_, Except.bind_eq_ok.2 ⟨n, nextSendOf_eq_ok.2 counter, rfl⟩, ?_⟩
  simp only [List.any_eq_true, decide_eq_true_eq]
  constructor
  · rintro ⟨⟨⟨owner, k⟩, c⟩, mem, rfl, bounds⟩
    exact ⟨k, bounds, c, Std.ExtTreeMap.mem_toList_iff_getElem?_eq_some.1 mem⟩
  · rintro ⟨k, bounds, c, stored⟩
    exact ⟨(⟨e, k⟩, c), Std.ExtTreeMap.mem_toList_iff_getElem?_eq_some.2 stored, rfl, bounds⟩

theorem inFlight_of_none (counter : s.nextSend[e]? = some n)
    (none : ∀ m, s.commitments[Slot.mk e m]? = none) : s.inFlight e = .ok false := by
  obtain ⟨b, found, below⟩ := exists_inFlight counter
  cases b with
  | false => exact found
  | true =>
    obtain ⟨k, -, c, stored⟩ := below.1 rfl
    rw [none] at stored
    cases stored

end ChannelStore

namespace Upgrading

variable {h : Host} {s : Side} {owner : Side → EndId} {old new : Terms} {st : ChannelState}
  {n k : Sequence} {u u' : Upgrade}

theorem ensureFlushed_of_change (change : old.Change new owner s h) (st : ChannelState)
    (n : Sequence) :
    ensureFlushed h (owner s) (old.endAt owner st n s) (new.fields s) = .ok () := by
  unfold ensureFlushed
  split
  · rfl
  next turns =>
    obtain ⟨m, counter⟩ := change.counter
    simp only [Except.bind_eq_ok, Fault.lift_eq_ok, Fault.ensure_eq_ok]
    exact ⟨false, ChannelStore.inFlight_of_none counter (change.flushed turns), rfl⟩

/-- The counters of an end that turns ordered go on after a number that was sent, so they fit. -/
theorem exists_sequenceReset {e : EndId} {x : ChannelEnd} {f g : UpgradeFields} {t : UpgradeTimeout}
    (counter : ∃ n, h.store.nextSend[e]? = some n) (peer : h.store.peerUpgrades[e]? = some u)
    (asks : u.Asks g t) : ∃ reset, sequenceReset h e x f = .ok reset := by
  unfold sequenceReset
  split
  · obtain ⟨m, sends⟩ := counter
    obtain ⟨last, counted⟩ := asks.counted
    obtain ⟨recv, sum⟩ := Word.exists_add?_pred last
    simp only [Except.bind_eq_ok, Except.pure_eq_ok, Fault.lift_eq_ok, Fault.checked_eq_ok,
      ChannelStore.peerUpgradeOf_eq_ok, ChannelStore.nextSendOf_eq_ok]
    exact ⟨_, u, peer, recv, by rw [counted]; exact sum, m, sends, rfl⟩
  · exact ⟨none, rfl⟩

/-! ### Proposing -/

theorem exists_propose {cap : Capability} {named : Option UpgradeTimeout} {t : UpgradeTimeout}
    (change : old.Change new owner s h) (changed : new.fields s ≠ old.fields s)
    (channel : h.store.ends[owner s]? = some (old.endAt owner .opened n s))
    (owns : h.store.authenticate (owner s) cap = .ok ())
    (until_then : deadline h named = .ok t) (set : t.isSet) (next : Word.add? n 1 = some k) :
    ∃ out own, propose h cap ⟨owner s, new.fields s, named⟩ = .ok out ∧
      out.result = ⟨owner s, old.endAt owner .initUpgrade k s, .proposed own⟩ ∧
      own.Asks (new.fields s) t := by
  obtain ⟨m, counter⟩ := change.counter
  have carries := change.rests'.carries (x := old.endAt owner .opened n s) change.supported changed
  exact ⟨_, _, propose_eq_ok.2 (.proposed channel owns rfl carries until_then set counter next), rfl,
    rfl, rfl, m, rfl⟩

section Verifying

variable [Digest] {b : Block}

/-! ### Answering -/

def answerTo (owner : Side → EndId) (new : Terms) (s : Side) (t : UpgradeTimeout) (u : Upgrade)
    (k : Sequence) (v : Evidence) : UpgradeTry :=
  ⟨owner s, (new.fields s).hops, t, u, k, v⟩

/-- What an answer rests on holds, when a block shows the proposal. -/
theorem answerable_of_block {t t' : UpgradeTimeout} {now : Timestamp}
    (change : old.Change new owner s h) (changed : new.fields s ≠ old.fields s)
    (channel : h.store.ends[owner s]? = some (old.endAt owner st n s))
    (state : st = .opened ∨ st = .initUpgrade)
    (knows : h.Knows (old.conn s) b.height b.header.consensus) (time : h.now? = some now)
    (asks : u.Asks (new.fields s.other) t') (before : t'.elapsedAt h.height now = false)
    (shown : b.Holds (.channelEnd (owner s.other))
      (old.endAt owner .initUpgrade k s.other).encode)
    (shown' : b.Holds (.upgrade (owner s.other)) u.encode) :
    Answerable h (answerTo owner new s t u k b.evidence) (old.endAt owner st n s)
      (new.fields s) := by
  let x := old.endAt owner st n s
  have first := change.rests.provesEnd (x := x) knows rfl shown
  have second := change.rests.provesUpgrade (x := x) knows rfl shown'
  rw [Terms.endAt_other] at first
  exact {
    channel := channel
    state := state
    inTime := ⟨now, time, by rw [← before, ← asks.timeout]; rfl⟩
    fields_eq := by rw [answerTo, asks.fields]; rfl
    valid := change.rests'.carries change.supported changed
    linked := ⟨new.hop s, new.hop s.other, new.conn s, rfl, congrArg UpgradeFields.hops asks.fields,
      change.rests'.there, change.rests'.peer⟩
    shown := ⟨old.conn s, old.hop s.other, b.proof, change.rests.openConnection rfl,
      change.rests.peer, first, rfl, second⟩ }

theorem exists_answer {t t' : UpgradeTimeout} {now : Timestamp}
    (change : old.Change new owner s h) (changed : new.fields s ≠ old.fields s)
    (channel : h.store.ends[owner s]? = some (old.endAt owner .opened n s))
    (knows : h.Knows (old.conn s) b.height b.header.consensus) (time : h.now? = some now)
    (asks : u.Asks (new.fields s.other) t') (before : t'.elapsedAt h.height now = false)
    (shown : b.Holds (.channelEnd (owner s.other))
      (old.endAt owner .initUpgrade k s.other).encode)
    (shown' : b.Holds (.upgrade (owner s.other)) u.encode) (newer : ¬ k ≤ n) :
    ∃ out own, answer h (answerTo owner new s t u k b.evidence) = .ok out ∧
      out.result = ⟨owner s, old.endAt owner .tryUpgrade k s, .answered own u⟩ ∧
      own.Asks (new.fields s) t := by
  obtain ⟨m, counter⟩ := change.counter
  have answerable := answerable_of_block (t := t) change changed channel (.inl rfl) knows time asks
    before shown shown'
  have flushed := ensureFlushed_of_change change .opened n
  exact ⟨_, _, step_eq_ok.2 (.answered answerable rfl newer counter flushed), rfl, rfl, rfl, m, rfl⟩

theorem exists_cross {t t' t'' : UpgradeTimeout} {now : Timestamp} {own : Upgrade}
    (change : old.Change new owner s h) (changed : new.fields s ≠ old.fields s)
    (channel : h.store.ends[owner s]? = some (old.endAt owner .initUpgrade n s))
    (upgrade : h.store.upgrades[owner s]? = some own) (asked : own.Asks (new.fields s) t'')
    (knows : h.Knows (old.conn s) b.height b.header.consensus) (time : h.now? = some now)
    (asks : u.Asks (new.fields s.other) t') (before : t'.elapsedAt h.height now = false)
    (shown : b.Holds (.channelEnd (owner s.other))
      (old.endAt owner .initUpgrade k s.other).encode)
    (shown' : b.Holds (.upgrade (owner s.other)) u.encode) :
    ∃ out, answer h (answerTo owner new s t u k b.evidence) = .ok out ∧
      out.result = ⟨owner s, old.endAt owner .tryUpgrade (max n k) s, .answered own u⟩ := by
  have answerable := answerable_of_block (t := t) change changed channel (.inr rfl) knows time asks
    before shown shown'
  have flushed := ensureFlushed_of_change change .initUpgrade n
  have agree : own.fields.agreesWith u.fields ∧ own.fields.hops = (new.fields s).hops := by
    rw [asked.fields, asks.fields]
    simp [UpgradeFields.agreesWith, Terms.fields]
  rw [← asked.fields] at flushed
  exact ⟨_, step_eq_ok.2 (.crossed answerable (fun same => by cases same) upgrade agree flushed), rfl⟩

/-! ### Acknowledging and completing -/

theorem exists_acknowledge {t t' : UpgradeTimeout} {own : Upgrade}
    (change : old.Change new owner s h)
    (channel : h.store.ends[owner s]? = some (old.endAt owner st n s))
    (state : st = .initUpgrade ∨ st = .tryUpgrade)
    (upgrade : h.store.upgrades[owner s]? = some own) (asked : own.Asks (new.fields s) t)
    (knows : h.Knows (old.conn s) b.height b.header.consensus)
    (before : t.elapsedAt b.height b.timestamp = false) (asks : u.Asks (new.fields s.other) t')
    (shown : b.Holds (.channelEnd (owner s.other)) (old.endAt owner .tryUpgrade n s.other).encode)
    (shown' : b.Holds (.upgrade (owner s.other)) u.encode) :
    ∃ out, acknowledge h ⟨owner s, u, b.evidence⟩ = .ok out ∧
      out.result = ⟨owner s, old.endAt owner .ackUpgrade n s, .acknowledged u⟩ := by
  let x := old.endAt owner st n s
  have first := change.rests.provesEnd (x := x) knows rfl shown
  have second := change.rests.provesUpgrade (x := x) knows rfl shown'
  have fits := change.rests'.matchesPeer
  have flushed := ensureFlushed_of_change change st n
  rw [Terms.endAt_other] at first
  rw [← asked.fields, ← asks.fields] at fits
  rw [← asked.fields] at flushed
  have in_time : ¬ own.timeout.elapsedAt b.height b.timestamp = true := by
    rw [asked.timeout, before]
    decide
  have answered : Answered h ⟨owner s, u, b.evidence⟩ x (old.conn s) own :=
    ⟨⟨channel, change.rests.openConnection rfl, upgrade⟩, state,
      ⟨old.hop s.other, change.rests.peer, first⟩, b.proof, rfl, second⟩
  exact ⟨_, step_eq_ok.2 (.acknowledged answered fits knows in_time flushed), rfl⟩

theorem exists_confirm {t t' : UpgradeTimeout} {own : Upgrade}
    (change : old.Change new owner s h)
    (channel : h.store.ends[owner s]? = some (old.endAt owner .tryUpgrade n s))
    (upgrade : h.store.upgrades[owner s]? = some own) (asked : own.Asks (new.fields s) t)
    (peer : h.store.peerUpgrades[owner s]? = some u) (asks : u.Asks (new.fields s.other) t')
    (knows : h.Knows (old.conn s) b.height b.header.consensus)
    (before : t.elapsedAt b.height b.timestamp = false)
    (shown : b.Holds (.channelEnd (owner s.other))
      (old.endAt owner .ackUpgrade n s.other).encode) :
    ∃ out reset, confirm h ⟨owner s, b.evidence⟩ = .ok out ∧
      out.result = ⟨owner s, new.endAt owner .opened n s, .completed reset⟩ := by
  let x := old.endAt owner .tryUpgrade n s
  have first := change.rests.provesEnd (x := x) knows rfl shown
  rw [Terms.endAt_other] at first
  obtain ⟨reset, counters⟩ :=
    exists_sequenceReset (x := x) (f := own.fields) change.counter peer asks
  have in_time : ¬ own.timeout.elapsedAt b.height b.timestamp = true := by
    rw [asked.timeout, before]
    decide
  have acknowledged : Acknowledged h ⟨owner s, b.evidence⟩ x (old.conn s) own :=
    ⟨⟨channel, change.rests.openConnection rfl, upgrade⟩, rfl, old.hop s.other, change.rests.peer,
      first⟩
  refine ⟨_, reset, step_eq_ok.2 (.confirmed acknowledged knows in_time counters), ?_⟩
  rw [asked.fields]
  rfl

/-- The end the other chain has to show for an end to finish: it completed with the new terms, or
acknowledged too. -/
inductive Finished (old new : Terms) (owner : Side → EndId) (n : Sequence) (s : Side) :
    ChannelState → ChannelEnd → Prop
  | opened : Finished old new owner n s .opened (new.endAt owner .opened n s)
  | ackUpgrade : Finished old new owner n s .ackUpgrade (old.endAt owner .ackUpgrade n s)

theorem exists_finish {t t' : UpgradeTimeout} {own : Upgrade} {y : ChannelEnd}
    (change : old.Change new owner s h)
    (channel : h.store.ends[owner s]? = some (old.endAt owner .ackUpgrade n s))
    (upgrade : h.store.upgrades[owner s]? = some own) (asked : own.Asks (new.fields s) t)
    (peer : h.store.peerUpgrades[owner s]? = some u) (asks : u.Asks (new.fields s.other) t')
    (knows : h.Knows (old.conn s) b.height b.header.consensus)
    (finished : Finished old new owner n s.other st y)
    (shown : b.Holds (.channelEnd (owner s.other)) y.encode) :
    ∃ out reset, finish h ⟨owner s, st, b.evidence⟩ = .ok out ∧
      out.result = ⟨owner s, new.endAt owner .opened n s, .completed reset⟩ := by
  let x := old.endAt owner .ackUpgrade n s
  have first := change.rests.provesEnd (x := x) knows rfl shown
  have expected : expectedFinished h ⟨owner s, st, b.evidence⟩ (old.conn s) x own = .ok y := by
    cases finished with
    | opened =>
      simp only [expectedFinished, Except.bind_eq_ok, Except.pure_eq_ok, Fault.lift_eq_ok,
        UpgradeFields.hop_eq_ok, Host.connectionAt_eq_ok, Host.peerHop_eq_ok, asked.fields]
      refine ⟨new.hop s, rfl, new.conn s, change.rests'.there, new.hop s.other,
        change.rests'.peer, ?_⟩
      rw [Terms.endAt_other]
      rfl
    | ackUpgrade =>
      simp only [expectedFinished, Except.bind_eq_ok, Except.pure_eq_ok, Host.peerHop_eq_ok]
      refine ⟨old.hop s.other, change.rests.peer, ?_⟩
      rw [Terms.endAt_other]
      rfl
  obtain ⟨reset, counters⟩ :=
    exists_sequenceReset (x := x) (f := own.fields) change.counter peer asks
  refine ⟨_, reset, step_eq_ok.2 (.finished ⟨channel, change.rests.openConnection rfl, upgrade⟩ rfl
    expected first counters), ?_⟩
  rw [asked.fields]
  rfl

end Verifying

end Upgrading

end Crosschain
