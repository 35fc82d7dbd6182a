import Crosschain.Proofs.Completion
import Crosschain.Proofs.EndSteps

/-!
# Upgrades that are given up

An end that is brought a step of an upgrade it cannot go on with gives the upgrade up: it is open
again, and leaves a receipt at its sequence, which is no lower than the one that the step was about.
With the receipt the other end can give up as well. After that both are open at one sequence, with
what they agreed on before, and the next proposal of either is new to the other.
-/

namespace Crosschain

/-! ### Before an upgrade -/

theorem EndStep.of_isUpgrading {x y : ChannelEnd} {d : Deed} (step : EndStep x d y)
    (before : x.state = .opened ∨ x.state.isUpgrading) (after : y.state.isUpgrading) :
    y.fields = x.fields ∧ y.peer = x.peer := by
  cases step with
  | acked c version state => rcases state with state | state <;> simp_all [ChannelState.isUpgrading]
  -- An end whose upgrade is completed or restored is open.
  | completed => cases after
  | restored => cases after
  | _ => exact ⟨rfl, rfl⟩

variable [Digest]

/-- The end that a chain kept when it was last open: it is open now, or has been in an upgrade
since. -/
inductive Chain.LastOpen (e : EndId) (x : ChannelEnd) : Chain → Prop
  | here {c : Chain} (orderly : c.Orderly) (channel : c.host.store.ends[e]? = some x)
    (state : x.state = .opened) : LastOpen e x c
  | since {c c' : Chain} {a : Action} {rep : Report} {y : ChannelEnd} (before : LastOpen e x c)
    (done : c.perform a = some (rep, c')) (channel : c'.host.store.ends[e]? = some y)
    (state : y.state.isUpgrading) : LastOpen e x c'

namespace Chain.LastOpen

variable {e : EndId} {x : ChannelEnd} {c : Chain}

theorem kept (last : LastOpen e x c) : c.Orderly ∧ x.state = .opened ∧
    ∃ y, c.host.store.ends[e]? = some y ∧ (y.state = .opened ∨ y.state.isUpgrading) ∧
      y.fields = x.fields ∧ y.peer = x.peer := by
  induction last with
  | here orderly channel state => exact ⟨orderly, state, x, channel, .inl state, rfl, rfl⟩
  | @since c c' a rep y before done channel state ih =>
    obtain ⟨orderly, opened, z, there, going, fields, peer⟩ := ih
    obtain ⟨d, lane, -⟩ := (perform_stepped orderly done).lane e
    obtain ⟨y', there', step⟩ := lane.endStep there
    obtain rfl : y' = y := Option.some.inj (there'.symm.trans channel)
    obtain ⟨fields', peer'⟩ := step.of_isUpgrading going state
    exact ⟨orderly.perform done, opened, y', channel, .inr state, fields'.trans fields,
      peer'.trans peer⟩

end Chain.LastOpen

/-! ### Giving up -/

/-- The evidence proves to a host that the other chain keeps an end. -/
def Host.Shown (h : Host) (c : ConnectionEnd) (v : Evidence) (e : EndId) (x : ChannelEnd) : Prop :=
  ∃ cs, h.Knows c v.height cs ∧ cs.Opens c.peer.label v.object (.channelEnd e) (some x.encode)

theorem Host.shown_of_provesEnd {h : Host} {c : ConnectionEnd} {x y : ChannelEnd} {v : Evidence}
    {e : EndId} {u : Unit} (named : x.peer = .ofEnd e)
    (proves : h.provesEnd c x v.height v.object y = .ok u) : h.Shown c v e y := by
  obtain ⟨cs, f, knows, named', opens⟩ := provesPeerValue_eq_ok proves
  obtain rfl := ChannelPeer.ofEnd_injective (named.symm.trans named')
  exact ⟨cs, knows, opens⟩

theorem Host.Shown.unique {h : Host} {c : ConnectionEnd} {v : Evidence} {e : EndId}
    {x y : ChannelEnd} (first : h.Shown c v e x) (second : h.Shown c v e y) : x = y := by
  obtain ⟨cs, knows, snapshot, opened, there⟩ := first
  obtain ⟨cs', knows', snapshot', opened', there'⟩ := second
  obtain rfl := knows.unique knows'
  obtain rfl : snapshot = snapshot' := Except.ok.inj (opened.symm.trans opened')
  exact ChannelEnd.encode_injective (Option.some.inj (there.symm.trans there'))

namespace Upgrading

variable {h : Host} {s : Side} {owner : Side → EndId} {t : Terms} {st : ChannelState}
  {n : Sequence} {out : Output UpgradeChange}

/-- A step that gives up: the end is open at the sequence of the receipt, which is no lower than the
one of the end of the other chain that the evidence is about. -/
structure GivesUp (h : Host) (t : Terms) (owner : Side → EndId) (s : Side) (v : Evidence)
    (change : UpgradeChange) (y : ChannelEnd) (r : ErrorReceipt) : Prop where
  shown : h.Shown (t.conn s) v (owner s.other) y
  upgrading : ∃ st, st.isUpgrading ∧ y = t.endAt owner st y.upgradeSequence s.other
  le : y.upgradeSequence ≤ r.sequence
  change_eq : change = ⟨owner s, t.endAt owner .opened r.sequence s, .aborted r⟩

theorem givesUp_of_abort {r : ErrorReceipt} {v : Evidence} {e : EndId} {st' : ChannelState}
    {k m : Sequence} {cause : ChannelError} (named : e = owner s)
    (shown : h.Shown (t.conn s) v (owner s.other) (t.endAt owner st' k s.other))
    (upgrading : st'.isUpgrading) (le : k ≤ m)
    (aborted : (abort e (t.endAt owner st m s) cause).result.step = .aborted r) :
    GivesUp h t owner s v (abort e (t.endAt owner st m s) cause).result
      (t.endAt owner st' k s.other) r := by
  subst named
  obtain rfl := UpgradeStep.aborted.inj aborted
  exact ⟨shown, ⟨st', upgrading, rfl⟩, le, rfl⟩

section Steps

variable (rests : t.Rests s h)

include rests

theorem shown_of_proof {c : ConnectionEnd} {hop : ConnectionId} {v : Evidence} {e : EndId}
    {st' : ChannelState} {k : Sequence} {u : Unit} (named : e = owner s)
    (opened : h.openConnection (t.endAt owner st n s) = .ok c)
    (peer : c.peer.connection = some hop)
    (proves : h.provesEnd c (t.endAt owner st n s) v.height v.object
      ⟨st', t.ordering, .ofEnd e, [hop], t.version, k⟩ = .ok u) :
    h.Shown (t.conn s) v (owner s.other) (t.endAt owner st' k s.other) := by
  subst named
  rw [rests.openConnection rfl, Except.ok.injEq] at opened
  subst opened
  obtain rfl := Option.some.inj (rests.peer.symm.trans peer)
  rw [Terms.endAt_other]
  exact Host.shown_of_provesEnd rfl proves

theorem Answerable.shown_end {m : UpgradeTry} {fields : UpgradeFields} (named : m.owner = owner s)
    (answerable : Answerable h m (t.endAt owner st n s) fields) :
    h.Shown (t.conn s) m.evidence (owner s.other)
      (t.endAt owner .initUpgrade m.peerSequence s.other) := by
  obtain ⟨c, hop, second, opened, peer, proves, -⟩ := answerable.shown
  exact shown_of_proof rests named opened peer proves

theorem ShowsPeer.shown_end {c : ConnectionEnd} {own : Upgrade} {v : Evidence} {e : EndId}
    {st' : ChannelState} (named : e = owner s)
    (running : Running h e (t.endAt owner st n s) c own)
    (shown : ShowsPeer h e (t.endAt owner st n s) c v st') :
    h.Shown (t.conn s) v (owner s.other) (t.endAt owner st' n s.other) := by
  obtain ⟨hop, peer, proves⟩ := shown
  exact shown_of_proof rests named running.connection peer proves

/-- Whenever a step gives up, it does so with a receipt that is new enough for the other end. -/
theorem givesUp_of_step {m : UpgradeMessage} {r : ErrorReceipt} (named : m.owner = owner s)
    (channel : h.store.ends[m.owner]? = some (t.endAt owner st n s)) (ok : step h m = .ok out)
    (aborted : out.result.step = .aborted r) :
    ∃ v y, (Datagram.upgrade m).evidence? = some v ∧ GivesUp h t owner s v out.result y r := by
  cases step_eq_ok.1 ok with
  | outdated answerable opened old counted =>
    -- An open end is left at its own sequence, which an old proposal has not passed.
    obtain rfl := Option.some.inj (answerable.channel.symm.trans channel)
    exact ⟨_, _, rfl, givesUp_of_abort named (answerable.shown_end rests named) rfl old aborted⟩
  | clashed answerable proposed upgrade differs =>
    -- An end that proposed itself goes to the greater sequence.
    obtain rfl := Option.some.inj (answerable.channel.symm.trans channel)
    exact ⟨_, _, rfl, givesUp_of_abort named (answerable.shown_end rests named) rfl
      (Word.le_max_right _ _) aborted⟩
  | mismatched answered differs =>
    obtain rfl := Option.some.inj (answered.running.channel.symm.trans channel)
    exact ⟨_, _, rfl, givesUp_of_abort named (answered.shown.shown_end rests named answered.running)
      rfl (UInt64.le_refl _) aborted⟩
  | answeredLate answered same knows late =>
    obtain rfl := Option.some.inj (answered.running.channel.symm.trans channel)
    exact ⟨_, _, rfl, givesUp_of_abort named (answered.shown.shown_end rests named answered.running)
      rfl (UInt64.le_refl _) aborted⟩
  | acknowledgedLate acknowledged knows late =>
    obtain rfl := Option.some.inj (acknowledged.running.channel.symm.trans channel)
    exact ⟨_, _, rfl, givesUp_of_abort named
      (acknowledged.shown.shown_end rests named acknowledged.running) rfl (UInt64.le_refl _) aborted⟩
  | _ => cases aborted

end Steps

theorem exists_answer_late {new : Terms} {b : Block} {k j : Sequence} {u : Upgrade}
    {d d' : UpgradeTimeout} {now : Timestamp} (change : t.Change new owner s h)
    (changed : new.fields s ≠ t.fields s)
    (channel : h.store.ends[owner s]? = some (t.endAt owner .opened n s))
    (knows : h.Knows (t.conn s) b.height b.header.consensus) (time : h.now? = some now)
    (asks : u.Asks (new.fields s.other) d') (before : d'.elapsedAt h.height now = false)
    (shown : b.Holds (.channelEnd (owner s.other)) (t.endAt owner .initUpgrade k s.other).encode)
    (shown' : b.Holds (.upgrade (owner s.other)) u.encode) (late : k ≤ n)
    (counted : Word.add? n 1 = some j) :
    ∃ out r, answer h (answerTo owner new s d u k b.evidence) = .ok out ∧
      out.result = ⟨owner s, t.endAt owner .opened n s, .aborted r⟩ ∧ r.sequence = n := by
  have answerable := answerable_of_block (t := d) change changed channel (.inl rfl) knows time asks
    before shown shown'
  exact ⟨_, _, step_eq_ok.2 (.outdated answerable rfl late counted), rfl, rfl⟩

/-! ### Cancelling -/

theorem exists_cancel {b : Block} {r : ErrorReceipt} (rests : t.Rests s h)
    (channel : h.store.ends[owner s]? = some (t.endAt owner st n s)) (upgrading : st.isUpgrading)
    (le : n ≤ r.sequence) (knows : h.Knows (t.conn s) b.height b.header.consensus)
    (shown : b.Holds (.upgradeError (owner s.other)) r.encode) :
    ∃ out, cancel h ⟨owner s, r, b.evidence⟩ = .ok out ∧
      out.result = ⟨owner s, t.endAt owner .opened r.sequence s, .cancelled⟩ := by
  have shown := rests.provesReceipt (x := t.endAt owner st n s) knows rfl shown
  exact ⟨_, (step_eq_ok (m := .cancel ⟨owner s, r, b.evidence⟩)).2 (.cancelled channel upgrading
    (UInt64.not_lt.2 le) (rests.openConnection rfl) shown), rfl⟩

/-! ### Proposing again -/

omit [Digest] in
theorem sequence_of_propose {cap : Capability} {m : UpgradeInit} {x : ChannelEnd}
    (channel : h.store.ends[m.owner]? = some x) (ok : propose h cap m = .ok out) :
    out.result.owner = m.owner ∧ x.upgradeSequence < out.result.value.upgradeSequence := by
  cases propose_eq_ok.1 ok with
  | proposed there owned state valid named set counter counted =>
    obtain rfl := Option.some.inj (channel.symm.trans there)
    exact ⟨rfl, Word.lt_of_add?_one counted⟩

theorem not_aborted_of_newer {m : UpgradeTry} {x : ChannelEnd}
    (channel : h.store.ends[m.owner]? = some x) (state : x.state = .opened)
    (newer : x.upgradeSequence < m.peerSequence) (ok : answer h m = .ok out) :
    Chain.upgradeOutcome out.result.step = .applied := by
  cases succeeds_of_answer ok with
  | outdated answerable opened old counted =>
    obtain rfl := Option.some.inj (channel.symm.trans answerable.channel)
    exact absurd newer (UInt64.not_lt.2 old)
  | clashed answerable proposed upgrade differs =>
    obtain rfl := Option.some.inj (channel.symm.trans answerable.channel)
    exact absurd state proposed
  | _ => rfl

end Upgrading

/-! ### Both ends -/

namespace Chain

variable {c c' : Chain} {rep : Report}

theorem Delivers.exists_step {m : UpgradeMessage} {receipt : DeliveryReceipt} {d : Chain}
    (delivers : c.Delivers (.upgrade m) (.ok receipt, d)) :
    ∃ out, Upgrading.step c.host m = .ok out ∧
      receipt.outcome = upgradeOutcome out.result.step ∧
      d.host.store = c.host.store.applyUpgrade out.result := by
  cases delivers with
  | upgraded bound ok | upgradedTold bound ok => exact ⟨_, ok, rfl, rfl⟩

theorem exists_step_of_perform {m : UpgradeMessage} {o : Outcome}
    (done : c.perform (.deliver (.upgrade m)) = some (rep, c')) (taken : rep.outcome = some o) :
    ∃ out, Upgrading.step c.host m = .ok out ∧ o = upgradeOutcome out.result.step ∧
      c'.host.store = c.host.store.applyUpgrade out.result ∧ ∃ b, c'.Current b := by
  obtain ⟨e, -, rfl⟩ | ⟨receipt, d, delivers, rfl, more⟩ := deliver_cases done
  · cases taken
  obtain ⟨out, step, outcome, stored⟩ := delivers.exists_step
  exact ⟨out, step, (Option.some.inj taken).symm.trans outcome,
    (store_of_advance? more).trans stored, current_of_advance more⟩

theorem exists_propose_of_perform {cap : Capability} {m : UpgradeInit}
    (done : c.perform (.proposeUpgrade cap m) = some (rep, c'))
    (taken : rep.outcome = some .applied) :
    ∃ out, Upgrading.propose c.host cap m = .ok out ∧
      c'.host.store = c.host.store.applyUpgrade out.result := by
  obtain ⟨d, performs, store⟩ := exists_performs_store done
  cases performs with
  | refused => cases taken
  | proposed ok => exact ⟨_, ok, store⟩

omit [Digest] in
theorem openWith_of_applyUpgrade {t : Terms} {owner : Side → EndId} {s : Side} {n : Sequence}
    {step : UpgradeStep}
    (store : c'.host.store = c.host.store.applyUpgrade ⟨owner s, t.endAt owner .opened n s, step⟩)
    (own : step.ownAfter = fun _ => none) (peer : step.peerAfter = fun _ => none) :
    c'.OpenWith t owner n s := by
  obtain ⟨recv, ack, receipt, lane⟩ :=
    c.host.store.exists_lane_applyUpgrade ⟨owner s, t.endAt owner .opened n s, step⟩
  rw [← store] at lane
  simp only [own, peer] at lane
  exact ⟨congrArg Lane.channel lane, congrArg Lane.upgrade lane, congrArg Lane.peerUpgrade lane⟩

end Chain

omit [Digest] in
theorem Terms.eq_endAt {t : Terms} {owner : Side → EndId} {s : Side} {x : ChannelEnd}
    (fields : x.fields = t.fields s) (peer : x.peer = .ofEnd (owner s.other)) :
    x = t.endAt owner x.state x.upgradeSequence s := by
  obtain ⟨state, ordering, _, hops, version, n⟩ := x
  simp only [ChannelEnd.fields, Terms.fields, UpgradeFields.mk.injEq] at fields peer
  obtain ⟨rfl, rfl, rfl⟩ := fields
  subst peer
  rfl

namespace World

/-- The next proposal on the end of a side is not taken for an old one: as long as the other end
stays as it is, it does not give up at that proposal. -/
def NextIsNew (w : World) (owner : Side → EndId) (s : Side) : Prop :=
  ∀ (cap : Capability) (i : UpgradeInit) (rep : Report) (c : Chain), i.owner = owner s →
    (w s).perform (.proposeUpgrade cap i) = some (rep, c) → rep.outcome = some .applied →
    ∃ x, c.host.store.ends[owner s]? = some x ∧
      ∀ (m : UpgradeTry) (d d' : Chain) (rep' : Report), m.owner = owner s.other →
        m.peerSequence = x.upgradeSequence →
        d.host.store.ends[m.owner]? = (w s.other).host.store.ends[m.owner]? →
        d.perform (.deliver (.upgrade (.answer m))) = some (rep', d') →
        rep'.outcome ≠ some .aborted

variable {w : World} {t : Terms} {owner : Side → EndId} {s : Side} {n : Sequence}

theorem nextIsNew_of_openWith (level : ∀ q, (w q).OpenWith t owner n q) : w.NextIsNew owner s := by
  intro cap i rep c named done taken
  obtain ⟨out, proposed, store⟩ := Chain.exists_propose_of_perform done taken
  have channel := (level s).channel
  rw [← named] at channel ⊢
  -- The proposal counts beyond the sequence that both ends are at.
  obtain ⟨same, later⟩ := Upgrading.sequence_of_propose channel proposed
  obtain ⟨recv, ack, receipt, lane⟩ := (w s).host.store.exists_lane_applyUpgrade out.result
  rw [← store, same] at lane
  refine ⟨out.result.value, congrArg Lane.channel lane, fun m d d' rep' named' new kept done' => ?_⟩
  intro aborted
  obtain ⟨out', answered, outcome, -⟩ := Chain.exists_step_of_perform done' aborted
  rw [named', (level s.other).channel] at kept
  rw [Upgrading.not_aborted_of_newer (named' ▸ kept) rfl (new ▸ later) answered] at outcome
  cases outcome

theorem exists_takes_cancel {c : Chain} {r : ErrorReceipt} {st : ChannelState} {k : Sequence}
    {id : ModuleId} {app : Application} {b : Block} (clean : (owner s).Clean)
    (left : c.OpenWith t owner r.sequence s)
    (receipt : c.host.store.errorReceipts[owner s]? = some r) (current : c.Current b)
    (rests : t.Rests s.other (w s.other).host)
    (channel : (w s.other).host.store.ends[owner s.other]? = some (t.endAt owner st k s.other))
    (upgrading : st.isUpgrading) (le : k ≤ r.sequence) (thawed : (w s.other).host.Thawed)
    (bound : (w s.other).appOf (owner s.other).port = .ok (id, app))
    (room : (w s.other).host.height.Room 1) :
    ∃ w', (w.put s c).Takes s.other (t.conn s.other).client
        (fun e => .cancel ⟨owner s.other, r, e⟩) w' ∧
      ∀ q, (w' q).OpenWith t owner r.sequence q := by
  let client := (t.conn s.other).client
  have shown : b.Holds (.upgradeError (owner s.other.other)) r.encode := by
    rw [Side.other_other]
    exact current.shows.holds_receipt clean receipt
  obtain ⟨out, step, result⟩ := Upgrading.exists_cancel
    (h := (w s.other).host.updateClient client b.header) (rests.congr rfl) channel upgrading le
    thawed.knows shown
  have agrees (call : Call) (told : Chain.upgradeCall? (.cancel ⟨owner s.other, r, b.evidence⟩)
      out.result = some call) : (app.reply call).refusal = none := by
    rw [result] at told
    cases told
    rfl
  obtain ⟨d, relays, next⟩ :=
    Chain.exists_relays (m := .cancel ⟨owner s.other, r, b.evidence⟩) bound step agrees room
  rw [result] at relays next
  refine ⟨(w.put s c).put s.other d, takes_put (b := b) ?_ ?_, fun q => ?_⟩
  · simpa using current.newest
  · rw [put_other]
    exact relays
  · obtain rfl | rfl := q.eq_or_eq_other s
    · simpa using left
    · simpa using Chain.openWith_of_applyUpgrade next.store rfl rfl

/-- Whenever a step of an upgrade makes an end give up, it is open again as it was before, at the
sequence of the receipt it leaves, which is no lower than that of the end it was shown. If the other
chain still keeps that end, a relayed receipt makes it give up as well; then both ends are open at
one sequence, as they were before, and what either proposes next is new to the other. -/
theorem aborted_cancels {m : UpgradeMessage} {rep : Report} {c : Chain}
    (rests : ∀ q, t.Rests q (w q).host) (clean : (owner s).Clean)
    (before : (w s).LastOpen (owner s) (t.endAt owner .opened n s)) (named : m.owner = owner s)
    (done : (w s).perform (.deliver (.upgrade m)) = some (rep, c))
    (aborted : rep.outcome = some .aborted) :
    ∃ v y r, (Datagram.upgrade m).evidence? = some v ∧
      (w s).host.Shown (t.conn s) v (owner s.other) y ∧ y.upgradeSequence ≤ r.sequence ∧
      c.host.store.errorReceipts[owner s]? = some r ∧ c.OpenWith t owner r.sequence s ∧
      ((w s.other).host.store.ends[owner s.other]? = some y → (w s.other).host.Thawed →
        (w s.other).host.height.Room 1 →
        (∃ id app, (w s.other).appOf (owner s.other).port = .ok (id, app)) →
        (∀ x, (w s.other).LastOpen (owner s.other) x →
          x = t.endAt owner .opened x.upgradeSequence s.other) ∧
        ∃ w', (w.put s c).Takes s.other (t.conn s.other).client
            (fun e => .cancel ⟨owner s.other, r, e⟩) w' ∧
          ∀ q, (w' q).OpenWith t owner r.sequence q ∧ w'.NextIsNew owner q) := by
  obtain ⟨orderly, -, x, channel, -, fields, peer⟩ := before.kept
  rw [Terms.eq_endAt fields peer] at channel
  obtain ⟨out, step, outcome, store, b, current⟩ := Chain.exists_step_of_perform done aborted
  obtain ⟨r, gave_up⟩ : ∃ r, out.result.step = .aborted r := by
    cases kind : out.result.step with
    | aborted r => exact ⟨r, rfl⟩
    | _ => simp [kind, Chain.upgradeOutcome] at outcome
  obtain ⟨v, y, evidence, shown, ⟨st, upgrading, met⟩, le, result⟩ :=
    Upgrading.givesUp_of_step (rests s) named (named ▸ channel) step gave_up
  rw [result] at store
  have left : c.OpenWith t owner r.sequence s := Chain.openWith_of_applyUpgrade store rfl rfl
  have receipt : c.host.store.errorReceipts[owner s]? = some r := by
    rw [store]
    simp [ChannelStore.applyUpgrade, ChannelStore.setErrorReceipt]
  refine ⟨v, y, r, evidence, shown, le, receipt, left, ?_⟩
  rintro kept thawed room ⟨id, app, bound⟩
  refine ⟨fun x last => ?_, ?_⟩
  · -- The shown end has the terms of this side, and it has kept them since it was open.
    obtain ⟨-, opened, z, there, -, fields, peer⟩ := last.kept
    obtain rfl : y = z := Option.some.inj (kept.symm.trans there)
    rw [met] at fields peer
    have same := Terms.eq_endAt fields.symm peer.symm
    rwa [opened] at same
  · rw [met] at kept
    obtain ⟨w', takes, level⟩ := exists_takes_cancel clean left receipt current (rests s.other) kept
      upgrading le thawed bound room
    exact ⟨w', takes, fun q => ⟨level q, nextIsNew_of_openWith level⟩⟩

end World

/-! ### A proposal that comes too late -/

namespace Passage

variable {v : ChannelVersion}

omit [Digest] in
theorem Site.orderly {t : Site} {l : Shelf} (kept : t.store = l.store) : t.chain.Orderly := by
  have named {e : EndId} (taken : t.chain.host.store.lane e ≠ .empty) : e = owner := by
    by_contra other
    rw [Site.store_chain, kept] at taken
    exact taken (Shelf.lane_store_of_ne other)
  refine ⟨fun e taken => ?_, fun e taken => ?_⟩
  · rw [named taken]
    exact ⟨app, Map.getElem?_single⟩
  · rw [named taken, Site.store_chain, kept]
    exact ⟨0, (by decide : (0 : UInt64) < 1), rfl⟩

/-- The answering chain when it has given up an upgrade of its own before, and the same chain once
it heard of a proposal. -/
def tired (v : ChannelVersion) : Site :=
  (following .unordered v).grow (Shelf.fresh (turning .opened v)).store []

def warned (v : ChannelVersion) : Site := (tired v).hear (offering v).top

theorem at_tired : (tired v).At 4 := at_following.grow

theorem at_warned : (warned v).At 4 := at_tired.hear

theorem knows_warned : (warned v).host.Knows connection (offering v).top.height
    (offering v).top.header.consensus := Site.knows_hear at_tired.going

theorem shown_warned :
    (warned v).host.Shown connection (offering v).top.evidence owner (turning .initUpgrade v) :=
  Host.shown_of_provesEnd (x := turning .opened v) rfl
    (Host.provesEnd_of_block knows_warned rfl (Site.holds_end (l := pledged v)))

theorem exists_perform_late : ∃ c rep,
    (warned v).chain.perform (.deliver (.upgrade (.answer (upgradeTry v (offering v).top)))) =
      some (rep, c) ∧ rep.outcome = some .aborted := by
  let old := terms .unordered v
  let new := terms .ordered v
  let both : Side → EndId := fun _ => owner
  have here : (warned v).At 4 := at_warned
  have time := (here.early (by decide)).time
  have ahead := here.ahead (v := v) (k := 0) (by decide) (by decide) 0 (Nat.le_refl 0)
  rw [Height.later_zero] at ahead
  have change : old.Change new both .right (warned v).host := change rfl (by decide)
  have changed : new.fields .right ≠ old.fields .right := by simp [old, new, terms, Terms.fields]
  have channel : (warned v).host.store.ends[owner]? = some (old.endAt both .opened 1 .right) :=
    Shelf.ends_store (l := Shelf.fresh (turning .opened v))
  have asks : (pledge v).Asks (new.fields .left) (pledge v).timeout := ⟨rfl, rfl, 1, rfl⟩
  have shown : (offering v).top.Holds (.channelEnd owner)
      (old.endAt both .initUpgrade 1 .left).encode := Site.holds_end (l := pledged v)
  have shown' : (offering v).top.Holds (.upgrade owner) (pledge v).encode :=
    Site.holds_upgrade (l := pledged v) rfl
  obtain ⟨out, r, step, result, -⟩ := Upgrading.exists_answer_late (d := (pledge v).timeout) change
    changed channel knows_warned time asks (ahead _ time) shown shown' (UInt64.le_refl 1) rfl
  obtain ⟨c, events, done, -⟩ := Chain.exists_perform_upgrade (c := (warned v).chain)
    (m := .answer (upgradeTry v (offering v).top)) Site.appOf_chain step
    (fun call _ => by simp [Application.reply, Policy.silent])
    (here.room_ahead (by decide) (by decide))
  rw [result] at done
  exact ⟨c, _, done, rfl⟩

end Passage

omit [Digest] in
/-- An end that gave an upgrade up before is brought a proposal of the same sequence, and the end
that proposed is then restored. -/
theorem World.aborted_cancels_late :
    letI : Digest := .plain
    let w := World.of (Passage.offering "ics20-1").chain (Passage.warned "ics20-1").chain
    let m := Passage.upgradeTry "ics20-1" (Passage.offering "ics20-1").top
    ∃ c rep r w', (w .right).perform (.deliver (.upgrade (.answer m))) = some (rep, c) ∧
      rep.outcome = some .aborted ∧ c.host.store.errorReceipts[Passage.owner]? = some r ∧
      (w.put .right c).Takes .left Passage.client (fun e => .cancel ⟨Passage.owner, r, e⟩) w' ∧
      ∀ q, (w' q).OpenWith (Passage.terms .unordered "ics20-1") (fun _ => Passage.owner)
        r.sequence q := by
  let _ : Digest := .plain
  let w := World.of (Passage.offering "ics20-1").chain (Passage.warned "ics20-1").chain
  let owner : Side → EndId := fun _ => Passage.owner
  obtain ⟨c, rep, done, aborted⟩ := Passage.exists_perform_late (v := "ics20-1")
  have rests : ∀ q, (Passage.terms .unordered "ics20-1").Rests q (w q).host :=
    Side.forall_iff.2 ⟨Passage.rests, Passage.rests⟩
  have clean : (owner .right).Clean := ⟨by decide, Identifier.slash_notMem_channel 0⟩
  have before : (w .right).LastOpen (owner .right)
      ((Passage.terms .unordered "ics20-1").endAt owner .opened 1 .right) :=
    .here (Passage.Site.orderly rfl) Passage.Shelf.ends_store rfl
  obtain ⟨v, y, r, evidence, shown, -, receipt, -, cancels⟩ :=
    aborted_cancels rests clean before rfl done aborted
  obtain rfl : (Passage.offering "ics20-1").top.evidence = v := Option.some.inj evidence
  obtain rfl : Passage.turning .initUpgrade "ics20-1" = y := Passage.shown_warned.unique shown
  obtain ⟨-, w', takes, level⟩ := cancels Passage.Shelf.ends_store
    Passage.at_offering.going.thawed (Passage.at_offering.room_ahead (by decide) (by decide))
    ⟨_, _, Passage.Site.appOf_chain⟩
  exact ⟨c, rep, r, w', done, aborted, receipt, takes, fun q => (level q).1⟩

end Crosschain
