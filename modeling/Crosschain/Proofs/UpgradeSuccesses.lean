import Crosschain.Proofs.Attempts

/-!
# How a message of an upgrade succeeds

The ways in which an upgrade is proposed and goes on, or is given up, with the checks that were passed
and what each way yields.
-/

namespace Crosschain

/-- Fields are a change of an end that a host can carry: over one open connection that supports the
ordering. -/
structure Host.Carries (h : Host) (x : ChannelEnd) (f : UpgradeFields) : Prop where
  changed : f ≠ x.fields
  linked : ∃ hop c, f.hops = [hop] ∧ h.connections[hop]? = some c ∧ c.isOpen ∧
    c.supports f.ordering

namespace Upgrading

variable {h : Host} {out : Output UpgradeChange}

theorem validateFields_eq_ok {x : ChannelEnd} {f : UpgradeFields} {u : Unit} :
    validateFields h f x = .ok u ↔ h.Carries x f := by
  simp only [validateFields, Except.bind_eq_ok, Fault.ensure_eq_ok, Host.openHop_eq_ok,
    UpgradeFields.hop_eq_ok]
  constructor
  · rintro ⟨_, changed, c, ⟨hop, hops, there, isOpen⟩, supports⟩
    exact ⟨changed, hop, c, hops, there, isOpen, supports⟩
  · rintro ⟨changed, hop, c, hops, there, isOpen, supports⟩
    exact ⟨(), changed, c, ⟨hop, hops, there, isOpen⟩, supports⟩

inductive Proposes (h : Host) (cap : Capability) (m : UpgradeInit) : Output UpgradeChange → Prop
  | proposed {x : ChannelEnd} {timeout : UpgradeTimeout} {next n : Sequence}
      (channel : h.store.ends[m.owner]? = some x)
      (owned : h.store.authenticate m.owner cap = .ok ()) (state : x.state = .opened)
      (valid : h.Carries x m.fields) (named : deadline h m.timeout = .ok timeout)
      (set : timeout.isSet) (counter : h.store.nextSend[m.owner]? = some next)
      (counted : Word.add? x.upgradeSequence 1 = some n) :
      Proposes h cap m
        ⟨⟨m.owner, { x with upgradeSequence := n, state := .initUpgrade },
            .proposed ⟨m.fields, timeout, Word.pred next⟩⟩,
          ["success: channel upgrade init at sequence " ++ Word.text n],
          [event .init m.owner { x with upgradeSequence := n, state := .initUpgrade } m.fields]⟩

theorem propose_eq_ok {cap : Capability} {m : UpgradeInit} :
    propose h cap m = .ok out ↔ Proposes h cap m out := by
  simp only [propose, Except.bind_eq_ok, Fault.lift_eq_ok, Fault.ensure_eq_ok, Fault.checked_eq_ok,
    ChannelStore.endAt_eq_ok, ChannelStore.nextSendOf_eq_ok, validateFields_eq_ok,
    Except.pure_eq_ok]
  constructor
  · rintro ⟨x, channel, _, owned, _, state, _, valid, timeout, named, _, set, next, counter, n,
      counted, rfl⟩
    exact .proposed channel owned state valid named set counter counted
  · rintro ⟨channel, owned, state, valid, named, set, counter, counted⟩
    exact ⟨_, channel, (), owned, (), state, (), valid, _, named, (), set, _, counter, _, counted,
      rfl⟩

variable [Digest]

/-- What an answer rests on: the fields are a change that the host can carry over the other end of the
connection that was proposed, in time, and the other chain is shown to hold the proposing end and its
upgrade. -/
structure Answerable (h : Host) (m : UpgradeTry) (x : ChannelEnd) (fields : UpgradeFields) : Prop where
  channel : h.store.ends[m.owner]? = some x
  state : x.state = .opened ∨ x.state = .initUpgrade
  inTime : ∃ now, h.now? = some now ∧ m.peerUpgrade.timeout.elapsedAt h.height now = false
  fields_eq : fields = { m.peerUpgrade.fields with hops := m.hops }
  valid : h.Carries x fields
  linked : ∃ hop peerHop c, m.hops = [hop] ∧ m.peerUpgrade.fields.hops = [peerHop] ∧
    h.connections[hop]? = some c ∧ c.peer.connection = some peerHop
  shown : ∃ c peerHop second, h.openConnection x = .ok c ∧ c.peer.connection = some peerHop ∧
    h.provesEnd c x m.evidence.height m.evidence.object
      ⟨.initUpgrade, x.ordering, .ofEnd m.owner, [peerHop], x.version, m.peerSequence⟩ = .ok () ∧
    m.evidence.other = some second ∧
    h.provesUpgrade c x m.evidence.height second m.peerUpgrade = .ok ()

theorem checkAnswer_eq_ok {m : UpgradeTry} {x : ChannelEnd} {fields : UpgradeFields} :
    checkAnswer h m = .ok (x, fields) ↔ Answerable h m x fields := by
  simp only [checkAnswer, Except.bind_eq_ok, Fault.lift_eq_ok, Fault.ensure_eq_ok, Fault.wrap_eq_ok,
    ChannelStore.endAt_eq_ok, Host.now_eq_ok, validateFields_eq_ok, UpgradeFields.hop_eq_ok,
    Host.connectionAt_eq_ok, Host.peerHop_eq_ok, Evidence.second_eq_ok, Except.pure_eq_ok,
    Prod.mk.injEq]
  constructor
  · rintro ⟨x, channel, _, state, c, connection, now, time, _, early, _, valid, hop, hops, proposed,
      there, given, names, actual, peer, _, rfl, peerHop, own, _, first, second, other, _, upgrade, rfl,
      rfl⟩
    exact ⟨channel, state, ⟨now, time, by simpa using early⟩, rfl, valid,
      ⟨hop, _, proposed, hops, names, there, peer⟩,
      ⟨c, peerHop, second, connection, own, first, other, upgrade⟩⟩
  · rintro ⟨channel, state, ⟨now, time, early⟩, rfl, valid, ⟨hop, given, proposed, hops, names, there,
      peer⟩, ⟨c, peerHop, second, connection, own, first, other, upgrade⟩⟩
    exact ⟨x, channel, (), state, c, connection, now, time, (), by simpa using early, (), valid, hop,
      hops, proposed, there, given, names, given, peer, (), rfl, peerHop, own, (), first, second, other,
      (), upgrade, rfl, rfl⟩

/-- The answer to a proposal, given for an end with the upgrade that is its own. -/
def replied (m : UpgradeTry) (x : ChannelEnd) (own : Upgrade) : Output UpgradeChange :=
  ⟨⟨m.owner, { x with state := .tryUpgrade }, .answered own m.peerUpgrade⟩,
    ["success: channel upgrade try at sequence " ++ Word.text x.upgradeSequence],
    [event .answered m.owner { x with state := .tryUpgrade } own.fields]⟩

omit [Digest] in
theorem answerWith_eq_ok {m : UpgradeTry} {x : ChannelEnd} {own : Upgrade} :
    answerWith h m x own = .ok out ↔
      ensureFlushed h m.owner x own.fields = .ok () ∧ out = replied m x own := by
  simp only [answerWith, Except.bind_eq_ok, Except.pure_eq_ok]
  constructor
  · rintro ⟨_, flushed, rfl⟩
    exact ⟨flushed, rfl⟩
  · rintro ⟨flushed, rfl⟩
    exact ⟨(), flushed, rfl⟩

/-- An end with an upgrade of its own over an open connection. -/
structure Running (h : Host) (owner : EndId) (x : ChannelEnd) (c : ConnectionEnd) (own : Upgrade) :
    Prop where
  channel : h.store.ends[owner]? = some x
  connection : h.openConnection x = .ok c
  upgrade : h.store.upgrades[owner]? = some own

/-- The other end of an upgrade is shown to be in a state, and otherwise as the end itself is. -/
def ShowsPeer (h : Host) (owner : EndId) (x : ChannelEnd) (c : ConnectionEnd) (v : Evidence)
    (state : ChannelState) : Prop :=
  ∃ peerHop, c.peer.connection = some peerHop ∧ h.provesEnd c x v.height v.object
    ⟨state, x.ordering, .ofEnd owner, [peerHop], x.version, x.upgradeSequence⟩ = .ok ()

/-- What an acknowledgement rests on: an end that waits for it, and the answer of the other end. -/
structure Answered (h : Host) (m : UpgradeAck) (x : ChannelEnd) (c : ConnectionEnd) (own : Upgrade) :
    Prop where
  running : Running h m.owner x c own
  state : x.state = .initUpgrade ∨ x.state = .tryUpgrade
  shown : ShowsPeer h m.owner x c m.evidence .tryUpgrade
  upgrade : ∃ second, m.evidence.other = some second ∧
    h.provesUpgrade c x m.evidence.height second m.peerUpgrade = .ok ()

/-- What a confirmation rests on: an end that answered, and the acknowledgement of the other end. -/
structure Acknowledged (h : Host) (m : UpgradeConfirm) (x : ChannelEnd) (c : ConnectionEnd)
    (own : Upgrade) : Prop where
  running : Running h m.owner x c own
  state : x.state = .tryUpgrade
  shown : ShowsPeer h m.owner x c m.evidence .ackUpgrade

/-- What is left of acknowledging an answer that is shown. -/
def settleAnswer (h : Host) (m : UpgradeAck) (x : ChannelEnd) (c : ConnectionEnd) (own : Upgrade) :
    Attempt (Output UpgradeChange) := do
  let same ← matchesPeer h own.fields m.peerUpgrade.fields
  if !same then pure (abort m.owner x .incompatibleUpgrade)
  else
    let consensus ← h.consensusAt c m.evidence.height
    if own.timeout.elapsedAt m.evidence.height consensus.timestamp then
      pure (abort m.owner x .upgradeTimeoutElapsed)
    else
      ensureFlushed h m.owner x own.fields
      let x := { x with state := .ackUpgrade }
      pure ⟨⟨m.owner, x, .acknowledged m.peerUpgrade⟩, ["success: channel upgrade ack"],
        [event .ack m.owner x own.fields]⟩

theorem acknowledge_eq_ok {m : UpgradeAck} : acknowledge h m = .ok out ↔
    ∃ x c own, Answered h m x c own ∧ settleAnswer h m x c own = .ok out := by
  simp only [acknowledge, Except.bind_eq_ok, Fault.lift_eq_ok, Fault.ensure_eq_ok, Fault.wrap_eq_ok,
    ChannelStore.endAt_eq_ok, ChannelStore.upgradeOf_eq_ok, Host.peerHop_eq_ok,
    Evidence.second_eq_ok]
  constructor
  · rintro ⟨x, channel, _, state, c, connection, own, upgrade, peerHop, peer, _, first, second, other,
      _, shown, same, matched, ok⟩
    exact ⟨x, c, own, ⟨⟨channel, connection, upgrade⟩, state, ⟨peerHop, peer, first⟩,
      ⟨second, other, shown⟩⟩, Except.bind_eq_ok.2 ⟨same, matched, ok⟩⟩
  · rintro ⟨x, c, own, ⟨⟨channel, connection, upgrade⟩, state, ⟨peerHop, peer, first⟩,
      ⟨second, other, shown⟩⟩, ok⟩
    obtain ⟨same, matched, ok⟩ := Except.bind_eq_ok.1 ok
    exact ⟨x, channel, (), state, c, connection, own, upgrade, peerHop, peer, (), first, second,
      other, (), shown, same, matched, ok⟩

/-- What is left of confirming an upgrade whose acknowledgement is shown. -/
def settleAcknowledgement (h : Host) (m : UpgradeConfirm) (x : ChannelEnd) (c : ConnectionEnd)
    (own : Upgrade) : Attempt (Output UpgradeChange) := do
  let consensus ← h.consensusAt c m.evidence.height
  if own.timeout.elapsedAt m.evidence.height consensus.timestamp then
    pure (abort m.owner x .upgradeTimeoutElapsed)
  else
    let reset ← sequenceReset h m.owner x own.fields
    let x := { x.withFields own.fields with state := .opened }
    pure ⟨⟨m.owner, x, .completed reset⟩, ["success: channel upgrade confirm"],
      [event .confirm m.owner x x.fields, event .opened m.owner x x.fields]⟩

theorem confirm_eq_ok {m : UpgradeConfirm} : confirm h m = .ok out ↔
    ∃ x c own, Acknowledged h m x c own ∧ settleAcknowledgement h m x c own = .ok out := by
  simp only [confirm, Except.bind_eq_ok, Fault.lift_eq_ok, Fault.ensure_eq_ok,
    ChannelStore.endAt_eq_ok, ChannelStore.upgradeOf_eq_ok, Host.peerHop_eq_ok]
  constructor
  · rintro ⟨x, channel, _, state, c, connection, own, upgrade, peerHop, peer, _, first, cs, knows, ok⟩
    exact ⟨x, c, own, ⟨⟨channel, connection, upgrade⟩, state, ⟨peerHop, peer, first⟩⟩,
      Except.bind_eq_ok.2 ⟨cs, knows, ok⟩⟩
  · rintro ⟨x, c, own, ⟨⟨channel, connection, upgrade⟩, state, ⟨peerHop, peer, first⟩⟩, ok⟩
    obtain ⟨cs, knows, ok⟩ := Except.bind_eq_ok.1 ok
    exact ⟨x, channel, (), state, c, connection, own, upgrade, peerHop, peer, (), first, cs, knows,
      ok⟩

/-- The ways in which a message of an upgrade succeeds. -/
inductive Succeeds (h : Host) : UpgradeMessage → Output UpgradeChange → Prop
  | outdated {m : UpgradeTry} {x : ChannelEnd} {fields : UpgradeFields} {expected : Sequence}
      (answerable : Answerable h m x fields) (opened : x.state = .opened)
      (old : m.peerSequence ≤ x.upgradeSequence)
      (counted : Word.add? x.upgradeSequence 1 = some expected) :
      Succeeds h (.answer m) (abort m.owner x (.upgradeSequence m.peerSequence expected))
  | answered {m : UpgradeTry} {x : ChannelEnd} {fields : UpgradeFields} {next : Sequence}
      (answerable : Answerable h m x fields) (opened : x.state = .opened)
      (newer : ¬ m.peerSequence ≤ x.upgradeSequence)
      (counter : h.store.nextSend[m.owner]? = some next)
      (flushed : ensureFlushed h m.owner x fields = .ok ()) :
      Succeeds h (.answer m) (replied m { x with upgradeSequence := m.peerSequence }
        ⟨fields, m.timeout, Word.pred next⟩)
  | crossed {m : UpgradeTry} {x : ChannelEnd} {fields : UpgradeFields} {own : Upgrade}
      (answerable : Answerable h m x fields) (proposed : x.state ≠ .opened)
      (upgrade : h.store.upgrades[m.owner]? = some own)
      (agrees : own.fields.agreesWith m.peerUpgrade.fields ∧ own.fields.hops = fields.hops)
      (flushed : ensureFlushed h m.owner x own.fields = .ok ()) :
      Succeeds h (.answer m)
        (replied m { x with upgradeSequence := max x.upgradeSequence m.peerSequence } own)
  | clashed {m : UpgradeTry} {x : ChannelEnd} {fields : UpgradeFields} {own : Upgrade}
      (answerable : Answerable h m x fields) (proposed : x.state ≠ .opened)
      (upgrade : h.store.upgrades[m.owner]? = some own)
      (differs : ¬ (own.fields.agreesWith m.peerUpgrade.fields ∧ own.fields.hops = fields.hops)) :
      Succeeds h (.answer m) (abort m.owner
        { x with upgradeSequence := max x.upgradeSequence m.peerSequence } .incompatibleUpgrade)
  | mismatched {m : UpgradeAck} {x : ChannelEnd} {c : ConnectionEnd} {own : Upgrade}
      (answered : Answered h m x c own)
      (differs : matchesPeer h own.fields m.peerUpgrade.fields = .ok false) :
      Succeeds h (.ack m) (abort m.owner x .incompatibleUpgrade)
  | answeredLate {m : UpgradeAck} {x : ChannelEnd} {c : ConnectionEnd} {own : Upgrade}
      {cs : ConsensusState} (answered : Answered h m x c own)
      (same : matchesPeer h own.fields m.peerUpgrade.fields = .ok true)
      (knows : h.Knows c m.evidence.height cs)
      (late : own.timeout.elapsedAt m.evidence.height cs.timestamp) :
      Succeeds h (.ack m) (abort m.owner x .upgradeTimeoutElapsed)
  | acknowledged {m : UpgradeAck} {x : ChannelEnd} {c : ConnectionEnd} {own : Upgrade}
      {cs : ConsensusState} (answered : Answered h m x c own)
      (same : matchesPeer h own.fields m.peerUpgrade.fields = .ok true)
      (knows : h.Knows c m.evidence.height cs)
      (inTime : ¬ own.timeout.elapsedAt m.evidence.height cs.timestamp)
      (flushed : ensureFlushed h m.owner x own.fields = .ok ()) :
      Succeeds h (.ack m)
        ⟨⟨m.owner, { x with state := .ackUpgrade }, .acknowledged m.peerUpgrade⟩,
          ["success: channel upgrade ack"],
          [event .ack m.owner { x with state := .ackUpgrade } own.fields]⟩
  | acknowledgedLate {m : UpgradeConfirm} {x : ChannelEnd} {c : ConnectionEnd} {own : Upgrade}
      {cs : ConsensusState} (acknowledged : Acknowledged h m x c own)
      (knows : h.Knows c m.evidence.height cs)
      (late : own.timeout.elapsedAt m.evidence.height cs.timestamp) :
      Succeeds h (.confirm m) (abort m.owner x .upgradeTimeoutElapsed)
  | confirmed {m : UpgradeConfirm} {x : ChannelEnd} {c : ConnectionEnd} {own : Upgrade}
      {cs : ConsensusState} {reset : Option SequenceReset}
      (acknowledged : Acknowledged h m x c own) (knows : h.Knows c m.evidence.height cs)
      (inTime : ¬ own.timeout.elapsedAt m.evidence.height cs.timestamp)
      (resets : sequenceReset h m.owner x own.fields = .ok reset) :
      Succeeds h (.confirm m)
        ⟨⟨m.owner, { x.withFields own.fields with state := .opened }, .completed reset⟩,
          ["success: channel upgrade confirm"],
          [event .confirm m.owner { x.withFields own.fields with state := .opened } own.fields,
            event .opened m.owner { x.withFields own.fields with state := .opened } own.fields]⟩
  | finished {m : UpgradeOpen} {x y : ChannelEnd} {c : ConnectionEnd} {own : Upgrade}
      {reset : Option SequenceReset} (running : Running h m.owner x c own)
      (state : x.state = .ackUpgrade) (expected : expectedFinished h m c x own = .ok y)
      (shown : h.provesEnd c x m.evidence.height m.evidence.object y = .ok ())
      (resets : sequenceReset h m.owner x own.fields = .ok reset) :
      Succeeds h (.finish m)
        ⟨⟨m.owner, { x.withFields own.fields with state := .opened }, .completed reset⟩,
          ["success: channel upgrade open"],
          [event .opened m.owner { x.withFields own.fields with state := .opened } own.fields]⟩
  | cancelled {m : UpgradeCancel} {x : ChannelEnd} {c : ConnectionEnd}
      (channel : h.store.ends[m.owner]? = some x) (upgrading : x.state.isUpgrading)
      (newer : ¬ m.receipt.sequence < x.upgradeSequence) (connection : h.openConnection x = .ok c)
      (shown : h.provesReceipt c x m.evidence.height m.evidence.object m.receipt = .ok ()) :
      Succeeds h (.cancel m)
        ⟨⟨m.owner, { x with state := .opened, upgradeSequence := m.receipt.sequence }, .cancelled⟩,
          ["success: channel upgrade cancelled: " ++ m.receipt.message],
          [event .cancelled m.owner
            { x with state := .opened, upgradeSequence := m.receipt.sequence } x.fields]⟩
  | expired {m : UpgradeExpire} {x : ChannelEnd} {c : ConnectionEnd} {own : Upgrade}
      {cs : ConsensusState} (running : Running h m.owner x c own)
      (state : x.state = .initUpgrade ∨ x.state = .tryUpgrade)
      (knows : h.Knows c m.evidence.height cs)
      (late : own.timeout.elapsedAt m.evidence.height cs.timestamp)
      (shown : h.provesEnd c x m.evidence.height m.evidence.object m.peerEnd = .ok ())
      (pending : m.peerEnd.state = .opened ∧ x.upgradeSequence ≤ m.peerEnd.upgradeSequence →
        matchesPeer h own.fields m.peerEnd.fields = .ok false) :
      Succeeds h (.expire m)
        ⟨⟨m.owner, { x with state := .opened },
            .timedOut ⟨x.upgradeSequence, "upgrade timed out"⟩⟩,
          ["success: channel upgrade timed out at sequence " ++ Word.text x.upgradeSequence],
          [event .timedOut m.owner { x with state := .opened } own.fields,
            .upgradeError m.owner ⟨x.upgradeSequence, "upgrade timed out"⟩]⟩

theorem succeeds_of_answer {m : UpgradeTry} (ok : answer h m = .ok out) :
    Succeeds h (.answer m) out := by
  simp only [answer, Except.bind_eq_ok] at ok
  obtain ⟨⟨x, fields⟩, checked, ok⟩ := ok
  have answerable := checkAnswer_eq_ok.1 checked
  simp only at ok
  split at ok
  next opened =>
    split at ok
    next old =>
      simp only [Except.bind_eq_ok, Fault.checked_eq_ok, Except.pure_eq_ok] at ok
      obtain ⟨expected, counted, rfl⟩ := ok
      exact .outdated answerable opened old counted
    next newer =>
      simp only [Except.bind_eq_ok, Fault.lift_eq_ok, ChannelStore.nextSendOf_eq_ok,
        answerWith_eq_ok] at ok
      obtain ⟨next, counter, flushed, rfl⟩ := ok
      exact .answered answerable opened newer counter flushed
  next proposed =>
    simp only [Except.bind_eq_ok, Fault.lift_eq_ok, ChannelStore.upgradeOf_eq_ok] at ok
    obtain ⟨own, upgrade, ok⟩ := ok
    split at ok
    next agrees =>
      obtain ⟨flushed, rfl⟩ := answerWith_eq_ok.1 ok
      exact .crossed answerable proposed upgrade agrees flushed
    next differs =>
      cases ok
      exact .clashed answerable proposed upgrade differs

theorem succeeds_of_acknowledge {m : UpgradeAck} (ok : acknowledge h m = .ok out) :
    Succeeds h (.ack m) out := by
  obtain ⟨x, c, own, answered, ok⟩ := acknowledge_eq_ok.1 ok
  obtain ⟨same, matched, ok⟩ := Except.bind_eq_ok.1 ok
  cases same with
  | false =>
    cases ok
    exact .mismatched answered matched
  | true =>
    obtain ⟨cs, knows, ok⟩ := Except.bind_eq_ok.1 ok
    rw [Host.consensusAt_eq_ok] at knows
    split at ok
    next late =>
      cases ok
      exact .answeredLate answered matched knows late
    next inTime =>
      simp only [Except.bind_eq_ok, Except.pure_eq_ok] at ok
      obtain ⟨_, flushed, rfl⟩ := ok
      exact .acknowledged answered matched knows inTime flushed

theorem succeeds_of_confirm {m : UpgradeConfirm} (ok : confirm h m = .ok out) :
    Succeeds h (.confirm m) out := by
  obtain ⟨x, c, own, acknowledged, ok⟩ := confirm_eq_ok.1 ok
  obtain ⟨cs, knows, ok⟩ := Except.bind_eq_ok.1 ok
  rw [Host.consensusAt_eq_ok] at knows
  split at ok
  next late =>
    cases ok
    exact .acknowledgedLate acknowledged knows late
  next inTime =>
    simp only [Except.bind_eq_ok, Except.pure_eq_ok] at ok
    obtain ⟨reset, resets, rfl⟩ := ok
    exact .confirmed acknowledged knows inTime resets

theorem succeeds_of_finish {m : UpgradeOpen} (ok : finish h m = .ok out) :
    Succeeds h (.finish m) out := by
  simp only [finish, Except.bind_eq_ok, Fault.lift_eq_ok, Fault.ensure_eq_ok,
    ChannelStore.endAt_eq_ok, ChannelStore.upgradeOf_eq_ok, Except.pure_eq_ok] at ok
  obtain ⟨x, channel, _, state, c, connection, own, upgrade, y, expected, _, shown, reset, resets,
    rfl⟩ := ok
  exact .finished ⟨channel, connection, upgrade⟩ state expected shown resets

theorem succeeds_of_cancel {m : UpgradeCancel} (ok : cancel h m = .ok out) :
    Succeeds h (.cancel m) out := by
  simp only [cancel, Except.bind_eq_ok, Fault.lift_eq_ok, Fault.ensure_eq_ok,
    ChannelStore.endAt_eq_ok, Except.pure_eq_ok] at ok
  obtain ⟨x, channel, _, upgrading, _, newer, c, connection, _, shown, rfl⟩ := ok
  exact .cancelled channel upgrading newer connection shown

theorem succeeds_of_expire {m : UpgradeExpire} (ok : expire h m = .ok out) :
    Succeeds h (.expire m) out := by
  simp only [expire, Except.bind_eq_ok, Fault.lift_eq_ok, Fault.ensure_eq_ok,
    ChannelStore.endAt_eq_ok, ChannelStore.upgradeOf_eq_ok, Host.consensusAt_eq_ok] at ok
  obtain ⟨x, channel, _, state, c, connection, own, upgrade, cs, knows, _, late, _, shown, ok⟩ := ok
  have running : Running h m.owner x c own := ⟨channel, connection, upgrade⟩
  split at ok
  next done =>
    simp only [Except.bind_eq_ok, Fault.ensure_eq_ok, Except.pure_eq_ok] at ok
    obtain ⟨completed, matched, _, differs, rfl⟩ := ok
    rw [Bool.not_eq_true'] at differs
    subst differs
    exact .expired running state knows late shown fun _ => matched
  next other =>
    cases ok
    exact .expired running state knows late shown fun done => absurd done other

theorem step_of_succeeds {m : UpgradeMessage} (succeeds : Succeeds h m out) :
    step h m = .ok out := by
  cases succeeds with
  | outdated answerable opened old counted =>
    refine Except.bind_eq_ok.2 ⟨_, checkAnswer_eq_ok.2 answerable,
      (if_pos opened).trans ((if_pos old).trans ?_)⟩
    simp only [Except.bind_eq_ok, Fault.checked_eq_ok]
    exact ⟨_, counted, rfl⟩
  | answered answerable opened newer counter flushed =>
    refine Except.bind_eq_ok.2 ⟨_, checkAnswer_eq_ok.2 answerable,
      (if_pos opened).trans ((if_neg newer).trans ?_)⟩
    simp only [Except.bind_eq_ok, Fault.lift_eq_ok, ChannelStore.nextSendOf_eq_ok, answerWith_eq_ok]
    exact ⟨_, counter, flushed, rfl⟩
  | crossed answerable proposed upgrade agrees flushed =>
    refine Except.bind_eq_ok.2 ⟨_, checkAnswer_eq_ok.2 answerable, (if_neg proposed).trans ?_⟩
    simp only [Except.bind_eq_ok, Fault.lift_eq_ok, ChannelStore.upgradeOf_eq_ok]
    exact ⟨_, upgrade, (if_pos agrees).trans (answerWith_eq_ok.2 ⟨flushed, rfl⟩)⟩
  | clashed answerable proposed upgrade differs =>
    refine Except.bind_eq_ok.2 ⟨_, checkAnswer_eq_ok.2 answerable, (if_neg proposed).trans ?_⟩
    simp only [Except.bind_eq_ok, Fault.lift_eq_ok, ChannelStore.upgradeOf_eq_ok]
    exact ⟨_, upgrade, if_neg differs⟩
  | mismatched answered differs =>
    exact acknowledge_eq_ok.2 ⟨_, _, _, answered, Except.bind_eq_ok.2 ⟨false, differs, rfl⟩⟩
  | answeredLate answered same knows late =>
    refine acknowledge_eq_ok.2 ⟨_, _, _, answered, Except.bind_eq_ok.2 ⟨true, same, ?_⟩⟩
    exact Except.bind_eq_ok.2 ⟨_, Host.consensusAt_eq_ok.2 knows, if_pos late⟩
  | acknowledged answered same knows inTime flushed =>
    refine acknowledge_eq_ok.2 ⟨_, _, _, answered, Except.bind_eq_ok.2 ⟨true, same, ?_⟩⟩
    refine Except.bind_eq_ok.2 ⟨_, Host.consensusAt_eq_ok.2 knows, (if_neg inTime).trans ?_⟩
    exact Except.bind_eq_ok.2 ⟨(), flushed, rfl⟩
  | acknowledgedLate acknowledged knows late =>
    refine confirm_eq_ok.2 ⟨_, _, _, acknowledged, ?_⟩
    exact Except.bind_eq_ok.2 ⟨_, Host.consensusAt_eq_ok.2 knows, if_pos late⟩
  | confirmed acknowledged knows inTime resets =>
    refine confirm_eq_ok.2 ⟨_, _, _, acknowledged, ?_⟩
    refine Except.bind_eq_ok.2 ⟨_, Host.consensusAt_eq_ok.2 knows, (if_neg inTime).trans ?_⟩
    exact Except.bind_eq_ok.2 ⟨_, resets, rfl⟩
  | finished running state expected shown resets =>
    simp only [step, finish, Except.bind_eq_ok, Fault.lift_eq_ok, Fault.ensure_eq_ok,
      ChannelStore.endAt_eq_ok, ChannelStore.upgradeOf_eq_ok]
    exact ⟨_, running.channel, (), state, _, running.connection, _, running.upgrade, _, expected, (),
      shown, _, resets, rfl⟩
  | cancelled channel upgrading newer connection shown =>
    simp only [step, cancel, Except.bind_eq_ok, Fault.lift_eq_ok, Fault.ensure_eq_ok,
      ChannelStore.endAt_eq_ok]
    exact ⟨_, channel, (), upgrading, (), newer, _, connection, (), shown, rfl⟩
  | expired running state knows late shown pending =>
    simp only [step, expire, Except.bind_eq_ok, Fault.lift_eq_ok, Fault.ensure_eq_ok,
      ChannelStore.endAt_eq_ok, ChannelStore.upgradeOf_eq_ok, Host.consensusAt_eq_ok]
    refine ⟨_, running.channel, (), state, _, running.connection, _, running.upgrade, _, knows, (),
      late, (), shown, ?_⟩
    split
    next done =>
      simp only [Except.bind_eq_ok, Fault.ensure_eq_ok]
      exact ⟨false, pending done, (), rfl, rfl⟩
    next other => rfl

theorem step_eq_ok {m : UpgradeMessage} : step h m = .ok out ↔ Succeeds h m out := by
  refine ⟨fun ok => ?_, step_of_succeeds⟩
  cases m with
  | answer m => exact succeeds_of_answer ok
  | ack m => exact succeeds_of_acknowledge ok
  | confirm m => exact succeeds_of_confirm ok
  | finish m => exact succeeds_of_finish ok
  | cancel m => exact succeeds_of_cancel ok
  | expire m => exact succeeds_of_expire ok

end Upgrading

end Crosschain
