import Crosschain.Channel.Message
import Crosschain.Channel.Verify

/-!
# Upgrading a channel

An upgrade runs in four steps: one end proposes, the other answers, the first acknowledges, and both
complete; two proposals that cross and agree go on as answers to each other. A step that meets a
proposal it cannot accept aborts: the end returns to the open state with its fields and leaves an
error receipt at its upgrade sequence, which lets the other end cancel. After the deadline an end
gives the upgrade up alone.
-/

namespace Crosschain

/-- The counters of an end that turned ordered: both sides go on right after the last packet sent
before the upgrade. -/
structure SequenceReset where
  nextRecv : Sequence
  nextAck : Sequence
  deriving DecidableEq, Repr

/-- What a step does to the upgrades kept for an end: its own and that of the other end are kept until
the upgrade completes or is given up. An end that gives up by itself leaves a receipt. -/
inductive UpgradeStep
  | proposed (own : Upgrade)
  | answered (own peer : Upgrade)
  | acknowledged (peer : Upgrade)
  | completed (reset : Option SequenceReset)
  | cancelled
  | aborted (receipt : ErrorReceipt)
  | timedOut (receipt : ErrorReceipt)
  deriving DecidableEq, Repr

namespace UpgradeStep

def restores : UpgradeStep → Bool
  | .cancelled | .aborted _ | .timedOut _ => true
  | .proposed _ | .answered _ _ | .acknowledged _ | .completed _ => false

end UpgradeStep

structure UpgradeChange where
  owner : EndId
  value : ChannelEnd
  step : UpgradeStep
  deriving DecidableEq, Repr

namespace Upgrading

/-! ### Checks on proposals -/

/-- Checks that fields are a change of an end that the host can carry: one open connection that
supports the ordering. -/
def validateFields (h : Host) (proposed : UpgradeFields) (e : ChannelEnd) : Attempt Unit := do
  Fault.ensure (proposed ≠ e.fields) .fieldsUnchanged
  let c ← h.openHop proposed.hop
  Fault.ensure (c.supports proposed.ordering) .orderUnsupported

/-- Whether fields of the other end describe the same channel: the ordering and the version are the
same, and the hops are the two ends of one connection. -/
def matchesPeer (h : Host) (own peer : UpgradeFields) : Attempt Bool :=
  if own.agreesWith peer then do
    let hop ← Fault.lift own.hop
    let c ← h.connectionAt hop
    let peerHop ← Host.peerHop c
    let given ← Fault.lift peer.hop
    pure (peerHop = given)
  else pure false

/-- The upgrade on its way, if it changes the ordering of the end. -/
def pendingOrderChange (h : Host) (owner : EndId) (e : ChannelEnd) : Attempt (Option Upgrade) :=
  if e.state.isUpgrading then do
    let u ← Fault.lift (h.store.upgradeOf owner)
    pure (if u.fields.ordering = e.ordering then none else some u)
  else pure none

/-- An end changes its ordering only when none of the packets it sent is in flight. Sends are paused
from the proposal on, so this holds until the upgrade completes. -/
def ensureFlushed (h : Host) (owner : EndId) (e : ChannelEnd) (fields : UpgradeFields) :
    Attempt Unit :=
  if fields.ordering = e.ordering then pure ()
  else do
    let inFlight ← Fault.lift (h.store.inFlight owner)
    Fault.ensure (!inFlight) (.packetsInFlight owner.channel)

/-- The counters of an end that turns ordered. An end that turns unordered keeps its receive
counter, below which every packet counts as received. -/
def sequenceReset (h : Host) (owner : EndId) (e : ChannelEnd) (fields : UpgradeFields) :
    Attempt (Option SequenceReset) :=
  if fields.ordering = .ordered ∧ e.ordering ≠ .ordered then do
    let peer ← Fault.lift (h.store.peerUpgradeOf owner)
    let nextRecv ← Fault.checked (Word.add? peer.latestSend 1)
    -- No packet of this end is in flight.
    let nextAck ← Fault.lift (h.store.nextSendOf owner)
    pure (some ⟨nextRecv, nextAck⟩)
  else pure none

/-- Gives an upgrade up: the end is open again with the fields it had, and an error receipt is
written at its upgrade sequence. -/
def abort (owner : EndId) (e : ChannelEnd) (cause : ChannelError) : Output UpgradeChange :=
  let receipt := ErrorReceipt.ofError e.upgradeSequence cause
  ⟨⟨owner, { e with state := .opened }, .aborted receipt⟩,
    ["channel upgrade aborted at sequence " ++ Word.text receipt.sequence ++ ": "
      ++ receipt.message],
    [.upgradeError owner receipt]⟩

def event (stage : UpgradeStage) (owner : EndId) (e : ChannelEnd) (fields : UpgradeFields) : Event :=
  .upgrade stage (.ofEnd owner e fields)

/-! ### Proposing -/

/-- The deadline of a proposal: the one it names, or the time of the host and the parameter on
top. -/
def deadline (h : Host) (named : Option UpgradeTimeout) : Attempt UpgradeTimeout :=
  match named with
  | some t => pure t
  | none => do
    let now ← h.now
    let t ← Fault.wrap .timestampOverflow (now.add h.params.upgradeTimeout)
    pure (.atTimestamp t)

/-- Proposes an upgrade of an open end on behalf of the handle that owns it. -/
def propose (h : Host) (cap : Capability) (m : UpgradeInit) : Attempt (Output UpgradeChange) := do
  let e ← Fault.lift (h.store.endAt m.owner)
  Fault.lift (h.store.authenticate m.owner cap)
  Fault.ensure (e.state = .opened) (.wrongState m.owner.channel e.state)
  validateFields h m.fields e
  let timeout ← deadline h m.timeout
  Fault.ensure timeout.isSet .upgradeTimeoutUnset
  let nextSend ← Fault.lift (h.store.nextSendOf m.owner)
  let sequence ← Fault.checked (Word.add? e.upgradeSequence 1)
  let e := { e with upgradeSequence := sequence, state := .initUpgrade }
  pure ⟨⟨m.owner, e, .proposed ⟨m.fields, timeout, Word.pred nextSend⟩⟩,
    ["success: channel upgrade init at sequence " ++ Word.text sequence],
    [event .init m.owner e m.fields]⟩

variable [Digest]

/-! ### Answering -/

/-- Checks what an answer rests on, and yields the end and the fields as they are proposed here. -/
def checkAnswer (h : Host) (m : UpgradeTry) : Attempt (ChannelEnd × UpgradeFields) := do
  let e ← Fault.lift (h.store.endAt m.owner)
  Fault.ensure (e.state = .opened ∨ e.state = .initUpgrade) (.wrongState m.owner.channel e.state)
  let c ← h.openConnection e
  let now ← h.now
  Fault.ensure (!m.peerUpgrade.timeout.elapsedAt h.height now) .upgradeTimeoutElapsed
  let fields : UpgradeFields := { m.peerUpgrade.fields with hops := m.hops }
  validateFields h fields e
  -- The connection named here is the other end of the one that was proposed.
  let hop ← Fault.lift fields.hop
  let proposed ← h.connectionAt hop
  let expectedHop ← Fault.lift m.peerUpgrade.fields.hop
  let actualHop ← Host.peerHop proposed
  Fault.ensure (actualHop = expectedHop) (.hopMismatch expectedHop actualHop)
  let peerHop ← Host.peerHop c
  let expected : ChannelEnd :=
    ⟨.initUpgrade, e.ordering, .ofEnd m.owner, [peerHop], e.version, m.peerSequence⟩
  h.provesEnd c e m.evidence.height m.evidence.object expected
  let second ← Fault.wrap .badEvidence m.evidence.second
  h.provesUpgrade c e m.evidence.height second m.peerUpgrade
  pure (e, fields)

/-- Goes on with an answer whose own upgrade is settled, once nothing is in flight that must not
be. -/
def answerWith (h : Host) (m : UpgradeTry) (e : ChannelEnd) (own : Upgrade) :
    Attempt (Output UpgradeChange) := do
  ensureFlushed h m.owner e own.fields
  let e := { e with state := .tryUpgrade }
  pure ⟨⟨m.owner, e, .answered own m.peerUpgrade⟩,
    ["success: channel upgrade try at sequence " ++ Word.text e.upgradeSequence],
    [event .answered m.owner e own.fields]⟩

/-- Answers a proposal, or takes a proposal that crossed the end's own as the answer to it. -/
def answer (h : Host) (m : UpgradeTry) : Attempt (Output UpgradeChange) := do
  let (e, fields) ← checkAnswer h m
  if e.state = .opened then
    -- The receipt of this end lets the other one catch up with its sequence.
    if m.peerSequence ≤ e.upgradeSequence then
      let expected ← Fault.checked (Word.add? e.upgradeSequence 1)
      pure (abort m.owner e (.upgradeSequence m.peerSequence expected))
    else
      let nextSend ← Fault.lift (h.store.nextSendOf m.owner)
      answerWith h m { e with upgradeSequence := m.peerSequence }
        ⟨fields, m.timeout, Word.pred nextSend⟩
  else
    -- Both ends proposed, and both go on at the greater of their sequences.
    let own ← Fault.lift (h.store.upgradeOf m.owner)
    let e := { e with upgradeSequence := max e.upgradeSequence m.peerSequence }
    if own.fields.agreesWith m.peerUpgrade.fields ∧ own.fields.hops = fields.hops then
      answerWith h m e own
    else pure (abort m.owner e .incompatibleUpgrade)

/-! ### Acknowledging and completing -/

/-- Acknowledges an answer of the other end, or an agreeing proposal that crossed. An answer that
differs or comes too late aborts the upgrade. -/
def acknowledge (h : Host) (m : UpgradeAck) : Attempt (Output UpgradeChange) := do
  let e ← Fault.lift (h.store.endAt m.owner)
  Fault.ensure (e.state = .initUpgrade ∨ e.state = .tryUpgrade)
    (.wrongState m.owner.channel e.state)
  let c ← h.openConnection e
  let own ← Fault.lift (h.store.upgradeOf m.owner)
  let peerHop ← Host.peerHop c
  let expected : ChannelEnd :=
    ⟨.tryUpgrade, e.ordering, .ofEnd m.owner, [peerHop], e.version, e.upgradeSequence⟩
  h.provesEnd c e m.evidence.height m.evidence.object expected
  let second ← Fault.wrap .badEvidence m.evidence.second
  h.provesUpgrade c e m.evidence.height second m.peerUpgrade
  let same ← matchesPeer h own.fields m.peerUpgrade.fields
  if !same then pure (abort m.owner e .incompatibleUpgrade)
  else
    let consensus ← h.consensusAt c m.evidence.height
    if own.timeout.elapsedAt m.evidence.height consensus.timestamp then
      pure (abort m.owner e .upgradeTimeoutElapsed)
    else
      ensureFlushed h m.owner e own.fields
      let e := { e with state := .ackUpgrade }
      pure ⟨⟨m.owner, e, .acknowledged m.peerUpgrade⟩, ["success: channel upgrade ack"],
        [event .ack m.owner e own.fields]⟩

/-- Completes the upgrade of the answering end, once the other chain stores an acknowledging end. An
acknowledgement that comes too late aborts the upgrade. -/
def confirm (h : Host) (m : UpgradeConfirm) : Attempt (Output UpgradeChange) := do
  let e ← Fault.lift (h.store.endAt m.owner)
  Fault.ensure (e.state = .tryUpgrade) (.wrongState m.owner.channel e.state)
  let c ← h.openConnection e
  let own ← Fault.lift (h.store.upgradeOf m.owner)
  let peerHop ← Host.peerHop c
  let expected : ChannelEnd :=
    ⟨.ackUpgrade, e.ordering, .ofEnd m.owner, [peerHop], e.version, e.upgradeSequence⟩
  h.provesEnd c e m.evidence.height m.evidence.object expected
  let consensus ← h.consensusAt c m.evidence.height
  if own.timeout.elapsedAt m.evidence.height consensus.timestamp then
    pure (abort m.owner e .upgradeTimeoutElapsed)
  else
    let reset ← sequenceReset h m.owner e own.fields
    let e := { e.withFields own.fields with state := .opened }
    pure ⟨⟨m.owner, e, .completed reset⟩, ["success: channel upgrade confirm"],
      [event .confirm m.owner e e.fields, event .opened m.owner e e.fields]⟩

/-- The end the other chain has to store for an acknowledging end to complete: one that completed
with the new fields, or one that acknowledged too. -/
def expectedFinished (h : Host) (m : UpgradeOpen) (c : ConnectionEnd) (e : ChannelEnd)
    (own : Upgrade) : Attempt ChannelEnd :=
  match m.peerState with
  | .opened => do
    let hop ← Fault.lift own.fields.hop
    let upgraded ← h.connectionAt hop
    let peerHop ← Host.peerHop upgraded
    pure ⟨.opened, own.fields.ordering, .ofEnd m.owner, [peerHop], own.fields.version,
      e.upgradeSequence⟩
  | .ackUpgrade => do
    let peerHop ← Host.peerHop c
    pure ⟨.ackUpgrade, e.ordering, .ofEnd m.owner, [peerHop], e.version, e.upgradeSequence⟩
  | s => .error (.refused (.wrongState m.owner.channel s))

/-- Completes the upgrade of an acknowledging end. -/
def finish (h : Host) (m : UpgradeOpen) : Attempt (Output UpgradeChange) := do
  let e ← Fault.lift (h.store.endAt m.owner)
  Fault.ensure (e.state = .ackUpgrade) (.wrongState m.owner.channel e.state)
  let c ← h.openConnection e
  let own ← Fault.lift (h.store.upgradeOf m.owner)
  let expected ← expectedFinished h m c e own
  h.provesEnd c e m.evidence.height m.evidence.object expected
  let reset ← sequenceReset h m.owner e own.fields
  let e := { e.withFields own.fields with state := .opened }
  pure ⟨⟨m.owner, e, .completed reset⟩, ["success: channel upgrade open"],
    [event .opened m.owner e e.fields]⟩

/-! ### Giving up -/

/-- Restores an end whose other end gave the upgrade up. -/
def cancel (h : Host) (m : UpgradeCancel) : Attempt (Output UpgradeChange) := do
  let e ← Fault.lift (h.store.endAt m.owner)
  Fault.ensure (e.state.isUpgrading) (.wrongState m.owner.channel e.state)
  -- A receipt of an earlier attempt says nothing about this one.
  Fault.ensure (¬ m.receipt.sequence < e.upgradeSequence)
    (.upgradeSequence m.receipt.sequence e.upgradeSequence)
  let c ← h.openConnection e
  h.provesReceipt c e m.evidence.height m.evidence.object m.receipt
  let e := { e with state := .opened, upgradeSequence := m.receipt.sequence }
  pure ⟨⟨m.owner, e, .cancelled⟩, ["success: channel upgrade cancelled: " ++ m.receipt.message],
    [event .cancelled m.owner e e.fields]⟩

/-- Restores an end whose other end did not move before the deadline. -/
def expire (h : Host) (m : UpgradeExpire) : Attempt (Output UpgradeChange) := do
  let e ← Fault.lift (h.store.endAt m.owner)
  Fault.ensure (e.state = .initUpgrade ∨ e.state = .tryUpgrade)
    (.wrongState m.owner.channel e.state)
  let c ← h.openConnection e
  let own ← Fault.lift (h.store.upgradeOf m.owner)
  let consensus ← h.consensusAt c m.evidence.height
  Fault.ensure (own.timeout.elapsedAt m.evidence.height consensus.timestamp)
    .upgradeTimeoutNotReached
  h.provesEnd c e m.evidence.height m.evidence.object m.peerEnd
  -- An end that completed this attempt, or went on after it, holds the proposed fields.
  if m.peerEnd.state = .opened ∧ e.upgradeSequence ≤ m.peerEnd.upgradeSequence then
    let completed ← matchesPeer h own.fields m.peerEnd.fields
    Fault.ensure (!completed) .peerUpgradeCompleted
  let receipt : ErrorReceipt := ⟨e.upgradeSequence, "upgrade timed out"⟩
  let e := { e with state := .opened }
  pure ⟨⟨m.owner, e, .timedOut receipt⟩,
    ["success: channel upgrade timed out at sequence " ++ Word.text receipt.sequence],
    [event .timedOut m.owner e own.fields, .upgradeError m.owner receipt]⟩

def step (h : Host) : UpgradeMessage → Attempt (Output UpgradeChange)
  | .answer m => answer h m
  | .ack m => acknowledge h m
  | .confirm m => confirm h m
  | .finish m => finish h m
  | .cancel m => cancel h m
  | .expire m => expire h m

end Upgrading

def ChannelStore.applyUpgrade (s : ChannelStore) (c : UpgradeChange) : ChannelStore :=
  let s := s.setEnd c.owner c.value
  match c.step with
  | .proposed own => s.setUpgrade c.owner own
  | .answered own peer => (s.setUpgrade c.owner own).setPeerUpgrade c.owner peer
  | .acknowledged peer => s.setPeerUpgrade c.owner peer
  | .completed none => s.eraseUpgrades c.owner
  | .completed (some reset) =>
    ((s.setNextRecv c.owner reset.nextRecv).setNextAck c.owner reset.nextAck).eraseUpgrades c.owner
  | .cancelled => s.eraseUpgrades c.owner
  | .aborted receipt | .timedOut receipt =>
    (s.eraseUpgrades c.owner).setErrorReceipt c.owner receipt

end Crosschain
