import Crosschain.Proofs.LaneStep
import Crosschain.Proofs.UpgradeSuccesses

/-!
# Upgrades, lane by lane

A step of an upgrade that succeeds changes the lane of its own end in one of the ways listed for
the step, and leaves all others as they are.
-/

namespace Crosschain

theorem Word.le_max_left (a b : UInt64) : a ≤ max a b := by
  show a ≤ if a ≤ b then b else a
  split
  next le => exact le
  next => exact UInt64.le_refl a

theorem Word.max_eq (a b : UInt64) : max a b = a ∨ max a b = b := by
  show (if a ≤ b then b else a) = a ∨ (if a ≤ b then b else a) = b
  split
  · exact .inr rfl
  · exact .inl rfl

theorem UpgradeFields.eq_of_agreesWith {f g : UpgradeFields} {hops : List ConnectionId}
    (agree : f.agreesWith g) (same : f.hops = hops) : f = { g with hops } := by
  obtain ⟨ordering, l, version⟩ := f
  simp only [agreesWith, decide_eq_true_eq] at agree same
  rw [agree.1, agree.2, same]

/-! ### Storing an upgrade -/

namespace ChannelStore

variable (s : ChannelStore) (c : UpgradeChange)

theorem lane_applyUpgrade_of_ne {f : EndId} (h : f ≠ c.owner) :
    (s.applyUpgrade c).lane f = s.lane f := by
  have own : c.owner ≠ f := h.symm
  unfold applyUpgrade
  cases c.step with
  | completed reset =>
    cases reset <;>
      simp only [lane_eraseUpgrades_of_ne _ own, lane_setNextAck_of_ne _ own,
        lane_setNextRecv_of_ne _ own, lane_setEnd_of_ne _ own]
  | _ =>
    simp only [lane_eraseUpgrades_of_ne _ own, lane_setUpgrade_of_ne _ own,
      lane_setPeerUpgrade_of_ne _ own, lane_setErrorReceipt_of_ne _ own, lane_setEnd_of_ne _ own]

theorem applyUpgrade_eq :
    s.applyUpgrade c = { s with
      ends := (s.applyUpgrade c).ends
      nextRecv := (s.applyUpgrade c).nextRecv
      nextAck := (s.applyUpgrade c).nextAck
      upgrades := (s.applyUpgrade c).upgrades
      peerUpgrades := (s.applyUpgrade c).peerUpgrades
      errorReceipts := (s.applyUpgrade c).errorReceipts } := by
  unfold applyUpgrade
  cases c.step with
  | completed reset => cases reset <;> rfl
  | _ => rfl

theorem created_applyUpgrade : (s.applyUpgrade c).created = s.created := by
  rw [applyUpgrade_eq]

end ChannelStore

namespace Upgrading

variable [Digest] {h : Host} {out : Output UpgradeChange}

/-- What a step of an upgrade leaves behind once it is stored. -/
def Stored (h : Host) (a : Action) (owner : EndId) (out : Output UpgradeChange) : Prop :=
  out.result.owner = owner ∧ out.events.filterMap Event.fate? = [] ∧
    ∃ d, d.Quiet ∧ Stores h a owner d (h.store.applyUpgrade out.result)

theorem Stored.of_step {a : Action} {owner : EndId} {x : ChannelEnd} {d : Deed}
    (channel : h.store.ends[owner]? = some x) (named : out.result.owner = owner)
    (quiet : d.Quiet) (silent : out.events.filterMap Event.fate? = [])
    (step : LaneStep h a owner (h.store.lane owner) d
      ((h.store.applyUpgrade out.result).lane owner)) : Stored h a owner out :=
  ⟨named, silent, d, quiet, .old channel step
    (fun _ other => ChannelStore.lane_applyUpgrade_of_ne _ _ (named ▸ other))
    (ChannelStore.created_applyUpgrade _ _)⟩

omit [Digest] in
theorem lane_abort (s : ChannelStore) (owner : EndId) (x : ChannelEnd) (cause : ChannelError) :
    (s.applyUpgrade (abort owner x cause).result).lane owner = { s.lane owner with
      channel := some { x with state := .opened }, upgrade := none, peerUpgrade := none,
      errorReceipt := some (ErrorReceipt.ofError x.upgradeSequence cause) } := by
  simp [abort, ChannelStore.applyUpgrade]

theorem abort_stored {a : Action} {owner : EndId} {x : ChannelEnd} {cause : ChannelError}
    (sequence : Sequence) (channel : h.store.ends[owner]? = some x)
    (state : (x.state = .opened ∧ sequence = x.upgradeSequence ∧
        ∃ m, a = .deliver (.upgrade (.answer m)) ∧ m.peerSequence ≤ x.upgradeSequence) ∨
      x.state = .initUpgrade ∨ x.state = .tryUpgrade)
    (newer : ¬ sequence < x.upgradeSequence)
    (source : sequence = x.upgradeSequence ∨
      ∃ m, a = .deliver (.upgrade (.answer m)) ∧ sequence = m.peerSequence) :
    Stored h a owner (abort owner { x with upgradeSequence := sequence } cause) := by
  refine .of_step (d := .restored) channel rfl ⟨rfl, rfl⟩ rfl ?_
  rw [lane_abort]
  exact .abort _ x (ErrorReceipt.ofError sequence cause) channel state newer source

theorem propose_stored {cap : Capability} {m : UpgradeInit} (ok : propose h cap m = .ok out) :
    Stored h (.proposeUpgrade cap m) m.owner out := by
  cases propose_eq_ok.1 ok with
  | proposed channel owned state valid named set counter counted =>
    obtain ⟨hop, c, hops, connection, -, -⟩ := valid.linked
    refine .of_step (d := .proposed) channel rfl ⟨rfl, rfl⟩ rfl ?_
    simp only [ChannelStore.applyUpgrade, ChannelStore.lane_setUpgrade, ChannelStore.lane_setEnd]
    exact .propose _ cap m _ _ _ _ hop c rfl rfl channel state valid.changed hops connection counter
      counted

/-! ### Answering -/

theorem Answerable.replies {m : UpgradeTry} {x : ChannelEnd} {fields : UpgradeFields}
    (answerable : Answerable h m x fields) : (h.store.lane m.owner).Replies h m x fields := by
  obtain ⟨channel, -, -, fields_eq, valid, ⟨given, proposed, d, hops, peerHops, there, peerHop⟩, c, own,
    second, connection, names, first, other, upgrade⟩ := answerable
  obtain ⟨hop, single, held, -⟩ := Host.openConnection_eq_ok.1 connection
  obtain ⟨peer, time, named, sees⟩ := Host.sees_of_provesPeerValue single held first
  obtain ⟨peer', time', named', sees'⟩ := Host.sees_of_provesPeerValue single held upgrade
  obtain rfl : peer = peer' := ChannelPeer.ofEnd_injective (named.symm.trans named')
  exact ⟨channel, fields_eq, valid.changed, ⟨given, proposed, hops, peerHops, d, there, peerHop⟩,
    hop, own, peer, second, time, single, ⟨c, held, names⟩, named, other, (sees.append sees').2⟩

omit [Digest] in
theorem lane_replied (s : ChannelStore) (m : UpgradeTry) (x : ChannelEnd) (own : Upgrade) :
    (s.applyUpgrade (replied m x own).result).lane m.owner = { s.lane m.owner with
      channel := some { x with state := .tryUpgrade }, upgrade := some own
      peerUpgrade := some m.peerUpgrade } := by
  simp [replied, ChannelStore.applyUpgrade]

theorem answer_stored {m : UpgradeTry} (ok : answer h m = .ok out) :
    Stored h (.deliver (.upgrade (.answer m))) m.owner out := by
  cases succeeds_of_answer ok with
  | outdated answerable opened old counted =>
    exact abort_stored _ answerable.channel (.inl ⟨opened, rfl, m, rfl, old⟩) (by simp) (.inl rfl)
  | @answered _ x _ _ answerable opened newer counter flushed =>
    refine .of_step (d := .replied) answerable.channel rfl ⟨rfl, rfl⟩ rfl ?_
    rw [lane_replied]
    exact .reply _ m x _ _ rfl rfl answerable.replies opened (by simpa using newer) counter
  | @crossed _ x _ _ answerable proposed upgrade agrees flushed =>
    refine .of_step (d := .replied) answerable.channel rfl ⟨rfl, rfl⟩ rfl ?_
    rw [lane_replied]
    refine .cross _ m x _ _ rfl rfl answerable.replies (answerable.state.resolve_left proposed)
      upgrade ?_
    rw [answerable.fields_eq] at agrees ⊢
    exact UpgradeFields.eq_of_agreesWith agrees.1 agrees.2
  | clashed answerable proposed upgrade differs =>
    have state := answerable.state.resolve_left proposed
    refine abort_stored _ answerable.channel (.inr (.inl state)) ?_ ?_
    · rw [UInt64.not_lt]
      exact Word.le_max_left _ _
    · exact (Word.max_eq _ _).imp_right fun peer => ⟨m, rfl, peer⟩

/-! ### Acknowledging and completing -/

omit [Digest] in
theorem matchesPeer_eq_ok {own peer : UpgradeFields} {same : Bool}
    (ok : matchesPeer h own peer = .ok same) : same = true ↔ h.Matches own peer := by
  unfold matchesPeer at ok
  split at ok
  next agrees =>
    simp only [UpgradeFields.agreesWith, decide_eq_true_eq] at agrees
    simp only [Except.bind_eq_ok, Fault.lift_eq_ok, UpgradeFields.hop_eq_ok,
      Host.connectionAt_eq_ok, Host.peerHop_eq_ok, Except.pure_eq_ok] at ok
    obtain ⟨hop, hops, c, connection, peerHop, peerHop_eq, given, given_eq, rfl⟩ := ok
    rw [decide_eq_true_eq]
    constructor
    · rintro rfl
      exact ⟨agrees.1, agrees.2, hop, peerHop, hops, given_eq, c, connection, peerHop_eq⟩
    · rintro ⟨-, -, hop', peerHop', hops', given', c', connection', peer'⟩
      obtain rfl : hop = hop' := by simpa [hops] using hops'
      obtain rfl : c = c' := by simpa [connection] using connection'
      obtain rfl : peerHop = peerHop' := by simpa [peerHop_eq] using peer'
      simpa [given_eq] using given'.symm
  next differs =>
    rw [Except.pure_eq_ok] at ok
    subst ok
    simp only [UpgradeFields.agreesWith, decide_eq_true_eq] at differs
    constructor
    · intro no
      cases no
    · rintro ⟨ordering, version, -⟩
      exact absurd ⟨ordering, version⟩ differs

theorem acknowledge_stored {m : UpgradeAck} (ok : acknowledge h m = .ok out) :
    Stored h (.deliver (.upgrade (.ack m))) m.owner out := by
  cases succeeds_of_acknowledge ok with
  | mismatched answered differs =>
    exact abort_stored _ answered.running.channel (.inr answered.state) (by simp) (.inl rfl)
  | answeredLate answered same knows late =>
    exact abort_stored _ answered.running.channel (.inr answered.state) (by simp) (.inl rfl)
  | acknowledged answered same knows inTime flushed =>
    obtain ⟨⟨channel, connection, upgrade⟩, state, ⟨peerHop, names, first⟩, second, other, shown⟩ :=
      answered
    obtain ⟨hop, hops, held, -⟩ := Host.openConnection_eq_ok.1 connection
    obtain ⟨peer, time, named, sees⟩ := Host.sees_of_provesPeerValue hops held first
    obtain ⟨peer', time', named', sees'⟩ := Host.sees_of_provesPeerValue hops held shown
    obtain rfl : peer = peer' := ChannelPeer.ofEnd_injective (named.symm.trans named')
    refine .of_step (d := .agreed) channel rfl ⟨rfl, rfl⟩ rfl ?_
    simp only [ChannelStore.applyUpgrade, ChannelStore.lane_setPeerUpgrade,
      ChannelStore.lane_setEnd]
    exact .agree _ m _ _ hop peerHop peer second time rfl rfl channel state upgrade hops
      ⟨_, held, names⟩ named other (sees.append sees').2 ((matchesPeer_eq_ok same).1 rfl)

theorem ShowsPeer.peerShown {owner : EndId} {x : ChannelEnd} {c : ConnectionEnd} {v : Evidence}
    {state : ChannelState} (shown : ShowsPeer h owner x c v state)
    (connection : h.openConnection x = .ok c) : Lane.PeerShown h owner x v state := by
  obtain ⟨peerHop, names, shown⟩ := shown
  obtain ⟨hop, hops, held, -⟩ := Host.openConnection_eq_ok.1 connection
  obtain ⟨peer, time, named, sees⟩ := Host.sees_of_provesPeerValue hops held shown
  exact ⟨hop, peerHop, peer, time, hops, ⟨c, held, names⟩, named, sees⟩

omit [Digest] in
theorem sequenceReset_eq_ok {owner : EndId} {x : ChannelEnd} {fields : UpgradeFields}
    {reset : Option SequenceReset} (ok : sequenceReset h owner x fields = .ok reset) :
    (h.store.lane owner).Resets x fields
      ((reset.map SequenceReset.nextRecv).or (h.store.lane owner).nextRecv)
      ((reset.map SequenceReset.nextAck).or (h.store.lane owner).nextAck) := by
  unfold sequenceReset at ok
  split at ok
  next turns =>
    simp only [Except.bind_eq_ok, Fault.lift_eq_ok, Fault.checked_eq_ok,
      ChannelStore.peerUpgradeOf_eq_ok, ChannelStore.nextSendOf_eq_ok, Except.pure_eq_ok] at ok
    obtain ⟨peer, stored, recv, counted, next, sent, rfl⟩ := ok
    exact .inr ⟨turns.1, turns.2, peer, next, recv, stored, counted, sent, rfl, rfl⟩
  next keeps =>
    rw [Except.pure_eq_ok] at ok
    subst ok
    exact .inl ⟨keeps, rfl, rfl⟩

omit [Digest] in
theorem lane_completed (s : ChannelStore) (owner : EndId) (x : ChannelEnd)
    (reset : Option SequenceReset) :
    (s.applyUpgrade ⟨owner, x, .completed reset⟩).lane owner = { s.lane owner with
      channel := some x
      nextRecv := (reset.map SequenceReset.nextRecv).or (s.lane owner).nextRecv
      nextAck := (reset.map SequenceReset.nextAck).or (s.lane owner).nextAck
      upgrade := none, peerUpgrade := none } := by
  cases reset <;> simp [ChannelStore.applyUpgrade]

theorem confirm_stored {m : UpgradeConfirm} (ok : confirm h m = .ok out) :
    Stored h (.deliver (.upgrade (.confirm m))) m.owner out := by
  cases succeeds_of_confirm ok with
  | acknowledgedLate acknowledged knows late =>
    exact abort_stored _ acknowledged.running.channel (.inr (.inr acknowledged.state)) (by simp)
      (.inl rfl)
  | confirmed acknowledged knows inTime resets =>
    obtain ⟨⟨channel, connection, upgrade⟩, state, shown⟩ := acknowledged
    refine .of_step (d := .completed) channel rfl ⟨rfl, rfl⟩ rfl ?_
    rw [lane_completed]
    exact .confirm _ m _ _ _ _ rfl rfl channel state upgrade (shown.peerShown connection)
      (sequenceReset_eq_ok resets)

/-- The end that the other chain is expected to hold waits for the confirmation, or is done. -/
theorem peerShown_of_expectedFinished {m : UpgradeOpen} {x y : ChannelEnd} {c : ConnectionEnd}
    {own : Upgrade} (connection : h.openConnection x = .ok c)
    (expected : expectedFinished h m c x own = .ok y)
    (shown : h.provesEnd c x m.evidence.height m.evidence.object y = .ok ()) :
    Lane.PeerShown h m.owner x m.evidence .ackUpgrade ∨
      Lane.PeerCompleted h m.owner x m.evidence own.fields := by
  obtain ⟨hop, hops, held, -⟩ := Host.openConnection_eq_ok.1 connection
  obtain ⟨peer, time, named, sees⟩ := Host.sees_of_provesPeerValue hops held shown
  unfold expectedFinished at expected
  split at expected
  · simp only [Except.bind_eq_ok, Fault.lift_eq_ok, UpgradeFields.hop_eq_ok,
      Host.connectionAt_eq_ok, Host.peerHop_eq_ok, Except.pure_eq_ok] at expected
    obtain ⟨hop', hops', c', held', peerHop, names, rfl⟩ := expected
    exact .inr ⟨hop', peerHop, peer, time, hops', ⟨c', held', names⟩, named, sees⟩
  · simp only [Except.bind_eq_ok, Host.peerHop_eq_ok, Except.pure_eq_ok] at expected
    obtain ⟨peerHop, names, rfl⟩ := expected
    exact .inl ⟨hop, peerHop, peer, time, hops, ⟨c, held, names⟩, named, sees⟩
  · cases expected

theorem finish_stored {m : UpgradeOpen} (ok : finish h m = .ok out) :
    Stored h (.deliver (.upgrade (.finish m))) m.owner out := by
  cases succeeds_of_finish ok with
  | finished running state expected shown resets =>
    refine .of_step (d := .completed) running.channel rfl ⟨rfl, rfl⟩ rfl ?_
    rw [lane_completed]
    exact .finish _ m _ _ _ _ rfl rfl running.channel state running.upgrade
      (peerShown_of_expectedFinished running.connection expected shown) (sequenceReset_eq_ok resets)

/-! ### Giving up -/

theorem cancel_stored {m : UpgradeCancel} (ok : cancel h m = .ok out) :
    Stored h (.deliver (.upgrade (.cancel m))) m.owner out := by
  cases succeeds_of_cancel ok with
  | cancelled channel upgrading newer connection shown =>
    obtain ⟨hop, hops, held, -⟩ := Host.openConnection_eq_ok.1 connection
    obtain ⟨peer, time, named, sees⟩ := Host.sees_of_provesPeerValue hops held shown
    refine .of_step (d := .restored) channel rfl ⟨rfl, rfl⟩ rfl ?_
    simp only [ChannelStore.applyUpgrade, ChannelStore.lane_eraseUpgrades,
      ChannelStore.lane_setEnd]
    exact .cancel _ m _ peer time rfl rfl channel upgrading newer named sees

theorem expire_stored {m : UpgradeExpire} (ok : expire h m = .ok out) :
    Stored h (.deliver (.upgrade (.expire m))) m.owner out := by
  cases succeeds_of_expire ok with
  | expired running state knows late shown pending =>
    obtain ⟨hop, hops, held, -⟩ := Host.openConnection_eq_ok.1 running.connection
    obtain ⟨_, peer, knows', named, opens⟩ := Host.provesPeerValue_eq_ok shown
    obtain rfl := knows.unique knows'
    refine .of_step (d := .restored) running.channel rfl ⟨rfl, rfl⟩ rfl ?_
    simp only [ChannelStore.applyUpgrade, ChannelStore.lane_setErrorReceipt,
      ChannelStore.lane_eraseUpgrades, ChannelStore.lane_setEnd]
    refine .expire _ m _ _ peer _ _ rfl rfl running.channel state running.upgrade named late
      (.of_opens hops held knows opens) (fun opened newer agrees => ?_) rfl
    cases (matchesPeer_eq_ok (pending ⟨opened, newer⟩)).2 agrees

/-- A step of an upgrade that succeeded, once it is stored. -/
theorem step_stored {m : UpgradeMessage} (ok : step h m = .ok out) :
    Stored h (.deliver (.upgrade m)) m.owner out := by
  cases m with
  | answer m => exact answer_stored ok
  | ack m => exact acknowledge_stored ok
  | confirm m => exact confirm_stored ok
  | finish m => exact finish_stored ok
  | cancel m => exact cancel_stored ok
  | expire m => exact expire_stored ok

end Upgrading

end Crosschain
