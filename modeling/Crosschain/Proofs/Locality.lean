import Crosschain.Proofs.Reachability

/-!
# What a step reads and writes

A step on an end reads of the store what is kept for this end and which handle owns it, and writes
what is kept for the end. So two stores that keep the same for the end make no difference to the
step, and changes for two ends can be made in either order.
-/

namespace Crosschain

/-! ### Reading -/

namespace ChannelStore

/-- Two stores keep the same for an end, and have given out the same handles. -/
structure Agrees (s t : ChannelStore) (e : EndId) : Prop where
  lane : t.lane e = s.lane e
  registry : t.registry = s.registry

theorem scan_eq_true {s : ChannelStore} {e : EndId} {next : Sequence} :
    (s.commitments.toList.any fun c =>
      c.1.owner = e ∧ 0 < c.1.sequence ∧ c.1.sequence < next) = true ↔
      ∃ n c, (s.lane e).commitments n = some c ∧ 0 < n ∧ n < next := by
  simp only [List.any_eq_true, decide_eq_true_eq]
  constructor
  · rintro ⟨⟨⟨f, n⟩, c⟩, mem, rfl, between⟩
    exact ⟨n, c, Std.ExtTreeMap.mem_toList_iff_getElem?_eq_some.1 mem, between⟩
  · rintro ⟨n, c, there, between⟩
    exact ⟨⟨⟨e, n⟩, c⟩, Std.ExtTreeMap.mem_toList_iff_getElem?_eq_some.2 there, rfl, between⟩

namespace Agrees

variable {s t : ChannelStore} {e : EndId} (agrees : s.Agrees t e)

include agrees

theorem endAt : t.endAt e = s.endAt e := by
  have same : t.ends[e]? = s.ends[e]? := congrArg Lane.channel agrees.lane
  rw [ChannelStore.endAt, ChannelStore.endAt, same]

theorem nextSendOf : t.nextSendOf e = s.nextSendOf e := by
  have same : t.nextSend[e]? = s.nextSend[e]? := congrArg Lane.nextSend agrees.lane
  rw [ChannelStore.nextSendOf, ChannelStore.nextSendOf, same]

theorem nextRecvOf : t.nextRecvOf e = s.nextRecvOf e := by
  have same : t.nextRecv[e]? = s.nextRecv[e]? := congrArg Lane.nextRecv agrees.lane
  rw [ChannelStore.nextRecvOf, ChannelStore.nextRecvOf, same]

theorem nextAckOf : t.nextAckOf e = s.nextAckOf e := by
  have same : t.nextAck[e]? = s.nextAck[e]? := congrArg Lane.nextAck agrees.lane
  rw [ChannelStore.nextAckOf, ChannelStore.nextAckOf, same]

theorem upgradeOf : t.upgradeOf e = s.upgradeOf e := by
  have same : t.upgrades[e]? = s.upgrades[e]? := congrArg Lane.upgrade agrees.lane
  rw [ChannelStore.upgradeOf, ChannelStore.upgradeOf, same]

theorem peerUpgradeOf : t.peerUpgradeOf e = s.peerUpgradeOf e := by
  have same : t.peerUpgrades[e]? = s.peerUpgrades[e]? := congrArg Lane.peerUpgrade agrees.lane
  rw [ChannelStore.peerUpgradeOf, ChannelStore.peerUpgradeOf, same]

theorem authenticate (cap : Capability) : t.authenticate e cap = s.authenticate e cap := by
  rw [ChannelStore.authenticate, ChannelStore.authenticate, agrees.registry]

theorem commitment (n : Sequence) : t.commitments[Slot.mk e n]? = s.commitments[Slot.mk e n]? :=
  congrFun (congrArg Lane.commitments agrees.lane) n

theorem hasReceipt (n : Sequence) : t.hasReceipt ⟨e, n⟩ = s.hasReceipt ⟨e, n⟩ :=
  congrFun (congrArg Lane.receipts agrees.lane) n

theorem contains_acknowledgement (n : Sequence) :
    t.acknowledgements.contains ⟨e, n⟩ = s.acknowledgements.contains ⟨e, n⟩ := by
  have same : t.acknowledgements[Slot.mk e n]? = s.acknowledgements[Slot.mk e n]? :=
    congrFun (congrArg Lane.acknowledgements agrees.lane) n
  rw [Std.ExtTreeMap.contains_eq_isSome_getElem?, Std.ExtTreeMap.contains_eq_isSome_getElem?, same]

theorem inFlight : t.inFlight e = s.inFlight e := by
  have scan (next : Sequence) : (t.commitments.toList.any fun c =>
      c.1.owner = e ∧ 0 < c.1.sequence ∧ c.1.sequence < next) = s.commitments.toList.any fun c =>
        c.1.owner = e ∧ 0 < c.1.sequence ∧ c.1.sequence < next := by
    rw [Bool.eq_iff_iff, scan_eq_true, scan_eq_true, agrees.lane]
  simp only [ChannelStore.inFlight, agrees.nextSendOf, scan]

end Agrees

end ChannelStore

namespace Host

def withStore (h : Host) (s : ChannelStore) : Host := { h with store := s }

variable (h : Host) (s : ChannelStore)

@[simp] theorem store_withStore : (h.withStore s).store = s := rfl

@[simp] theorem height_withStore : (h.withStore s).height = h.height := rfl

@[simp] theorem now_withStore : (h.withStore s).now = h.now := rfl

@[simp] theorem connectionAt_withStore (id : ConnectionId) :
    (h.withStore s).connectionAt id = h.connectionAt id := rfl

@[simp] theorem openConnection_withStore (x : ChannelEnd) :
    (h.withStore s).openConnection x = h.openConnection x := rfl

@[simp] theorem consensusAt_withStore (c : ConnectionEnd) (height : Height) :
    (h.withStore s).consensusAt c height = h.consensusAt c height := rfl

variable [Digest]

@[simp] theorem provesEnd_withStore (c : ConnectionEnd) (x : ChannelEnd) (height : Height)
    (proof : StateProof) (expected : ChannelEnd) :
    (h.withStore s).provesEnd c x height proof expected = h.provesEnd c x height proof expected :=
  rfl

@[simp] theorem provesUpgrade_withStore (c : ConnectionEnd) (x : ChannelEnd) (height : Height)
    (proof : StateProof) (u : Upgrade) :
    (h.withStore s).provesUpgrade c x height proof u = h.provesUpgrade c x height proof u := rfl

@[simp] theorem provesReceipt_withStore (c : ConnectionEnd) (x : ChannelEnd) (height : Height)
    (proof : StateProof) (r : ErrorReceipt) :
    (h.withStore s).provesReceipt c x height proof r = h.provesReceipt c x height proof r := rfl

@[simp] theorem provesPacket_withStore (c : ConnectionEnd) (p : Packet) (v : Evidence) :
    (h.withStore s).provesPacket c p v = h.provesPacket c p v := rfl

@[simp] theorem provesAcknowledgement_withStore (c : ConnectionEnd) (p : Packet)
    (ack : Acknowledgement) (v : Evidence) :
    (h.withStore s).provesAcknowledgement c p ack v = h.provesAcknowledgement c p ack v := rfl

@[simp] theorem provesNextRecv_withStore (c : ConnectionEnd) (p : Packet) (next : Sequence)
    (v : Evidence) : (h.withStore s).provesNextRecv c p next v = h.provesNextRecv c p next v := rfl

@[simp] theorem provesNoReceipt_withStore (c : ConnectionEnd) (p : Packet) (v : Evidence) :
    (h.withStore s).provesNoReceipt c p v = h.provesNoReceipt c p v := rfl

end Host

/-! ### Steps read their own end -/

/-- The end that a message of the handshake is about, if it is there already. -/
def HandshakeMessage.owner? : HandshakeMessage → Option EndId
  | .openInit _ | .openTry _ => none
  | .openAck m => some m.owner
  | .openConfirm m => some m.owner

section Reads

variable [Digest] {h : Host} {t : ChannelStore}

namespace Upgrading

omit [Digest] in
@[simp] theorem validateFields_withStore (fields : UpgradeFields) (x : ChannelEnd) :
    validateFields (h.withStore t) fields x = validateFields h fields x := rfl

omit [Digest] in
@[simp] theorem matchesPeer_withStore (own peer : UpgradeFields) :
    matchesPeer (h.withStore t) own peer = matchesPeer h own peer := rfl

omit [Digest] in
@[simp] theorem expectedFinished_withStore (m : UpgradeOpen) (c : ConnectionEnd) (x : ChannelEnd)
    (own : Upgrade) : expectedFinished (h.withStore t) m c x own = expectedFinished h m c x own :=
  rfl

variable {e : EndId} (agrees : h.store.Agrees t e)

include agrees

omit [Digest] in
theorem pendingOrderChange_congr (x : ChannelEnd) :
    pendingOrderChange (h.withStore t) e x = pendingOrderChange h e x := by
  simp only [pendingOrderChange, Host.store_withStore, agrees.upgradeOf]

omit [Digest] in
theorem ensureFlushed_congr (x : ChannelEnd) (fields : UpgradeFields) :
    ensureFlushed (h.withStore t) e x fields = ensureFlushed h e x fields := by
  simp only [ensureFlushed, Host.store_withStore, agrees.inFlight]

omit [Digest] in
theorem sequenceReset_congr (x : ChannelEnd) (fields : UpgradeFields) :
    sequenceReset (h.withStore t) e x fields = sequenceReset h e x fields := by
  simp only [sequenceReset, Host.store_withStore, agrees.peerUpgradeOf, agrees.nextSendOf]

omit agrees in
/-- A step of an upgrade reads of the store only what is kept for its end. -/
theorem step_congr {m : UpgradeMessage} (agrees : h.store.Agrees t m.owner) :
    step (h.withStore t) m = step h m := by
  cases m with
  | answer m =>
    have agrees : h.store.Agrees t m.owner := agrees
    have answerWith (x : ChannelEnd) (own : Upgrade) :
        answerWith (h.withStore t) m x own = Upgrading.answerWith h m x own := by
      simp only [Upgrading.answerWith, ensureFlushed_congr agrees]
    simp only [step, answer, checkAnswer, Host.store_withStore, Host.openConnection_withStore,
      Host.now_withStore, Host.height_withStore, Host.connectionAt_withStore,
      Host.provesEnd_withStore, Host.provesUpgrade_withStore, validateFields_withStore,
      agrees.endAt, agrees.nextSendOf, agrees.upgradeOf, answerWith]
    rfl
  | ack m =>
    have agrees : h.store.Agrees t m.owner := agrees
    simp only [step, acknowledge, Host.store_withStore, Host.openConnection_withStore,
      Host.consensusAt_withStore, Host.provesEnd_withStore, Host.provesUpgrade_withStore,
      matchesPeer_withStore, agrees.endAt, agrees.upgradeOf, ensureFlushed_congr agrees]
  | confirm m =>
    have agrees : h.store.Agrees t m.owner := agrees
    simp only [step, confirm, Host.store_withStore, Host.openConnection_withStore,
      Host.consensusAt_withStore, Host.provesEnd_withStore, agrees.endAt, agrees.upgradeOf,
      sequenceReset_congr agrees]
  | finish m =>
    have agrees : h.store.Agrees t m.owner := agrees
    simp only [step, finish, Host.store_withStore, Host.openConnection_withStore,
      Host.provesEnd_withStore, expectedFinished_withStore, agrees.endAt, agrees.upgradeOf,
      sequenceReset_congr agrees]
  | cancel m =>
    have agrees : h.store.Agrees t m.owner := agrees
    simp only [step, cancel, Host.store_withStore, Host.openConnection_withStore,
      Host.provesReceipt_withStore, agrees.endAt]
  | expire m =>
    have agrees : h.store.Agrees t m.owner := agrees
    simp only [step, expire, Host.store_withStore, Host.openConnection_withStore,
      Host.consensusAt_withStore, Host.provesEnd_withStore, matchesPeer_withStore, agrees.endAt,
      agrees.upgradeOf]

end Upgrading

namespace Transfer

omit [Digest] in
@[simp] theorem ensureInTime_withStore (p : Packet) :
    ensureInTime (h.withStore t) p = ensureInTime h p := rfl

theorem writeAcknowledgement_congr {cap : Capability} {p : Packet} {ack : Acknowledgement}
    (agrees : h.store.Agrees t p.destination) :
    writeAcknowledgement (h.withStore t) cap p ack = writeAcknowledgement h cap p ack := by
  simp only [writeAcknowledgement, Host.store_withStore, agrees.endAt, agrees.authenticate,
    Packet.destinationSlot, agrees.contains_acknowledgement]
  rfl

theorem step_congr {cap : Capability} {m : PacketMessage} (agrees : h.store.Agrees t m.owner) :
    step (h.withStore t) cap m = step h cap m := by
  cases m with
  | receive m =>
    have agrees : h.store.Agrees t m.packet.destination := agrees
    simp only [step, receive, Host.store_withStore, Host.openConnection_withStore,
      Host.provesPacket_withStore, ensureInTime_withStore, agrees.endAt, agrees.authenticate,
      agrees.nextRecvOf, Upgrading.pendingOrderChange_congr agrees, Packet.destinationSlot,
      agrees.hasReceipt]
    rfl
  | acknowledge m =>
    have agrees : h.store.Agrees t m.packet.source := agrees
    simp only [step, acknowledge, Host.store_withStore, Host.openConnection_withStore,
      Host.provesAcknowledgement_withStore, agrees.endAt, agrees.authenticate, agrees.nextAckOf,
      Packet.sourceSlot, agrees.commitment]
  | timeout m =>
    have agrees : h.store.Agrees t m.packet.source := agrees
    simp only [step, timeout, Host.store_withStore, Host.connectionAt_withStore,
      Host.consensusAt_withStore, Host.provesNextRecv_withStore, Host.provesNoReceipt_withStore,
      agrees.endAt, agrees.authenticate, Packet.sourceSlot, agrees.commitment]

end Transfer

namespace Handshake

theorem step_congr {m : HandshakeMessage} {e : EndId} (addressed : m.owner? = some e)
    (agrees : h.store.Agrees t e) : step (h.withStore t) m = step h m := by
  cases m with
  | openInit m => cases addressed
  | openTry m => cases addressed
  | openAck m =>
    obtain rfl : m.owner = e := Option.some.inj addressed
    simp only [step, openAck, Host.store_withStore, Host.openConnection_withStore,
      Host.provesEnd_withStore, agrees.endAt]
  | openConfirm m =>
    obtain rfl : m.owner = e := Option.some.inj addressed
    simp only [step, openConfirm, Host.store_withStore, Host.openConnection_withStore,
      Host.provesEnd_withStore, agrees.endAt]

end Handshake

end Reads

/-! ### Writing -/

namespace ChannelStore

theorem eq_of_lane {s t : ChannelStore} (lane : ∀ e, t.lane e = s.lane e)
    (registry : t.registry = s.registry) (created : t.created = s.created)
    (listed : t.overConnection = s.overConnection) : t = s := by
  have receipts : t.receipts = s.receipts := by
    refine Std.ExtTreeMap.ext_getElem? fun slot => ?_
    have there : (t.receipts[slot]?).isSome = (s.receipts[slot]?).isSome :=
      congrFun (congrArg Lane.receipts (lane slot.owner)) slot.sequence
    -- A receipt carries nothing, so it is enough that there is one.
    cases after : t.receipts[slot]? <;> cases before : s.receipts[slot]? <;>
      rw [before, after] at there <;> first | rfl | cases there
  obtain ⟨ends, overConnection, nextSend, nextRecv, nextAck, commitments, _, acknowledgements,
    upgrades, peerUpgrades, errorReceipts, _, _⟩ := s
  obtain ⟨ends', overConnection', nextSend', nextRecv', nextAck', commitments', _,
    acknowledgements', upgrades', peerUpgrades', errorReceipts', _, _⟩ := t
  obtain rfl : ends' = ends := Std.ExtTreeMap.ext_getElem? fun e => congrArg Lane.channel (lane e)
  obtain rfl : nextSend' = nextSend :=
    Std.ExtTreeMap.ext_getElem? fun e => congrArg Lane.nextSend (lane e)
  obtain rfl : nextRecv' = nextRecv :=
    Std.ExtTreeMap.ext_getElem? fun e => congrArg Lane.nextRecv (lane e)
  obtain rfl : nextAck' = nextAck :=
    Std.ExtTreeMap.ext_getElem? fun e => congrArg Lane.nextAck (lane e)
  obtain rfl : commitments' = commitments := Std.ExtTreeMap.ext_getElem? fun slot =>
    congrFun (congrArg Lane.commitments (lane slot.owner)) slot.sequence
  obtain rfl : acknowledgements' = acknowledgements := Std.ExtTreeMap.ext_getElem? fun slot =>
    congrFun (congrArg Lane.acknowledgements (lane slot.owner)) slot.sequence
  obtain rfl : upgrades' = upgrades :=
    Std.ExtTreeMap.ext_getElem? fun e => congrArg Lane.upgrade (lane e)
  obtain rfl : peerUpgrades' = peerUpgrades :=
    Std.ExtTreeMap.ext_getElem? fun e => congrArg Lane.peerUpgrade (lane e)
  obtain rfl : errorReceipts' = errorReceipts :=
    Std.ExtTreeMap.ext_getElem? fun e => congrArg Lane.errorReceipt (lane e)
  simp only at receipts registry created listed
  subst receipts registry created listed
  rfl

/-- A change of a store that concerns one end: what it makes of this end depends on nothing but the
end, and it touches nothing else. -/
structure Within (e : EndId) (w : ChannelStore → ChannelStore) : Prop where
  lane : ∀ s t, t.lane e = s.lane e → (w t).lane e = (w s).lane e
  others : ∀ s f, f ≠ e → (w s).lane f = s.lane f
  registry : ∀ s, (w s).registry = s.registry
  created : ∀ s, (w s).created = s.created
  listed : ∀ s, (w s).overConnection = s.overConnection

namespace Within

variable {e f : EndId} {v w : ChannelStore → ChannelStore}

theorem none : Within e id :=
  ⟨fun _ _ same => same, fun _ _ _ => rfl, fun _ => rfl, fun _ => rfl, fun _ => rfl⟩

theorem comp (second : Within e w) (first : Within e v) : Within e fun s => w (v s) := by
  constructor
  · exact fun s t same => second.lane _ _ (first.lane s t same)
  · exact fun s f apart => (second.others _ f apart).trans (first.others s f apart)
  · exact fun s => (second.registry _).trans (first.registry s)
  · exact fun s => (second.created _).trans (first.created s)
  · exact fun s => (second.listed _).trans (first.listed s)

theorem setEnd (x : ChannelEnd) : Within e fun s => s.setEnd e x := by
  constructor
  · intro s t same
    rw [lane_setEnd, lane_setEnd, same]
  · exact fun s f apart => lane_setEnd_of_ne s apart.symm x
  · exact fun _ => rfl
  · exact fun _ => rfl
  · exact fun _ => rfl

theorem applyPacket {c : PacketChange} (named : ∀ f, c.owner? = some f → f = e) :
    Within e fun s => s.applyPacket c := by
  constructor
  · intro s t same
    cases c with
    | sent slot next commitment =>
      obtain ⟨owner, n⟩ := slot
      obtain rfl : owner = e := named _ rfl
      simp only [ChannelStore.applyPacket, lane_setCommitment, lane_setNextSend, same]
    | receivedInOrder owner next =>
      obtain rfl : owner = e := named _ rfl
      simp only [ChannelStore.applyPacket, lane_setNextRecv, same]
    | received slot =>
      obtain ⟨owner, n⟩ := slot
      obtain rfl : owner = e := named _ rfl
      simp only [ChannelStore.applyPacket, lane_setReceipt, same]
    | answered slot commitment =>
      obtain ⟨owner, n⟩ := slot
      obtain rfl : owner = e := named _ rfl
      simp only [ChannelStore.applyPacket, lane_setAcknowledgement, same]
    | acknowledged slot next =>
      obtain ⟨owner, n⟩ := slot
      obtain rfl : owner = e := named _ rfl
      cases next <;>
        simp only [ChannelStore.applyPacket, lane_eraseCommitment, lane_setNextAck, same]
    | timedOut slot closed =>
      obtain ⟨owner, n⟩ := slot
      obtain rfl : owner = e := named _ rfl
      cases closed <;>
        simp only [ChannelStore.applyPacket, lane_eraseCommitment, lane_setEnd, same]
    | nothing reason => exact same
  · intro s f apart
    apply lane_applyPacket_of_ne
    intro owner there
    rwa [named owner there]
  · exact fun s => registry_applyPacket s c
  · exact fun s => created_applyPacket s c
  · intro s
    cases c with
    | acknowledged slot next => cases next <;> rfl
    | timedOut slot closed => cases closed <;> rfl
    | _ => rfl

theorem applyUpgrade {c : UpgradeChange} (named : c.owner = e) :
    Within e fun s => s.applyUpgrade c := by
  subst named
  constructor
  · intro s t same
    simp only [ChannelStore.applyUpgrade]
    cases c.step with
    | completed reset =>
      cases reset <;>
        simp only [lane_setEnd, lane_eraseUpgrades, lane_setNextRecv, lane_setNextAck, same]
    | _ =>
      simp only [lane_setEnd, lane_setUpgrade, lane_setPeerUpgrade, lane_eraseUpgrades,
        lane_setErrorReceipt, same]
  · exact fun s f apart => lane_applyUpgrade_of_ne s c apart
  · exact fun s => registry_applyUpgrade s c
  · exact fun s => created_applyUpgrade s c
  · intro s
    simp only [ChannelStore.applyUpgrade]
    cases c.step with
    | completed reset => cases reset <;> rfl
    | _ => rfl

/-- Changes for two ends can be made in either order. -/
theorem comm (first : Within e v) (second : Within f w) (apart : e ≠ f) (s : ChannelStore) :
    v (w s) = w (v s) := by
  refine eq_of_lane (fun g => ?_) ?_ ?_ ?_
  · by_cases mine : g = e
    · subst mine
      rw [second.others _ _ apart]
      exact first.lane _ _ (second.others _ _ apart)
    · by_cases other : g = f
      · subst other
        rw [first.others _ _ mine]
        exact (second.lane _ _ (first.others _ _ mine)).symm
      · rw [first.others _ _ mine, second.others _ _ other, second.others _ _ other,
          first.others _ _ mine]
  · rw [first.registry, second.registry, second.registry, first.registry]
  · rw [first.created, second.created, second.created, first.created]
  · rw [first.listed, second.listed, second.listed, first.listed]

theorem agrees (within : Within e w) (apart : f ≠ e) (s : ChannelStore) : s.Agrees (w s) f :=
  ⟨within.others s f apart, within.registry s⟩

end Within

end ChannelStore

end Crosschain
