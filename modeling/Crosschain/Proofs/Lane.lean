import Crosschain.Proofs.Attempts
import Crosschain.Proofs.World
import Mathlib.Logic.Function.Basic

/-!
# What a chain keeps for one channel end

The store of a chain falls into lanes, one for each channel end: the end with its counters, packets
and upgrades. An action of the chain changes each lane in one of a few ways, each with its guards,
or leaves it as it is.
-/

namespace Crosschain

/-! ### Lanes -/

/-- What a chain keeps for one channel end. -/
@[ext]
structure Lane where
  channel : Option ChannelEnd
  nextSend : Option Sequence
  nextRecv : Option Sequence
  nextAck : Option Sequence
  upgrade : Option Upgrade
  peerUpgrade : Option Upgrade
  errorReceipt : Option ErrorReceipt
  commitments : Sequence → Option Bytes
  receipts : Sequence → Bool
  acknowledgements : Sequence → Option Bytes

def Lane.empty : Lane :=
  ⟨none, none, none, none, none, none, none, fun _ => none, fun _ => false, fun _ => none⟩

namespace ChannelStore

def lane (s : ChannelStore) (e : EndId) : Lane where
  channel := s.ends[e]?
  nextSend := s.nextSend[e]?
  nextRecv := s.nextRecv[e]?
  nextAck := s.nextAck[e]?
  upgrade := s.upgrades[e]?
  peerUpgrade := s.peerUpgrades[e]?
  errorReceipt := s.errorReceipts[e]?
  commitments n := s.commitments[Slot.mk e n]?
  receipts n := s.hasReceipt ⟨e, n⟩
  acknowledgements n := s.acknowledgements[Slot.mk e n]?

theorem lane_empty (e : EndId) : empty.lane e = .empty := by
  simp [lane, empty, hasReceipt, Lane.empty]

theorem lane_ne_empty {s : ChannelStore} {e : EndId} {x : ChannelEnd} (there : s.ends[e]? = some x) :
    s.lane e ≠ .empty := by
  intro free
  have none : s.ends[e]? = none := congrArg Lane.channel free
  rw [there] at none
  cases none

variable (s : ChannelStore) (e f : EndId)

/-! ### Writing one lane -/

section Self

open Function (update)

@[simp] theorem lane_setEnd (c : ChannelEnd) :
    (s.setEnd e c).lane e = { s.lane e with channel := some c } := by
  simp [lane, setEnd, hasReceipt]

@[simp] theorem lane_setNextSend (n : Sequence) :
    (s.setNextSend e n).lane e = { s.lane e with nextSend := some n } := by
  simp [lane, setNextSend, hasReceipt]

@[simp] theorem lane_setNextRecv (n : Sequence) :
    (s.setNextRecv e n).lane e = { s.lane e with nextRecv := some n } := by
  simp [lane, setNextRecv, hasReceipt]

@[simp] theorem lane_setNextAck (n : Sequence) :
    (s.setNextAck e n).lane e = { s.lane e with nextAck := some n } := by
  simp [lane, setNextAck, hasReceipt]

@[simp] theorem lane_setUpgrade (u : Upgrade) :
    (s.setUpgrade e u).lane e = { s.lane e with upgrade := some u } := by
  simp [lane, setUpgrade, hasReceipt]

@[simp] theorem lane_setPeerUpgrade (u : Upgrade) :
    (s.setPeerUpgrade e u).lane e = { s.lane e with peerUpgrade := some u } := by
  simp [lane, setPeerUpgrade, hasReceipt]

@[simp] theorem lane_eraseUpgrades :
    (s.eraseUpgrades e).lane e = { s.lane e with upgrade := none, peerUpgrade := none } := by
  simp [lane, eraseUpgrades, eraseUpgrade, erasePeerUpgrade, hasReceipt]

@[simp] theorem lane_setErrorReceipt (r : ErrorReceipt) :
    (s.setErrorReceipt e r).lane e = { s.lane e with errorReceipt := some r } := by
  simp [lane, setErrorReceipt, hasReceipt]

theorem slot_eq_iff {m n : Sequence} : compare (Slot.mk e m) ⟨e, n⟩ = .eq ↔ n = m := by
  rw [Std.compare_eq_iff_eq, Slot.mk.injEq]
  exact ⟨fun h => h.2.symm, fun h => ⟨rfl, h.symm⟩⟩

@[simp] theorem lane_setCommitment (n : Sequence) (c : Bytes) :
    (s.setCommitment ⟨e, n⟩ c).lane e =
      { s.lane e with commitments := update (s.lane e).commitments n (some c) } := by
  ext : 1 <;> try rfl
  funext m
  simp only [lane, setCommitment, Std.ExtTreeMap.getElem?_insert, slot_eq_iff, Function.update_apply]

@[simp] theorem lane_eraseCommitment (n : Sequence) :
    (s.eraseCommitment ⟨e, n⟩).lane e =
      { s.lane e with commitments := update (s.lane e).commitments n none } := by
  ext : 1 <;> try rfl
  funext m
  simp only [lane, eraseCommitment, Std.ExtTreeMap.getElem?_erase, slot_eq_iff, Function.update_apply]

@[simp] theorem lane_setReceipt (n : Sequence) :
    (s.setReceipt ⟨e, n⟩).lane e =
      { s.lane e with receipts := update (s.lane e).receipts n true } := by
  ext : 1 <;> try rfl
  funext m
  simp only [lane, setReceipt, hasReceipt, Std.ExtTreeMap.getElem?_insert, slot_eq_iff,
    Function.update_apply]
  split <;> rfl

@[simp] theorem lane_setAcknowledgement (n : Sequence) (c : Bytes) :
    (s.setAcknowledgement ⟨e, n⟩ c).lane e =
      { s.lane e with acknowledgements := update (s.lane e).acknowledgements n (some c) } := by
  ext : 1 <;> try rfl
  funext m
  simp only [lane, setAcknowledgement, Std.ExtTreeMap.getElem?_insert, slot_eq_iff,
    Function.update_apply]

end Self

/-! ### Writing another lane -/

section Other

variable {e f} (h : e ≠ f)

include h

theorem lane_setEnd_of_ne (c : ChannelEnd) : (s.setEnd e c).lane f = s.lane f := by
  simp [lane, setEnd, hasReceipt, Std.ExtTreeMap.getElem?_insert, h]

theorem lane_setNextSend_of_ne (n : Sequence) : (s.setNextSend e n).lane f = s.lane f := by
  simp [lane, setNextSend, hasReceipt, Std.ExtTreeMap.getElem?_insert, h]

theorem lane_setNextRecv_of_ne (n : Sequence) : (s.setNextRecv e n).lane f = s.lane f := by
  simp [lane, setNextRecv, hasReceipt, Std.ExtTreeMap.getElem?_insert, h]

theorem lane_setNextAck_of_ne (n : Sequence) : (s.setNextAck e n).lane f = s.lane f := by
  simp [lane, setNextAck, hasReceipt, Std.ExtTreeMap.getElem?_insert, h]

theorem lane_setUpgrade_of_ne (u : Upgrade) : (s.setUpgrade e u).lane f = s.lane f := by
  simp [lane, setUpgrade, hasReceipt, Std.ExtTreeMap.getElem?_insert, h]

theorem lane_setPeerUpgrade_of_ne (u : Upgrade) : (s.setPeerUpgrade e u).lane f = s.lane f := by
  simp [lane, setPeerUpgrade, hasReceipt, Std.ExtTreeMap.getElem?_insert, h]

theorem lane_eraseUpgrades_of_ne : (s.eraseUpgrades e).lane f = s.lane f := by
  simp [lane, eraseUpgrades, eraseUpgrade, erasePeerUpgrade, hasReceipt,
    Std.ExtTreeMap.getElem?_erase, h]

theorem lane_setErrorReceipt_of_ne (r : ErrorReceipt) :
    (s.setErrorReceipt e r).lane f = s.lane f := by
  simp [lane, setErrorReceipt, hasReceipt, Std.ExtTreeMap.getElem?_insert, h]

theorem lane_setCommitment_of_ne (n : Sequence) (c : Bytes) :
    (s.setCommitment ⟨e, n⟩ c).lane f = s.lane f := by
  simp [lane, setCommitment, hasReceipt, Std.ExtTreeMap.getElem?_insert, h]

theorem lane_eraseCommitment_of_ne (n : Sequence) :
    (s.eraseCommitment ⟨e, n⟩).lane f = s.lane f := by
  simp [lane, eraseCommitment, hasReceipt, Std.ExtTreeMap.getElem?_erase, h]

theorem lane_setReceipt_of_ne (n : Sequence) : (s.setReceipt ⟨e, n⟩).lane f = s.lane f := by
  simp [lane, setReceipt, hasReceipt, Std.ExtTreeMap.getElem?_insert, h]

theorem lane_setAcknowledgement_of_ne (n : Sequence) (c : Bytes) :
    (s.setAcknowledgement ⟨e, n⟩ c).lane f = s.lane f := by
  simp [lane, setAcknowledgement, hasReceipt, Std.ExtTreeMap.getElem?_insert, h]

end Other

end ChannelStore

end Crosschain
