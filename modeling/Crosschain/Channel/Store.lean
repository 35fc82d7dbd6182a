import Crosschain.Channel.Packet

/-!
# The store of the channel layer

All that the channel layer keeps on a chain: channel ends with their three sequence counters, the
commitments, receipts and acknowledgements of packets, upgrades on their way and the receipts of
failed ones, the count of channels created, and the registry of capabilities.
-/

namespace Crosschain

/-- What the channel layer keeps. -/
structure ChannelStore where
  ends : Map EndId ChannelEnd
  -- In the order of their creation.
  overConnection : Map ConnectionId (List EndId)
  nextSend : Map EndId Sequence
  nextRecv : Map EndId Sequence
  nextAck : Map EndId Sequence
  commitments : Map Slot Bytes
  receipts : Map Slot Unit
  acknowledgements : Map Slot Bytes
  upgrades : Map EndId Upgrade
  -- As they were proven.
  peerUpgrades : Map EndId Upgrade
  errorReceipts : Map EndId ErrorReceipt
  created : UInt64
  registry : Registry

namespace ChannelStore

def empty : ChannelStore := ⟨∅, ∅, ∅, ∅, ∅, ∅, ∅, ∅, ∅, ∅, ∅, 0, .empty⟩

/-! ### Reading -/

def endAt (s : ChannelStore) (e : EndId) : Except ChannelError ChannelEnd :=
  match s.ends[e]? with
  | some c => .ok c
  | none => .error (.noChannel e)

def nextSendOf (s : ChannelStore) (e : EndId) : Except ChannelError Sequence :=
  match s.nextSend[e]? with
  | some n => .ok n
  | none => .error (.noNextSend e)

def nextRecvOf (s : ChannelStore) (e : EndId) : Except ChannelError Sequence :=
  match s.nextRecv[e]? with
  | some n => .ok n
  | none => .error (.noNextRecv e)

/-- The sequence of the next packet to have its acknowledgement brought back. -/
def nextAckOf (s : ChannelStore) (e : EndId) : Except ChannelError Sequence :=
  match s.nextAck[e]? with
  | some n => .ok n
  | none => .error (.noNextAck e)

def commitmentAt (s : ChannelStore) (slot : Slot) : Except ChannelError Bytes :=
  match s.commitments[slot]? with
  | some c => .ok c
  | none => .error (.noCommitment slot.sequence)

def hasReceipt (s : ChannelStore) (slot : Slot) : Bool := s.receipts[slot]?.isSome

def receiptAt (s : ChannelStore) (slot : Slot) : Except ChannelError Unit :=
  if s.hasReceipt slot then .ok () else .error (.noReceipt slot.sequence)

def acknowledgementAt (s : ChannelStore) (slot : Slot) : Except ChannelError Bytes :=
  match s.acknowledgements[slot]? with
  | some c => .ok c
  | none => .error (.noAcknowledgement slot.sequence)

def upgradeOf (s : ChannelStore) (e : EndId) : Except ChannelError Upgrade :=
  match s.upgrades[e]? with
  | some u => .ok u
  | none => .error (.noUpgrade e)

def peerUpgradeOf (s : ChannelStore) (e : EndId) : Except ChannelError Upgrade :=
  match s.peerUpgrades[e]? with
  | some u => .ok u
  | none => .error (.noPeerUpgrade e)

def errorReceiptOf (s : ChannelStore) (e : EndId) : Except ChannelError ErrorReceipt :=
  match s.errorReceipts[e]? with
  | some r => .ok r
  | none => .error (.noErrorReceipt e)

def endsOver (s : ChannelStore) (c : ConnectionId) : List EndId := s.overConnection.getD c []

/-- Whether a packet sent still waits for its acknowledgement or its timeout. -/
def inFlight (s : ChannelStore) (e : EndId) : Except ChannelError Bool := do
  let next ← s.nextSendOf e
  -- The sequences given out so far start at 1.
  pure (s.commitments.toList.any fun c => c.1.owner = e ∧ 0 < c.1.sequence ∧ c.1.sequence < next)

def authenticate (s : ChannelStore) (e : EndId) (c : Capability) : Except ChannelError Unit :=
  (s.registry.authenticate (.ofEnd e) c).mapError (.wrongCapability e)

/-! ### Writing -/

def setEnd (s : ChannelStore) (e : EndId) (c : ChannelEnd) : ChannelStore :=
  { s with ends := s.ends.insert e c }

def setNextSend (s : ChannelStore) (e : EndId) (n : Sequence) : ChannelStore :=
  { s with nextSend := s.nextSend.insert e n }

def setNextRecv (s : ChannelStore) (e : EndId) (n : Sequence) : ChannelStore :=
  { s with nextRecv := s.nextRecv.insert e n }

def setNextAck (s : ChannelStore) (e : EndId) (n : Sequence) : ChannelStore :=
  { s with nextAck := s.nextAck.insert e n }

def setCommitment (s : ChannelStore) (slot : Slot) (c : Bytes) : ChannelStore :=
  { s with commitments := s.commitments.insert slot c }

def eraseCommitment (s : ChannelStore) (slot : Slot) : ChannelStore :=
  { s with commitments := s.commitments.erase slot }

def setReceipt (s : ChannelStore) (slot : Slot) : ChannelStore :=
  { s with receipts := s.receipts.insert slot () }

def setAcknowledgement (s : ChannelStore) (slot : Slot) (c : Bytes) : ChannelStore :=
  { s with acknowledgements := s.acknowledgements.insert slot c }

def setUpgrade (s : ChannelStore) (e : EndId) (u : Upgrade) : ChannelStore :=
  { s with upgrades := s.upgrades.insert e u }

def setPeerUpgrade (s : ChannelStore) (e : EndId) (u : Upgrade) : ChannelStore :=
  { s with peerUpgrades := s.peerUpgrades.insert e u }

def eraseUpgrade (s : ChannelStore) (e : EndId) : ChannelStore :=
  { s with upgrades := s.upgrades.erase e }

def erasePeerUpgrade (s : ChannelStore) (e : EndId) : ChannelStore :=
  { s with peerUpgrades := s.peerUpgrades.erase e }

def eraseUpgrades (s : ChannelStore) (e : EndId) : ChannelStore :=
  (s.eraseUpgrade e).erasePeerUpgrade e

def setErrorReceipt (s : ChannelStore) (e : EndId) (r : ErrorReceipt) : ChannelStore :=
  { s with errorReceipts := s.errorReceipts.insert e r }

def addOverConnection (s : ChannelStore) (c : ConnectionId) (e : EndId) : ChannelStore :=
  { s with overConnection := s.overConnection.insert c (s.endsOver c ++ [e]) }

/-- Sets the three counters of a new end to one. -/
def startCounters (s : ChannelStore) (e : EndId) : ChannelStore :=
  ((s.setNextSend e 1).setNextRecv e 1).setNextAck e 1

end ChannelStore

end Crosschain
