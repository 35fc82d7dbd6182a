import Crosschain.Chain.Routing

/-!
# Codes of errors

A report is for people; programs tell causes apart by a code. The code of a cause is its name, and
if it wraps a cause of another layer, the code of that cause behind a dot. In front stands the
family of the layer, which is the number of its standard where there is one.
-/

namespace Crosschain

/-- The codes of an error type: its family, and the name of each cause. -/
class Coded (ε : Type) where
  family : String
  name : ε → String

namespace Coded

/-- The code of a cause behind the code of the one that wraps it. -/
def wrapped {ε : Type} [Coded ε] (outer : String) (e : ε) : String := outer ++ "." ++ name e

/-- The whole code of a cause, with its family in front. -/
def code {ε : Type} [Coded ε] (e : ε) : String := wrapped (family ε) e

end Coded

open Coded

/-! ### Values -/

instance : Coded Height.Error where
  family := "Ics02"
  name
    | .zero => "InvalidHeight"
    | .notPositive => "InvalidHeightResult"

instance : Coded Height.ParseError where
  family := "Height"
  name
    | .badWord _ _ => "HeightConversion"
    | .zero => "ZeroHeight"
    | .badForm _ => "InvalidFormat"

instance : Coded Timestamp.Overflow where
  family := "Timestamp"
  name
    | .outOfRange => "TimestampOverflow"

instance : Coded Timestamp.ParseError where
  family := "ParseTimestamp"
  name
    | .badWord _ => "ParseInt"

instance : Coded Params.LoadError where
  family := "Config"
  name
    | .unreadable => "Io"
    | .malformed => "Decode"

instance : Coded Identifier.Error where
  family := "Validation"
  name
    | .separator _ => "ContainSeparator"
    | .badLength _ _ _ _ => "InvalidLength"
    | .badCharacter _ => "InvalidCharacter"
    | .empty => "Empty"

/-! ### The layers below channels -/

instance : Coded PortError where
  family := "Ics05"
  name
    | .unknownPort _ => "UnknownPort"
    | .alreadyBound _ => "PortAlreadyBound"
    | .notRegistered _ => "CapabilityNotFound"
    | .alreadyTaken _ => "CapabilityAlreadyTaken"
    | .notAuthentic _ => "Unauthenticated"
    | .blankName => "InvalidCapabilityName"

instance : Coded CommitmentError where
  family := "Ics23"
  name
    | .emptyPrefix => "EmptyCommitmentPrefix"
    | .emptyProof => "EmptyMerkleProof"

instance : Coded EvidenceError where
  family := "Proof"
  name
    | .zeroHeight => "ZeroHeight"
    | .emptyProof => "EmptyProof"

instance : Coded ClientError where
  family := "Ics02"
  name
    | .notFound _ => "ClientNotFound"
    | .noConsensus _ _ => "ConsensusStateNotFound"
    | .frozen _ => "ClientFrozen"
    | .badHeight e => name e
    | .badProof => "InvalidProofEncoding"
    | .otherRoot => "RootMismatch"
    | .notCommitted _ => "MembershipVerificationFailed"
    | .committed _ => "NonMembershipVerificationFailed"

instance : Coded ConnectionError where
  family := "Ics03"
  name
    | .notFound _ => "ConnectionNotFound"
    | .noCounterparty => "MissingCounterpartyConnectionId"
    | .noCommonVersion => "NoCommonVersion"

/-! ### Channels and routing -/

instance : Coded ChannelError where
  family := "Ics04"
  name
    | .client e => wrapped "Ics02Client" e
    | .connection e => wrapped "Ics03Connection" e
    | .port e => wrapped "Ics05Port" e
    | .identifier e => wrapped "Identifier" e
    | .unknownOrder _ => "UnknownOrderType"
    | .hopCount _ _ => "InvalidConnectionHopsLength"
    | .wrongPeer _ => "InvalidPacketCounterparty"
    | .badEvidence e => wrapped "InvalidProof" e
    | .peerChannelUnknown => "MissingCounterpartyChannelId"
    | .zeroSequence => "ZeroPacketSequence"
    | .emptyData => "ZeroPacketData"
    | .noTimeout => "MissingTimeout"
    | .connectionNotOpen _ => "ConnectionNotOpen"
    | .orderUnsupported => "ChannelFeatureNotSupportedByConnection"
    | .noChannel _ => "ChannelNotFound"
    | .wrongState _ _ => "InvalidChannelState"
    | .channelClosed _ => "ChannelClosed"
    | .wrongCapability _ e => wrapped "InvalidChannelCapability" e
    | .frozenClient _ => "FrozenClient"
    | .channelProof e => wrapped "VerifyChannelFailed" e
    | .packetProof _ e => wrapped "PacketVerificationFailed" e
    | .upgradeProof e => wrapped "UpgradeVerificationFailed" e
    | .receiptProof e => wrapped "ErrorReceiptVerificationFailed" e
    | .emptyAcknowledgement => "InvalidAcknowledgement"
    | .acknowledgementExists _ => "AcknowledgementExists"
    | .noNextSend _ => "MissingNextSendSeq"
    | .noNextRecv _ => "MissingNextRecvSeq"
    | .noNextAck _ => "MissingNextAckSeq"
    | .badSequence _ _ => "InvalidStringAsSequence"
    | .sequenceMismatch _ _ => "InvalidPacketSequence"
    | .heightTooLow _ _ => "LowPacketHeight"
    | .timeTooLow => "LowPacketTimestamp"
    | .timeoutHeightPassed _ _ => "TimeoutHeightAlreadyReached"
    | .timeoutTimePassed _ _ => "TimeoutTimestampAlreadyReached"
    | .timeoutNotReached _ _ _ _ => "PacketTimeoutNotReached"
    | .noCommitment _ => "PacketCommitmentNotFound"
    | .noReceipt _ => "PacketReceiptNotFound"
    | .noAcknowledgement _ => "PacketAcknowledgementNotFound"
    | .wrongCommitment _ => "IncorrectPacketCommitment"
    | .noUpgrade _ => "UpgradeNotFound"
    | .noErrorReceipt _ => "UpgradeErrorReceiptNotFound"
    | .fieldsUnchanged => "UpgradeFieldsUnchanged"
    | .upgradeTimeoutUnset => "UpgradeTimeoutNotSet"
    | .upgradeTimeoutElapsed => "UpgradeTimeoutElapsed"
    | .upgradeTimeoutNotReached => "UpgradeTimeoutNotReached"
    | .upgradeSequence _ _ => "InvalidUpgradeSequence"
    | .hopMismatch _ _ => "ConnectionHopsMismatch"
    | .peerUpgradeCompleted => "CounterpartyUpgradeCompleted"
    | .incompatibleUpgrade => "IncompatibleUpgrade"
    | .noPeerUpgrade _ => "CounterpartyUpgradeNotFound"
    | .packetsInFlight _ => "PacketsInFlight"
    | .orderChangePending _ => "OrderingChangePending"
    | .timestampOverflow e => wrapped "TimestampOverflow" e
    | .application _ => "AppModule"
    | .unspecified => "ImplementationSpecific"

instance : Coded RoutingError where
  family := "Ics26"
  name
    | .channel e => wrapped "Ics04Channel" e
    | .port e => wrapped "Ics05Port" e
    | .noRoute _ => "RouteNotFound"
    | .badModuleId _ => "InvalidModuleId"

/-! ### Classes -/

def ChannelError.Class.name : ChannelError.Class → String
  | .notFound => "NotFound"
  | .invalidState => "InvalidState"
  | .invalidProof => "InvalidProof"
  | .unauthorized => "Unauthorized"
  | .timeoutNotReached => "TimeoutNotReached"
  | .channelFault => "ChannelFault"
  | .invalidArgument => "InvalidArgument"
  | .other => "Other"

end Crosschain
