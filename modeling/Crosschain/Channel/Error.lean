import Crosschain.Capability
import Crosschain.Channel.State
import Crosschain.Client
import Crosschain.Connection
import Crosschain.Evidence
import Crosschain.Timeout

/-!
# Errors of the channel layer

Why the channel layer refuses a message, a packet or an upgrade. Each cause belongs to a coarse
class, which tells a relayer whether to fetch a fresher proof, to wait, or to give up.
-/

namespace Crosschain

/-- Why the channel layer refuses. -/
inductive ChannelError
  | client (cause : ClientError)
  | connection (cause : ConnectionError)
  | port (cause : PortError)
  | identifier (cause : Identifier.Error)
  | unknownOrder (text : String)
  | hopCount (expected actual : Nat)
  | wrongPeer (peer : EndId)
  | badEvidence (cause : EvidenceError)
  | peerChannelUnknown
  | zeroSequence
  | emptyData
  | noTimeout
  | connectionNotOpen (id : ConnectionId)
  | orderUnsupported
  | noChannel (owner : EndId)
  | wrongState (channel : ChannelId) (state : ChannelState)
  | channelClosed (channel : ChannelId)
  | wrongCapability (owner : EndId) (cause : PortError)
  | frozenClient (id : ClientId)
  | channelProof (cause : ClientError)
  | packetProof (sequence : Sequence) (cause : ClientError)
  | upgradeProof (cause : ClientError)
  | receiptProof (cause : ClientError)
  | emptyAcknowledgement
  | acknowledgementExists (sequence : Sequence)
  | noNextSend (owner : EndId)
  | noNextRecv (owner : EndId)
  | noNextAck (owner : EndId)
  | badSequence (text : String) (cause : Word.DecimalError)
  | sequenceMismatch (given next : Sequence)
  | heightTooLow (chain timeout : Height)
  | timeTooLow
  | timeoutHeightPassed (timeout latest : Height)
  | timeoutTimePassed (timeout latest : Timestamp)
  | timeoutNotReached (timeout : TimeoutHeight) (chain : Height) (time chainTime : Timestamp)
  | noCommitment (sequence : Sequence)
  | noReceipt (sequence : Sequence)
  | noAcknowledgement (sequence : Sequence)
  | wrongCommitment (sequence : Sequence)
  | noUpgrade (owner : EndId)
  | noErrorReceipt (owner : EndId)
  | fieldsUnchanged
  | upgradeTimeoutUnset
  | upgradeTimeoutElapsed
  | upgradeTimeoutNotReached
  | upgradeSequence (given expected : Sequence)
  | hopMismatch (expected actual : ConnectionId)
  | peerUpgradeCompleted
  | incompatibleUpgrade
  | noPeerUpgrade (owner : EndId)
  | packetsInFlight (channel : ChannelId)
  | orderChangePending (channel : ChannelId)
  | timestampOverflow (cause : Timestamp.Overflow)
  | application (text : String)
  | unspecified
  deriving DecidableEq, Repr

namespace ChannelError

/-- An end as errors show it. -/
def pairText (e : EndId) : String := "(" ++ e.port.text ++ ", " ++ e.channel.text ++ ")"

/-- A port and a channel as errors about counters show them. -/
def onText (e : EndId) : String := "on port " ++ e.port.text ++ " and channel " ++ e.channel.text

instance : Explains ChannelError where
  lines
    | .client e => "ics02 client error" :: Explains.lines e
    | .connection e => "ics03 connection error" :: Explains.lines e
    | .port e => "ics05 port error" :: Explains.lines e
    | .identifier e => "identifier error" :: Explains.lines e
    | .unknownOrder s => ["channel order type unknown: " ++ s]
    | .hopCount expected actual =>
      ["invalid connection hops length: expected " ++ expected.repr ++ "; actual " ++ actual.repr]
    | .wrongPeer e =>
      ["packet destination port " ++ e.port.text ++ " and channel " ++ e.channel.text
        ++ " doesn't match the counterparty's port/channel"]
    | .badEvidence e => "invalid proof" :: Explains.lines e
    | .peerChannelUnknown => ["the counterparty channel id is not known yet"]
    | .zeroSequence => ["packet sequence cannot be 0"]
    | .emptyData => ["packet data bytes cannot be empty"]
    | .noTimeout => ["packet timeout height and packet timeout timestamp cannot both be 0"]
    | .connectionNotOpen id => ["the associated connection " ++ id.text ++ " is not OPEN"]
    | .orderUnsupported => ["the channel ordering is not supported by connection"]
    | .noChannel e => ["the channel end " ++ pairText e ++ " does not exist"]
    | .wrongState c s => ["Channel " ++ c.text ++ " should not be state " ++ s.text]
    | .channelClosed c => ["Channel " ++ c.text ++ " is Closed"]
    | .wrongCapability e cause =>
      ("the capability presented is not the one owning channel " ++ pairText e)
        :: Explains.lines cause
    | .frozenClient id => ["Client with id " ++ id.text ++ " is frozen"]
    | .channelProof e => "Error verifying channel state" :: Explains.lines e
    | .packetProof s e =>
      ("Verification fails for the packet with the sequence number " ++ Word.text s)
        :: Explains.lines e
    | .upgradeProof e => "Error verifying the counterparty upgrade" :: Explains.lines e
    | .receiptProof e => "Error verifying the counterparty upgrade error receipt" :: Explains.lines e
    | .emptyAcknowledgement => ["Acknowledgment cannot be empty"]
    | .acknowledgementExists s =>
      ["Packet acknowledgement exists for the packet with the sequence " ++ Word.text s]
    | .noNextSend e => ["Missing sequence number for sending packets " ++ onText e]
    | .noNextRecv e => ["Missing sequence number for receiving packets " ++ onText e]
    | .noNextAck e => ["Missing sequence number for ack packets " ++ onText e]
    | .badSequence s e =>
      ("String " ++ s ++ " cannot be converted to packet sequence") :: Explains.lines e
    | .sequenceMismatch given next =>
      ["Invalid packet sequence " ++ Word.text given ++ " ≠ next sequence " ++ Word.text next]
    | .heightTooLow chain timeout =>
      ["Receiving chain block height " ++ chain.text ++ " >= packet timeout height " ++ timeout.text]
    | .timeTooLow => ["Receiving chain block timestamp >= packet timeout timestamp"]
    | .timeoutHeightPassed timeout latest =>
      ["Packet timeout height " ++ timeout.text
        ++ " is already reached by the counterparty at height " ++ latest.text]
    | .timeoutTimePassed timeout latest =>
      ["Packet timeout timestamp " ++ timeout.text
        ++ " is already reached by the counterparty at " ++ latest.text]
    | .timeoutNotReached timeout chain time chainTime =>
      ["Packet timeout (height " ++ timeout.text ++ ", timestamp " ++ time.text
        ++ ") not reached by the counterparty at height " ++ chain.text ++ " and timestamp "
        ++ chainTime.text]
    | .noCommitment s => ["Commitment for the packet " ++ Word.text s ++ " not found"]
    | .noReceipt s => ["Receipt for the packet " ++ Word.text s ++ " not found"]
    | .noAcknowledgement s => ["Acknowledgement for the packet " ++ Word.text s ++ " not found"]
    | .wrongCommitment s =>
      ["The stored commitment of the packet " ++ Word.text s ++ " is incorrect"]
    | .noUpgrade e => ["no upgrade is in progress for the channel end " ++ pairText e]
    | .noErrorReceipt e => ["no upgrade error receipt exists for the channel end " ++ pairText e]
    | .fieldsUnchanged =>
      ["the proposed upgrade fields are identical to the current channel fields"]
    | .upgradeTimeoutUnset => ["an upgrade timeout height or timestamp must be set"]
    | .upgradeTimeoutElapsed => ["the upgrade timeout has already elapsed"]
    | .upgradeTimeoutNotReached =>
      ["the upgrade timeout has not been reached by the counterparty"]
    | .upgradeSequence given expected =>
      ["upgrade sequence " ++ Word.text given ++ " is invalid, expected at least "
        ++ Word.text expected]
    | .hopMismatch expected actual =>
      ["the proposed connection hop " ++ actual.text
        ++ " does not match the counterparty's hop " ++ expected.text]
    | .peerUpgradeCompleted => ["the counterparty has already completed the upgrade"]
    | .incompatibleUpgrade =>
      ["the counterparty proposed upgrade fields incompatible with the local proposal"]
    | .noPeerUpgrade e => ["no counterparty upgrade is recorded for the channel end " ++ pairText e]
    | .packetsInFlight c =>
      ["channel " ++ c.text ++ " still has packets in flight and cannot change its ordering"]
    | .orderChangePending c =>
      ["packet flow on channel " ++ c.text ++ " is paused until its upgrade changes the ordering"]
    | .timestampOverflow e =>
      "timestamp overflowed while computing the upgrade timeout" :: Explains.lines e
    | .application s => ["application module error: " ++ s]
    | .unspecified => ["implementation specific error"]

/-! ### Classes -/

/-- What a relayer may make of an error. -/
inductive Class
  | notFound
  | invalidState
  | invalidProof
  | unauthorized
  | timeoutNotReached
  | channelFault
  | invalidArgument
  | other
  deriving DecidableEq, Repr

def classOf : ChannelError → Class
  | .noChannel _ | .noNextSend _ | .noNextRecv _ | .noNextAck _ | .noCommitment _ | .noReceipt _
  | .noAcknowledgement _ | .noUpgrade _ | .noErrorReceipt _ | .noPeerUpgrade _ => .notFound
  | .connection (.notFound _) => .notFound
  | .connection _ => .invalidState
  | .client (.notFound _) | .client (.noConsensus _ _) => .notFound
  | .client _ => .other
  | .wrongState _ _ | .connectionNotOpen _ | .frozenClient _ | .sequenceMismatch _ _
  | .acknowledgementExists _ | .heightTooLow _ _ | .timeTooLow | .timeoutHeightPassed _ _
  | .timeoutTimePassed _ _ | .upgradeTimeoutElapsed | .upgradeSequence _ _ | .peerUpgradeCompleted
  | .incompatibleUpgrade | .packetsInFlight _ | .orderChangePending _ | .peerChannelUnknown =>
    .invalidState
  | .badEvidence _ | .channelProof _ | .packetProof _ _ | .upgradeProof _ | .receiptProof _ =>
    .invalidProof
  | .wrongCapability _ _ | .port _ => .unauthorized
  | .timeoutNotReached _ _ _ _ | .upgradeTimeoutNotReached => .timeoutNotReached
  | .channelClosed _ => .channelFault
  | .identifier _ | .unknownOrder _ | .hopCount _ _ | .wrongPeer _ | .zeroSequence | .emptyData
  | .noTimeout | .orderUnsupported | .emptyAcknowledgement | .badSequence _ _ | .wrongCommitment _
  | .fieldsUnchanged | .upgradeTimeoutUnset | .hopMismatch _ _ => .invalidArgument
  | .timestampOverflow _ | .application _ | .unspecified => .other

end ChannelError

/-! ### Attempts -/

/-- What the channel layer makes of something: a value, a refusal, or a number that does not fit. -/
abbrev Attempt (α : Type) : Type := Except (Fault ChannelError) α

namespace Order

def ofText (s : String) : Except ChannelError Order :=
  match ofText? s with
  | some o => .ok o
  | none => .error (.unknownOrder s)

end Order

namespace Sequence

def ofText (s : String) : Except ChannelError Sequence :=
  (Word.ofText s).mapError (.badSequence s)

end Sequence

end Crosschain
