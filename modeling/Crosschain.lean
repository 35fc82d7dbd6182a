import Crosschain.Code
import Crosschain.Digest.Sha256
import Crosschain.Document
import Crosschain.Proofs.Encodings
import Crosschain.Proofs.Committed
import Crosschain.Proofs.Attempts
import Crosschain.Proofs.Spared
import Crosschain.Proofs.Moments
import Crosschain.Proofs.Lane
import Crosschain.Proofs.LaneStep
import Crosschain.Proofs.HandshakeSteps
import Crosschain.Proofs.UpgradeSteps
import Crosschain.Proofs.PacketSteps
import Crosschain.Proofs.ChainSteps
import Crosschain.Proofs.Blocks
import Crosschain.Proofs.Runs
import Crosschain.Proofs.Sightings
import Crosschain.Proofs.Plays
import Crosschain.Proofs.Sites
import Crosschain.Proofs.Passage
import Crosschain.Proofs.Courses
import Crosschain.Proofs.EndSteps
import Crosschain.Proofs.Pairing
import Crosschain.Proofs.PacketTrail
import Crosschain.Proofs.Histories
import Crosschain.Proofs.Refusals
import Crosschain.Proofs.Reachability
import Crosschain.Proofs.Tellings
import Crosschain.Proofs.OrderedDelivery
import Crosschain.Proofs.TimeoutExclusion
import Crosschain.Proofs.Rounds
import Crosschain.Proofs.Agreement
import Crosschain.Proofs.Partners
import Crosschain.Proofs.AtMostOnce
import Crosschain.Proofs.Counters
import Crosschain.Proofs.CommitmentBinding
import Crosschain.Proofs.Relaying
import Crosschain.Proofs.UpgradeAcceptance
import Crosschain.Proofs.Completion
import Crosschain.Proofs.Crossing
import Crosschain.Proofs.Abandonment
import Crosschain.Proofs.UpgradeRecords
import Crosschain.Proofs.EarlyAnswer
import Crosschain.Proofs.AcknowledgementTrail
import Crosschain.Proofs.Ownership
import Crosschain.Proofs.Creation
import Crosschain.Proofs.Closing
import Crosschain.Proofs.Opening
import Crosschain.Proofs.OriginalEnds
import Crosschain.Proofs.PacketAcceptance
import Crosschain.Proofs.RoundTrip
import Crosschain.Proofs.UpgradeEffects
import Crosschain.Proofs.UpgradeCourses
import Crosschain.Proofs.Flushing
import Crosschain.Proofs.UpgradeSequences
import Crosschain.Proofs.SendWindow
import Crosschain.Proofs.Locality
import Crosschain.Proofs.NonInterference
import Crosschain.Proofs.Limits
import Crosschain.Proofs.Overflow
import Crosschain.Proofs.Permanence
import Crosschain.Proofs.AnsweredPackets
import Crosschain.Proofs.StoredUpgrades
import Crosschain.Proofs.Associations
import Crosschain.Proofs.SnapshotProofs
import Crosschain.Proofs.FaithfulSnapshots
import Crosschain.Proofs.InstantTexts
import Crosschain.Proofs.CanonicalBytes
import Crosschain.Proofs.UnorderedReceives
import Crosschain.Proofs.StoringEnds
import Crosschain.Proofs.ShownPackets
import Crosschain.Proofs.HandleLifetimes
import Crosschain.Proofs.TimeoutRefusals
import Crosschain.Proofs.TimeoutAgreement
import Crosschain.Proofs.InFlight
import Crosschain.Proofs.NanosecondCounts
import Crosschain.Proofs.BlockWindow
import Crosschain.Proofs.HeardHeaders
import Crosschain.Proofs.DecimalTexts
import Crosschain.Proofs.OrderNames
