import Crosschain.Chain.Basic
import Crosschain.Channel.Handshake
import Crosschain.Channel.Transfer

/-!
# Routing of messages

A relayed message is one transition of a chain: the channel layer checks it, the application bound
to the port is told, and when neither refuses the result is stored. What an application owns it can
also call for: to send a packet, to acknowledge one, to upgrade and to close a channel.
-/

namespace Crosschain

/-- Why a message is not taken. -/
inductive RoutingError
  | channel (cause : ChannelError)
  | port (cause : PortError)
  | noRoute (id : ModuleId)
  | badModuleId (text : String)
  deriving DecidableEq, Repr

instance : Explains RoutingError where
  lines
    | .channel e => "ICS04 channel error" :: Explains.lines e
    | .port e => "ICS05 port error" :: Explains.lines e
    | .noRoute id => ["no module is registered under the route " ++ id.text]
    | .badModuleId s => ["invalid module identifier '" ++ s ++ "'"]

/-- The name a text spells, if it keeps the rules for names of applications. -/
def ModuleId.ofText (s : String) : Except RoutingError ModuleId :=
  if allows s then .ok ⟨s⟩ else .error (.badModuleId s)

/-- How a message changed a chain; one that came before changes nothing. -/
inductive Outcome
  | applied
  | alreadyApplied
  | aborted
  deriving DecidableEq, Repr

namespace Outcome

def name : Outcome → String
  | .applied => "Applied"
  | .alreadyApplied => "AlreadyApplied"
  | .aborted => "Aborted"

end Outcome

structure DeliveryReceipt where
  outcome : Outcome
  events : List Event
  log : List String
  capability : Option Capability

namespace Chain

/-- Routing ends with a result or a fault, and in either case with a chain. -/
abbrev Routed (α : Type) : Type := Except (Fault RoutingError) α × Chain

def appOf (c : Chain) (port : PortId) : Except RoutingError (ModuleId × Application) := do
  let id ← (c.boundTo port).mapError .port
  match c.apps[id]? with
  | some a => .ok (id, a)
  | none => .error (.noRoute id)

def tell (c : Chain) (id : ModuleId) (a : Application) (call : Call) : Chain :=
  { c with apps := c.apps.insert id (a.after call) }

/-! ### Opening -/

def handshakeCall (m : HandshakeMessage) (owner : EndId) : Call :=
  match m with
  | .openInit m => .openInit owner m.proposal
  | .openTry m => .openTry owner m.proposal m.peerVersion
  | .openAck m => .openAck owner m.peerVersion
  | .openConfirm _ => .openConfirm owner

/-- The end as it is stored: an answering end has the version that the application chose. -/
def settleVersion (m : HandshakeMessage) (change : EndChange) (version : ChannelVersion) :
    EndChange :=
  match m with
  | .openTry _ => { change with value := { change.value with version } }
  | _ => change

variable [Digest]

def deliverHandshake (c : Chain) (m : HandshakeMessage) : Routed DeliveryReceipt :=
  match c.appOf m.port with
  | .error e => (.error (.refused e), c)
  | .ok (id, app) =>
    match Handshake.step c.host m with
    | .error f => (.error (f.map .channel), c)
    | .ok out =>
      let call := handshakeCall m out.result.owner
      let reply := app.reply call
      -- The application remembers the call even if it refuses.
      let c := c.tell id app call
      match reply.refusal with
      | some e => (.error (.refused (.channel e)), c)
      | none =>
        let (stored, s) := c.host.store.applyEnd (settleVersion m out.result reply.version)
        let c := c.withStore s
        match stored with
        | .error f => (.error (f.map .channel), c)
        | .ok capability =>
          (.ok ⟨.applied, out.events, out.log ++ reply.log, capability⟩, c)

/-! ### Upgrades -/

/-- What the application is told of a step of an upgrade, if anything. -/
def upgradeCall? (m : UpgradeMessage) (change : UpgradeChange) : Option Call :=
  match change.step with
  | .cancelled | .aborted _ | .timedOut _ => some (.upgradeRestore change.owner)
  | .answered own _ => some (.upgradeTry change.owner own.fields)
  | .acknowledged _ =>
    match m with
    | .ack m => some (.upgradeAck change.owner m.peerUpgrade.fields.version)
    | _ => none
  | .completed _ => some (.upgradeOpen change.owner)
  | .proposed _ => none

def upgradeOutcome : UpgradeStep → Outcome
  | .aborted _ => .aborted
  | _ => .applied

def deliverUpgrade (c : Chain) (m : UpgradeMessage) : Routed DeliveryReceipt :=
  match c.appOf m.owner.port with
  | .error e => (.error (.refused e), c)
  | .ok (id, app) =>
    match Upgrading.step c.host m with
    | .error f => (.error (f.map .channel), c)
    | .ok out =>
      let finish (c : Chain) (log : List String) : Routed DeliveryReceipt :=
        (.ok ⟨upgradeOutcome out.result.step, out.events, out.log ++ log, none⟩,
          c.mapStore fun s => s.applyUpgrade out.result)
      match upgradeCall? m out.result with
      | none => finish c []
      | some call =>
        let reply := app.reply call
        let c := c.tell id app call
        match reply.refusal with
        | some e => (.error (.refused (.channel e)), c)
        | none => finish c reply.log

/-! ### Packets -/

def packetCall : PacketMessage → Call
  | .receive m => .receive m.packet
  | .acknowledge m => .acknowledge m.packet m.ack
  | .timeout m => .timeout m.packet

/-- The acknowledgement that is written at once: the reply to a received packet, unless it is
empty. -/
def promptAck (m : PacketMessage) (reply : Reply) : Option Acknowledgement :=
  match m with
  | .receive _ => if reply.acknowledgement.isEmpty then none else some reply.acknowledgement
  | _ => none

def deliverPacket (c : Chain) (m : PacketMessage) : Routed DeliveryReceipt :=
  match c.appOf m.owner.port with
  | .error e => (.error (.refused e), c)
  | .ok (id, app) =>
    -- The chain acts for the application that owns the end.
    match c.capabilityOf m.owner with
    | .error e => (.error (.refused (.port e)), c)
    | .ok cap =>
      match Transfer.step c.host cap m with
      | .error f => (.error (f.map .channel), c)
      | .ok out =>
        match out.result.noOp? with
        | some _ => (.ok ⟨.alreadyApplied, out.events, out.log, none⟩, c)
        | none =>
          let call := packetCall m
          let reply := app.reply call
          let c := c.tell id app call
          match reply.refusal with
          | some e => (.error (.refused (.channel e)), c)
          | none =>
            let told := out.append reply.log []
            match promptAck m reply with
            | none =>
              (.ok ⟨.applied, told.events, told.log, none⟩,
                c.mapStore fun s => s.applyPacket out.result)
            | some ack =>
              -- Checked before the receive is stored, so that both are written or none.
              match Transfer.writeAcknowledgement c.host cap m.packet ack with
              | .error f => (.error (f.map .channel), c)
              | .ok written =>
                let all := told.append written.log written.events
                (.ok ⟨.applied, all.events, all.log, none⟩,
                  c.mapStore fun s => (s.applyPacket out.result).applyPacket written.result)

/-! ### Any message -/

def deliver (c : Chain) : Datagram → Routed DeliveryReceipt
  | .handshake m => c.deliverHandshake m
  | .upgrade m => c.deliverUpgrade m
  | .packet m => c.deliverPacket m

/-! ### Calls of applications -/

def send (c : Chain) (cap : Capability) (m : OutgoingPacket) :
    Attempt (Output Sequence) × Chain :=
  match Transfer.send c.host cap m with
  | .error f => (.error f, c)
  | .ok out =>
    let c := c.mapStore fun s => s.applyPacket out.result
    match c.host.store.nextSendOf m.source with
    | .error e => (.error (.refused e), c)
    | .ok next => (.ok (out.map fun _ => Word.pred next), c)

/-- Writes the acknowledgement of a packet received before; a second time nothing happens. -/
def writeAcknowledgement (c : Chain) (cap : Capability) (p : Packet) (ack : Acknowledgement) :
    Attempt (Output Outcome) × Chain :=
  match Transfer.writeAcknowledgement c.host cap p ack with
  | .error f => (.error f, c)
  | .ok out =>
    (.ok (out.map fun r => if r.noOp?.isSome then .alreadyApplied else .applied),
      c.mapStore fun s => s.applyPacket out.result)

def proposeUpgrade (c : Chain) (cap : Capability) (m : UpgradeInit) :
    Attempt (Output Sequence) × Chain :=
  match Upgrading.propose c.host cap m with
  | .error f => (.error f, c)
  | .ok out =>
    (.ok (out.map fun r => r.value.upgradeSequence),
      c.mapStore fun s => s.applyUpgrade out.result)

def close (c : Chain) (cap : Capability) (m : CloseInit) : Attempt (Output Unit) × Chain :=
  match Handshake.closeInit c.host cap m with
  | .error f => (.error f, c)
  | .ok out =>
    let (stored, s) := c.host.store.applyEnd out.result
    (stored.map fun _ => out.map fun _ => (), c.withStore s)

end Chain

end Crosschain
