import Crosschain.Channel.Event
import Crosschain.Text.Alphanumeric

/-!
# Applications

An application is bound to a port and is told of what happens on its channels. Its reply to a call
depends on all it was told before: lines for the log, a refusal, the version it opens a channel
with, and the acknowledgement of a packet. A refusal of one of the two calls that cannot fail, a
restored end and a received packet, does not count.

An application is also handed what was gathered for the caller so far, and could add events to it
or drop some. Here it only adds lines to the log, so the events of an action are those that the
channel layer itself emits.
-/

namespace Crosschain

/-! ### Names of applications -/

/-- The name an application is registered under. -/
structure ModuleId where
  text : String
  deriving DecidableEq, Repr

namespace ModuleId

instance : Ord ModuleId := ⟨compareOn ModuleId.text⟩

instance : Std.TransOrd ModuleId := inferInstanceAs (Std.TransCmp (compareOn ModuleId.text))

instance : Std.LawfulEqOrd ModuleId where
  eq_of_compare {a b} h := by
    cases a; cases b
    exact congrArg _ (Map.eq_of_compareOn h)

def allows (s : String) : Bool := !Text.allBlank s && s.toList.all Text.isAlphanumeric

end ModuleId

/-! ### Calls -/

/-- What an application is told. -/
inductive Call
  | openInit (owner : EndId) (proposal : ChannelEnd)
  | openTry (owner : EndId) (proposal : ChannelEnd) (peerVersion : ChannelVersion)
  | openAck (owner : EndId) (peerVersion : ChannelVersion)
  | openConfirm (owner : EndId)
  | closeInit (owner : EndId)
  | upgradeTry (owner : EndId) (fields : UpgradeFields)
  | upgradeAck (owner : EndId) (peerVersion : ChannelVersion)
  | upgradeOpen (owner : EndId)
  | upgradeRestore (owner : EndId)
  | receive (packet : Packet)
  | acknowledge (packet : Packet) (ack : Acknowledgement)
  | timeout (packet : Packet)
  deriving DecidableEq, Repr

namespace Call

def name : Call → String
  | .openInit _ _ => "on_chan_open_init"
  | .openTry _ _ _ => "on_chan_open_try"
  | .openAck _ _ => "on_chan_open_ack"
  | .openConfirm _ => "on_chan_open_confirm"
  | .closeInit _ => "on_chan_close_init"
  | .upgradeTry _ _ => "on_chan_upgrade_try"
  | .upgradeAck _ _ => "on_chan_upgrade_ack"
  | .upgradeOpen _ => "on_chan_upgrade_open"
  | .upgradeRestore _ => "on_chan_upgrade_restore"
  | .receive _ => "on_recv_packet"
  | .acknowledge _ _ => "on_acknowledgement_packet"
  | .timeout _ => "on_timeout_packet"

/-- Whether a refusal of the call counts. -/
def mayFail : Call → Bool
  | .upgradeRestore _ | .receive _ => false
  | _ => true

def received? : Call → Option Packet
  | .receive p => some p
  | _ => none

def acknowledged? : Call → Option (Packet × Acknowledgement)
  | .acknowledge p ack => some (p, ack)
  | _ => none

def timedOut? : Call → Option Packet
  | .timeout p => some p
  | _ => none

def peerVersion : Call → ChannelVersion
  | .openTry _ _ v | .openAck _ v | .upgradeAck _ v => v
  | _ => ""

end Call

/-! ### Replies -/

/-- What an application has to say to a call. The events gathered for the caller are left alone. -/
structure Reply where
  log : List String
  refusal : Option ChannelError
  version : ChannelVersion
  acknowledgement : Acknowledgement
  deriving DecidableEq, Repr

/-- How an application replies to a call, given the calls before it. -/
abbrev Policy := List Call → Call → Reply

/-- An application: the calls so far, and how it replies. -/
structure Application where
  history : List Call
  policy : Policy

namespace Application

def ofPolicy (p : Policy) : Application := ⟨[], p⟩

def after (a : Application) (c : Call) : Application := { a with history := a.history ++ [c] }

/-- The reply to a call; a refusal that does not count is dropped. -/
def reply (a : Application) (c : Call) : Reply :=
  let r := a.policy a.history c
  if c.mayFail then r else { r with refusal := none }

def callNames (a : Application) : List String := a.history.map Call.name

def received (a : Application) : List Packet := a.history.filterMap Call.received?

def acknowledged (a : Application) : List (Packet × Acknowledgement) :=
  a.history.filterMap Call.acknowledged?

def timedOut (a : Application) : List Packet := a.history.filterMap Call.timedOut?

end Application

namespace Policy

/-- Accepts everything, takes over versions, and acknowledges nothing. -/
def silent : Policy := fun _ c => ⟨[], none, c.peerVersion, []⟩

def upgradeRefusal (c : Call) : Option ChannelError :=
  match c with
  | .upgradeTry _ fields => some (.application ("upgrade to " ++ fields.text ++ " refused"))
  | _ => none

/-- Accepts everything, perhaps but for upgrades, logs each call, and acknowledges every packet with
the same bytes. -/
def recording (ack : Acknowledgement) (rejectsUpgrades : Bool) : Policy := fun _ c =>
  ⟨["dummy module: " ++ c.name], if rejectsUpgrades then upgradeRefusal c else none, c.peerVersion,
    ack⟩

/-- The version a channel is opened with: a given one, or the one the other end brings. -/
def chosenVersion (version : Option ChannelVersion) (c : Call) : ChannelVersion :=
  version.getD c.peerVersion

/-- Replies as another policy does, but refuses the calls with the given names, says nothing to the
closing of an end, and may open channels with a version of its own. -/
def picky (inner : Policy) (fail : List String) (version : Option ChannelVersion) : Policy :=
  fun history c =>
    match c with
    | .closeInit _ => silent history c
    | c =>
      let r := inner history c
      let refusal := r.refusal.or
        (if fail.contains c.name then some (.application (c.name ++ " refused")) else none)
      { r with refusal, version := chosenVersion version c }

end Policy

end Crosschain
