import Crosschain.Json.Shape

/-!
# States of a channel end

An end goes from `init` or `tryOpen` to `opened`, and `closed` is final. An open end may renegotiate
its fields through the three states of an upgrade, in which it keeps its fields and packets go on
under them.
-/

namespace Crosschain

inductive ChannelState
  | uninitialized
  /-- The end has been proposed on its own chain. -/
  | init
  /-- The end answers a proposal of the other chain. -/
  | tryOpen
  /-- Both ends agreed. -/
  | opened
  | closed
  /-- The end proposed an upgrade. -/
  | initUpgrade
  /-- The end answered an upgrade that the other end proposed. -/
  | tryUpgrade
  /-- The end saw that the other end agreed to its upgrade. -/
  | ackUpgrade
  deriving DecidableEq, Repr, Inhabited

namespace ChannelState

def text : ChannelState → String
  | .uninitialized => "UNINITIALIZED"
  | .init => "INIT"
  | .tryOpen => "TRYOPEN"
  | .opened => "OPEN"
  | .closed => "CLOSED"
  | .initUpgrade => "INITUPGRADE"
  | .tryUpgrade => "TRYUPGRADE"
  | .ackUpgrade => "ACKUPGRADE"

def name : ChannelState → String
  | .uninitialized => "Uninitialized"
  | .init => "Init"
  | .tryOpen => "TryOpen"
  | .opened => "Open"
  | .closed => "Closed"
  | .initUpgrade => "InitUpgrade"
  | .tryUpgrade => "TryUpgrade"
  | .ackUpgrade => "AckUpgrade"

def all : List ChannelState :=
  [.uninitialized, .init, .tryOpen, .opened, .closed, .initUpgrade, .tryUpgrade, .ackUpgrade]

/-- Whether both ends agreed and no upgrade is on its way. -/
def isOpen (s : ChannelState) : Bool := s = .opened

/-- Whether an upgrade is on its way. -/
def isUpgrading : ChannelState → Bool
  | .initUpgrade | .tryUpgrade | .ackUpgrade => true
  | .uninitialized | .init | .tryOpen | .opened | .closed => false

/-- Whether packets go over an end in this state. -/
def allowsPackets (s : ChannelState) : Bool := s.isOpen || s.isUpgrading

/-- How far the opening handshake has come. -/
def rank : ChannelState → Nat
  | .uninitialized => 0
  | .init => 1
  | .tryOpen => 2
  | .opened | .initUpgrade | .tryUpgrade | .ackUpgrade => 3
  | .closed => 4

/-- Whether the opening handshake has come no further than in the other state. -/
def noFurtherThan (s t : ChannelState) : Bool := s.rank ≤ t.rank

def toJson (s : ChannelState) : Json := .str s.name

def ofName? (s : String) : Option ChannelState := (all.map fun x => (x.name, x)).lookup s

def ofJson? : Json → Option ChannelState := Json.asNamed? (all.map fun s => (s.name, s))

theorem ofName?_name (s : ChannelState) : ofName? s.name = some s := by
  cases s <;> decide

end ChannelState

end Crosschain
