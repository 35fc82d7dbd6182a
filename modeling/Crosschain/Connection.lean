import Crosschain.Channel.Order
import Crosschain.Snapshot
import Crosschain.Time.Span

/-!
# Connections

Channels run over connections. A connection end names the client that checks the proofs of the
other chain, the other end of the connection, and the versions it was opened with; the features of
a version say which orderings a channel over it may have.
-/

namespace Crosschain

/-- What can go wrong with a connection. -/
inductive ConnectionError
  | notFound (id : ConnectionId)
  | noCounterparty
  | noCommonVersion
  deriving DecidableEq, Repr

instance : Explains ConnectionError where
  lines
    | .notFound id =>
      ["no connection was found for the previous connection id provided " ++ id.text]
    | .noCounterparty => ["missing counterparty connection id"]
    | .noCommonVersion => ["no common version"]

/-! ### Versions -/

/-- A version of the connection protocol, with its features. -/
structure ConnectionVersion where
  identifier : String
  features : List String
  deriving DecidableEq, Repr

namespace ConnectionVersion

def default : ConnectionVersion := ⟨"1", [Order.ordered.text, Order.unordered.text]⟩

instance : Inhabited ConnectionVersion := ⟨default⟩

/-- All versions a host supports. -/
def compatible : List ConnectionVersion := [default]

def hasFeature (v : ConnectionVersion) (feature : String) : Bool := v.features.contains feature

/-- Whether channels may have an ordering. -/
def supports (v : ConnectionVersion) (order : Order) : Bool := v.hasFeature order.text

def text (v : ConnectionVersion) : String := v.identifier

def toJson (v : ConnectionVersion) : Json :=
  .obj [("identifier", .str v.identifier), ("features", .list .str v.features)]

def ofJson? (j : Json) : Option ConnectionVersion := do
  match ← j.fields? ["identifier", "features"] with
  | [some identifier, some features] =>
    pure ⟨← identifier.asText?, ← features.asList? Json.asText?⟩
  | _ => none

end ConnectionVersion

/-! ### States -/

inductive ConnectionState
  | uninitialized
  | init
  | tryOpen
  | opened
  deriving DecidableEq, Repr, Inhabited

namespace ConnectionState

def text : ConnectionState → String
  | .uninitialized => "UNINITIALIZED"
  | .init => "INIT"
  | .tryOpen => "TRYOPEN"
  | .opened => "OPEN"

def name : ConnectionState → String
  | .uninitialized => "Uninitialized"
  | .init => "Init"
  | .tryOpen => "TryOpen"
  | .opened => "Open"

def all : List ConnectionState := [.uninitialized, .init, .tryOpen, .opened]

def ofName? (s : String) : Option ConnectionState := (all.map fun x => (x.name, x)).lookup s

def toJson (s : ConnectionState) : Json := .str s.name

def ofJson? : Json → Option ConnectionState := Json.asNamed? (all.map fun s => (s.name, s))

end ConnectionState

/-! ### Ends -/

structure ConnectionPeer where
  client : ClientId
  connection : Option ConnectionId
  label : StorePrefix
  deriving DecidableEq, Repr, Inhabited

namespace ConnectionPeer

def toJson (p : ConnectionPeer) : Json :=
  .obj [("client_id", p.client.toJson), ("connection_id", .option Identifier.toJson p.connection),
    ("prefix", p.label.toJson)]

def ofJson? (j : Json) : Option ConnectionPeer := do
  match ← j.fields? ["client_id", "connection_id", "prefix"] with
  | [some client, connection, some label] =>
    pure ⟨← Identifier.ofJson? client, ← Json.optionalField? Identifier.ofJson? connection,
      ← StorePrefix.ofJson? label⟩
  | _ => none

end ConnectionPeer

structure ConnectionEnd where
  state : ConnectionState
  client : ClientId
  peer : ConnectionPeer
  versions : List ConnectionVersion
  delay : Span
  deriving DecidableEq, Repr

namespace ConnectionEnd

def default : ConnectionEnd := ⟨.uninitialized, Inhabited.default, Inhabited.default, [], .zero⟩

instance : Inhabited ConnectionEnd := ⟨default⟩

/-- An open end checked by a client, whose other end is known by its name. -/
def opened (client : ClientId) (other : ConnectionId) : ConnectionEnd :=
  ⟨.opened, client, ⟨Inhabited.default, some other, .default⟩, ConnectionVersion.compatible, .zero⟩

def isOpen (c : ConnectionEnd) : Bool := c.state = .opened

/-- Whether channels over the connection may have an ordering. -/
def supports (c : ConnectionEnd) (order : Order) : Bool := c.versions.any fun v => v.supports order

/-- The name the other chain knows the connection by. -/
def peerConnection (c : ConnectionEnd) : Except ConnectionError ConnectionId :=
  match c.peer.connection with
  | some id => .ok id
  | none => .error .noCounterparty

def toJson (c : ConnectionEnd) : Json :=
  .obj [("state", c.state.toJson), ("client_id", c.client.toJson),
    ("counterparty", c.peer.toJson), ("versions", .list ConnectionVersion.toJson c.versions),
    ("delay_period", c.delay.toJson)]

def ofJson? (j : Json) : Option ConnectionEnd := do
  match ← j.fields? ["state", "client_id", "counterparty", "versions", "delay_period"] with
  | [some state, some client, some peer, some versions, some delay] =>
    pure ⟨← ConnectionState.ofJson? state, ← Identifier.ofJson? client,
      ← ConnectionPeer.ofJson? peer, ← versions.asList? ConnectionVersion.ofJson?,
      ← Span.ofJson? delay⟩
  | _ => none

def encode (c : ConnectionEnd) : Bytes := c.toJson.encode

end ConnectionEnd

end Crosschain
