import Crosschain.Channel.Store
import Crosschain.Params

/-!
# What the channel layer sees of its chain

A host has a height, which gives its time, and parameters; it keeps light clients of other chains,
connections to them, and the store of the channel layer. The values that other chains may ask for
form the provable snapshot of the host.
-/

namespace Crosschain

/-! ### Time -/

/-- The time of block zero, in nanoseconds since 1970. -/
def genesisNanoseconds : UInt64 := 1650000000000000000

/-- The time between two blocks, in nanoseconds. -/
def blockNanoseconds : UInt64 := 5000000000

/-- The time of a block, if it fits 64 bits: blocks follow each other at a fixed pace. -/
def blockTime? (h : Height) : Option Timestamp := do
  let elapsed ← Word.mul? h.height blockNanoseconds
  let now ← Word.add? genesisNanoseconds elapsed
  pure (.ofNanoseconds now)

/-! ### Hosts -/

structure Host where
  height : Height
  params : Params
  clients : Map ClientId Client
  connections : Map ConnectionId ConnectionEnd
  store : ChannelStore

namespace Host

def atHeight (h : Height) : Host := ⟨h, .default, ∅, ∅, .empty⟩

def now? (h : Host) : Option Timestamp := blockTime? h.height

/-- The time of the host's block; a time that does not fit 64 bits breaks the computation. -/
def now (h : Host) : Attempt Timestamp := Fault.checked h.now?

/-! ### Clients and connections -/

def clientState (h : Host) (id : ClientId) : Except ClientError ClientState :=
  match h.clients[id]? with
  | some c => .ok c.state
  | none => .error (.notFound id)

def consensusState (h : Host) (id : ClientId) (height : Height) :
    Except ClientError ConsensusState :=
  match (h.clients[id]?).bind fun c => c.consensus[height]? with
  | some s => .ok s
  | none => .error (.noConsensus id height)

def showsValue [Digest] (h : Host) (id : ClientId) (label : StorePrefix) (proof : StateProof)
    (root : StateRoot) (path : Path) (value : Bytes) : Except ClientError Unit := do
  -- The client has to be there; whether it is frozen is asked where the root comes from.
  let _ ← h.clientState id
  proof.showsValue root label path value

def showsAbsence [Digest] (h : Host) (id : ClientId) (label : StorePrefix) (proof : StateProof)
    (root : StateRoot) (path : Path) : Except ClientError Unit := do
  let _ ← h.clientState id
  proof.showsAbsence root label path

def connection (h : Host) (id : ConnectionId) : Except ConnectionError ConnectionEnd :=
  match h.connections[id]? with
  | some c => .ok c
  | none => .error (.notFound id)

/-- Tells a client of a header; a client that is not there starts with it. -/
def updateClient (h : Host) (id : ClientId) (header : Header) : Host :=
  let client := match h.clients[id]? with
    | some c => c.learn header
    | none => .ofHeader header
  { h with clients := h.clients.insert id client }

/-- Freezes a client at its latest height, if it is there. -/
def freezeClient (h : Host) (id : ClientId) : Host :=
  match h.clients[id]? with
  | some c => { h with clients := h.clients.insert id c.freeze }
  | none => h

def setConnection (h : Host) (id : ConnectionId) (c : ConnectionEnd) : Host :=
  { h with connections := h.connections.insert id c }

/-! ### The provable snapshot -/

/-- The provable values of a host, path by path. -/
def provable (h : Host) : List (Path × Bytes) :=
  (h.connections.toList.map fun e => (.connection e.1, e.2.encode))
    ++ (h.store.ends.toList.map fun e => (.channelEnd e.1, e.2.encode))
    ++ (h.store.nextSend.toList.map fun e => (.nextSend e.1, Word.bytes e.2))
    ++ (h.store.nextRecv.toList.map fun e => (.nextRecv e.1, Word.bytes e.2))
    ++ (h.store.nextAck.toList.map fun e => (.nextAck e.1, Word.bytes e.2))
    ++ (h.store.commitments.toList.map fun e => (.commitment e.1, e.2))
    ++ (h.store.receipts.toList.map fun e => (.receipt e.1, Commitment.receiptMark))
    ++ (h.store.acknowledgements.toList.map fun e => (.acknowledgement e.1, e.2))
    ++ (h.store.upgrades.toList.map fun e => (.upgrade e.1, e.2.encode))
    ++ (h.store.errorReceipts.toList.map fun e => (.upgradeError e.1, e.2.encode))

/-- The snapshot a block of the host commits to. -/
def snapshot (h : Host) : Snapshot :=
  h.provable.foldl (fun s e => s.insert .default e.1 e.2) .empty

end Host

end Crosschain
