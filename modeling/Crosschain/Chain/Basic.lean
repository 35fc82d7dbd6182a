import Crosschain.Application
import Crosschain.Host

/-!
# Chains

A chain is a host with a window of its latest blocks and the applications bound to its ports. Each
block holds the snapshot it commits to; the oldest block leaves the window when a new one comes.
-/

namespace Crosschain

/-! ### Blocks -/

structure Block where
  height : Height
  timestamp : Timestamp
  snapshot : Snapshot

namespace Block

/-- The block of a height, if its time fits 64 bits. -/
def ofHeight? (h : Height) (s : Snapshot) : Option Block := (blockTime? h).map fun t => ⟨h, t, s⟩

/-- What a client of the chain learns of the block. -/
def header [Digest] (b : Block) : Header := ⟨b.height, b.timestamp, b.snapshot.root⟩

def proof (b : Block) : StateProof := b.snapshot.proof

end Block

/-! ### Chains -/

/-- A chain with the latest of its blocks, as many as its window allows. -/
structure Chain where
  host : Host
  window : UInt64
  -- The newest at the end.
  blocks : List Block
  bindings : Map PortId ModuleId
  apps : Map ModuleId Application

namespace Chain

/-- The blocks of the `n` heights up to `h`, which commit to nothing. -/
def emptyBlocks? (h : Height) : Nat → Option (List Block)
  | 0 => some []
  | n + 1 => do
    let b ← Block.ofHeight? ⟨h.revision, h.height - UInt64.ofNat n⟩ .empty
    let r ← emptyBlocks? h n
    pure (b :: r)

/-- A chain at a height that keeps nothing but blocks, of which there is room for at least one. -/
def start? (window : UInt64) (h : Height) : Option Chain :=
  if window = 0 then none
  else (emptyBlocks? h (min window h.height).toNat).map fun blocks =>
    ⟨.atHeight h, window, blocks, ∅, ∅⟩

def mapHost (c : Chain) (f : Host → Host) : Chain := { c with host := f c.host }

def withStore (c : Chain) (s : ChannelStore) : Chain := { c with host := { c.host with store := s } }

def mapStore (c : Chain) (f : ChannelStore → ChannelStore) : Chain := c.withStore (f c.host.store)

/-! ### Blocks of a chain -/

def blockAt? (c : Chain) (h : Height) : Option Block := c.blocks.find? fun b => b.height = h

def latestBlock? (c : Chain) : Option Block := c.blocks.getLast?

/-- The blocks with a new one: when there is no more room, the oldest leaves. -/
def pushBlock (window : UInt64) (blocks : List Block) (b : Block) : List Block :=
  if window.toNat ≤ blocks.length then blocks.tail ++ [b] else blocks ++ [b]

/-- The chain with one more block, which commits to the snapshot of the host, if its height and its
time fit 64 bits. -/
def advance? (c : Chain) : Option Chain := do
  let h ← c.host.height.next?
  let b ← Block.ofHeight? h c.host.snapshot
  pure { c with host := { c.host with height := h }, blocks := pushBlock c.window c.blocks b }

/-- Adds a block after a success. -/
def sealed {ε α : Type} (r : Except (Fault ε) α × Chain) : Except (Fault ε) α × Chain :=
  match r with
  | (.error f, c) => (.error f, c)
  | (.ok a, c) =>
    match c.advance? with
    | some c => (.ok a, c)
    | none => (.error .overflow, c)

/-! ### Applications of a chain -/

/-- Binds a port to a name and registers an application under it. -/
def bindApp (c : Chain) (port : PortId) (id : ModuleId) (a : Application) : Chain :=
  { c with apps := c.apps.insert id a, bindings := c.bindings.insert port id }

def bindPort (c : Chain) (port : PortId) (id : ModuleId) : Chain :=
  { c with bindings := c.bindings.insert port id }

def boundTo (c : Chain) (port : PortId) : Except PortError ModuleId :=
  match c.bindings[port]? with
  | some id => .ok id
  | none => .error (.unknownPort port)

/-! ### Setting up -/

def placeEnd (c : Chain) (e : EndId) (value : ChannelEnd) : Chain :=
  c.mapStore fun s =>
    let registry := match s.registry.create (.ofEnd e) with
      | .ok (_, r) => r
      | .error _ => s.registry
    { s.setEnd e value with registry }

def capabilityOf (c : Chain) (e : EndId) : Except PortError Capability :=
  c.host.store.registry.get (.ofEnd e)

end Chain

end Crosschain
