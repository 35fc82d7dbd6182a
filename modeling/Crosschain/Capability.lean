import Crosschain.Path
import Crosschain.Text.Blank

/-!
# Ports and capabilities

A capability is a handle given out by its index. The registry of a host maps each name that is
taken to the index of the handle that owns it; an index is given out once. A handle is authentic
under the name whose entry holds its index, and under no other.
-/

namespace Crosschain

/-! ### Errors -/

inductive PortError
  | unknownPort (port : PortId)
  | alreadyBound (port : PortId)
  | notRegistered (name : String)
  | alreadyTaken (name : String)
  | notAuthentic (name : String)
  | blankName
  deriving DecidableEq, Repr

instance : Explains PortError where
  lines
    | .unknownPort p => ["port '" ++ p.text ++ "' is unknown"]
    | .alreadyBound p => ["port '" ++ p.text ++ "' is already bound"]
    | .notRegistered n => ["no capability is registered under the name '" ++ n ++ "'"]
    | .alreadyTaken n => ["a capability is already registered under the name '" ++ n ++ "'"]
    | .notAuthentic n =>
      ["the capability presented does not authenticate against '" ++ n ++ "'"]
    | .blankName => ["capability names cannot be empty"]

/-! ### Names and handles -/

/-- The name a capability is registered under. -/
structure CapabilityName where
  text : String
  deriving DecidableEq, Repr

namespace CapabilityName

instance : Ord CapabilityName := ⟨compareOn CapabilityName.text⟩

instance : Std.TransOrd CapabilityName :=
  inferInstanceAs (Std.TransCmp (compareOn CapabilityName.text))

instance : Std.LawfulEqOrd CapabilityName where
  eq_of_compare {a b} h := by
    cases a; cases b
    exact congrArg _ (Map.eq_of_compareOn h)

/-- Any text but blanks is a name. -/
def ofText (s : String) : Except PortError CapabilityName :=
  if Text.allBlank s then .error .blankName else .ok ⟨s⟩

/-- The name of the capability that owns a channel end: the text of its path. -/
def ofEnd (e : EndId) : CapabilityName := ⟨(Path.capability e).text⟩

end CapabilityName

/-- A handle, known by its index. -/
structure Capability where
  index : UInt64
  deriving DecidableEq, Repr

/-! ### The registry -/

/-- The names that are taken, and the next index to give out. -/
structure Registry where
  nextIndex : UInt64
  owners : Map CapabilityName UInt64

namespace Registry

def empty : Registry := ⟨0, ∅⟩

/-- Takes a free name and gives out the next index for it. -/
def create (r : Registry) (name : CapabilityName) :
    Except (Fault PortError) (Capability × Registry) :=
  match r.owners[name]? with
  | some _ => .error (.refused (.alreadyTaken name.text))
  | none =>
    match Word.add? r.nextIndex 1 with
    | none => .error .overflow
    | some next => .ok (⟨r.nextIndex⟩, ⟨next, r.owners.insert name r.nextIndex⟩)

def get (r : Registry) (name : CapabilityName) : Except PortError Capability :=
  match r.owners[name]? with
  | some index => .ok ⟨index⟩
  | none => .error (.notRegistered name.text)

def owns (r : Registry) (name : CapabilityName) (c : Capability) : Bool :=
  r.owners[name]? == some c.index

def authenticate (r : Registry) (name : CapabilityName) (c : Capability) : Except PortError Unit :=
  if r.owns name c then .ok () else .error (.notAuthentic name.text)

/-- Frees a name on behalf of the handle that owns it. -/
def release (r : Registry) (name : CapabilityName) (c : Capability) : Except PortError Registry :=
  (r.authenticate name c).map fun _ => { r with owners := r.owners.erase name }

end Registry

end Crosschain
