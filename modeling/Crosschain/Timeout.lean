import Crosschain.Height
import Crosschain.Time.Timestamp

/-!
# Timeouts by height

A timeout may name a height of the other chain, at which it is reached, or none.
-/

namespace Crosschain

/-- The height at which a timeout is reached, if there is one. -/
inductive TimeoutHeight
  | never
  | atHeight (h : Height)
  deriving DecidableEq, Repr, Inhabited

namespace TimeoutHeight

def isSet : TimeoutHeight → Bool
  | .never => false
  | .atHeight _ => true

/-- Whether a chain at height `h` has reached the timeout. -/
def reachedAt (t : TimeoutHeight) (h : Height) : Bool :=
  match t with
  | .never => false
  | .atHeight limit => limit ≤ h

def passedAt (t : TimeoutHeight) (h : Height) : Bool :=
  match t with
  | .never => false
  | .atHeight limit => limit < h

/-- The height that commitments hold: no timeout stands as zero. -/
def committed : TimeoutHeight → Height
  | .never => ⟨0, 0⟩
  | .atHeight h => h

def text : TimeoutHeight → String
  | .never => "no timeout"
  | .atHeight h => h.text

def debugText : TimeoutHeight → String
  | .never => "Never"
  | .atHeight h => "At(" ++ h.debugText ++ ")"

def toJson : TimeoutHeight → Json
  | .never => .str "Never"
  | .atHeight h => .obj [("At", h.toJson)]

def ofJson? (j : Json) : Option TimeoutHeight := do
  match ← j.choice? with
  | ("Never", carried) => if Json.carriesNothing carried then some .never else none
  | ("At", some h) => (Height.ofJson? h).map .atHeight
  | _ => none

end TimeoutHeight

end Crosschain
