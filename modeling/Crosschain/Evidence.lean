import Crosschain.Height
import Crosschain.Snapshot

/-!
# Proofs of a message

A relayed message carries what proves it: a proof of the object it is about, at times a second proof
taken at the same height, and that height.
-/

namespace Crosschain

structure Evidence where
  object : StateProof
  other : Option StateProof
  height : Height
  deriving DecidableEq, Repr

/-- Why proofs are not complete. -/
inductive EvidenceError
  | zeroHeight
  | emptyProof
  deriving DecidableEq, Repr

instance : Explains EvidenceError where
  lines
    | .zeroHeight => ["proof height cannot be zero"]
    | .emptyProof => ["proof cannot be empty"]

namespace Evidence

/-- The height has to be above zero and the first proof not empty. -/
def ofParts (object : StateProof) (other : Option StateProof) (height : Height) :
    Except EvidenceError Evidence :=
  if height.height = 0 then .error .zeroHeight
  else if object.bytes.isEmpty then .error .emptyProof
  else .ok ⟨object, other, height⟩

def second (e : Evidence) : Except EvidenceError StateProof :=
  match e.other with
  | some p => .ok p
  | none => .error .emptyProof

def toJson (e : Evidence) : Json :=
  .obj [("object_proof", e.object.toJson), ("other_proof", .option StateProof.toJson e.other),
    ("height", e.height.toJson)]

def ofJson? (j : Json) : Option Evidence := do
  match ← j.fields? ["object_proof", "other_proof", "height"] with
  | [some object, other, some height] =>
    pure ⟨← StateProof.ofJson? object, ← Json.optionalField? StateProof.ofJson? other,
      ← Height.ofJson? height⟩
  | _ => none

end Evidence

end Crosschain
