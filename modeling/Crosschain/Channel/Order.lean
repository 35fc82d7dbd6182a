import Crosschain.Json.Shape
import Crosschain.Text.Lowercase

/-!
# Ordering of a channel

Packets of an ordered channel are received in the order they were sent in; those of an unordered
channel each at most once in any order. An ordering is read from its name in any letter case, behind
any number of marks that say what is named.
-/

namespace Crosschain

/-- How the packets of a channel are received. -/
inductive Order
  | unordered
  | ordered
  deriving DecidableEq, Repr, Inhabited

namespace Order

def text : Order → String
  | .unordered => "ORDER_UNORDERED"
  | .ordered => "ORDER_ORDERED"

/-- What is left behind all marks in front of a name. -/
def dropMarks : List Char → List Char
  | 'o' :: 'r' :: 'd' :: 'e' :: 'r' :: '_' :: r => dropMarks r
  | cs => cs

/-- The ordering with a lower-case name. -/
def ofName? (cs : List Char) : Option Order :=
  if cs = "unordered".toList then some .unordered
  else if cs = "ordered".toList then some .ordered
  else none

/-- The ordering a text names, in any letter case and behind any number of marks. -/
def ofText? (s : String) : Option Order :=
  ofName? (dropMarks (Text.lowercase s.toList))

def toJson : Order → Json
  | .unordered => .str "Unordered"
  | .ordered => .str "Ordered"

def ofJson? : Json → Option Order :=
  Json.asNamed? [("Unordered", .unordered), ("Ordered", .ordered)]

end Order

end Crosschain
