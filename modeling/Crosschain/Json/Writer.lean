import Crosschain.Json.Basic

/-!
# Writing JSON

The compact text of a value: no blanks, members in their order. In a string the quote, the
backslash and the control characters are escaped, five of the latter by a letter; all other
characters stand for themselves.
-/

namespace Crosschain.Json

/-- The spelling of a control character by its code point. -/
def controlEscape (c : Char) : List Char :=
  ['\\', 'u', '0', '0', Hex.digit .lower (c.toNat / 16), Hex.digit .lower (c.toNat % 16)]

/-- How a character stands in a string literal. -/
def escapeChar (c : Char) : List Char :=
  if c = '"' then ['\\', '"']
  else if c = '\\' then ['\\', '\\']
  else if 0x20 ≤ c.toNat then [c]
  else if c = '\n' then ['\\', 'n']
  else if c = '\t' then ['\\', 't']
  else if c = '\r' then ['\\', 'r']
  else if c.toNat = 8 then ['\\', 'b']
  else if c.toNat = 12 then ['\\', 'f']
  else controlEscape c

/-- The inside of the string literal of a text. -/
def escape (s : String) : String := String.ofList (s.toList.flatMap escapeChar)

/-- A string literal. One without a text is half a surrogate pair. -/
def literal : Option String → String
  | some s => "\"" ++ escape s ++ "\""
  | none => "\"\\ud800\""

mutual

def render : Json → String
  | .null => "null"
  | .bool true => "true"
  | .bool false => "false"
  | .nat n => n.repr
  | .number s => s
  | .text s => literal s
  | .array items => "[" ++ ",".intercalate (renderItems items) ++ "]"
  | .object members => "\x7b" ++ ",".intercalate (renderMembers members) ++ "\x7d"

def renderItems : List Json → List String
  | [] => []
  | j :: r => render j :: renderItems r

def renderMembers : List (Option String × Json) → List String
  | [] => []
  | (k, v) :: r => (literal k ++ ":" ++ render v) :: renderMembers r

end

def encode (j : Json) : Bytes := Bytes.ofText j.render

end Crosschain.Json
