import Crosschain.Toml.Number

/-!
# Documents of settings

A document is a list of lines: settings, which give a key a value, and headers, which open a table.
A setting whose key has several parts belongs to a table inside the table. Only strings are kept;
any other value has to be well formed.
-/

namespace Crosschain.Toml

inductive Value
  | text (s : String)
  /-- A table made by keys of several parts. -/
  | dotted (entries : List (String × Value))
  | other

/-- The settings of a table, in order. -/
abbrev Entries : Type := List (String × Value)

namespace Entries

/-- The entries with the first value under a key replaced. -/
def replace (k : String) (v : Value) : Entries → Entries
  | [] => []
  | e :: r => if e.1 = k then (k, v) :: r else e :: replace k v r

/-- The entries with one more setting. What is not a table made by keys of several parts takes no
entries. -/
def add : List String → Value → Entries → Option Entries
  | [], _, _ => none
  | [k], v, t => some (t ++ [(k, v)])
  | k :: ks, v, t =>
    match t.lookup k with
    | none => (add ks v []).map fun sub => t ++ [(k, .dotted sub)]
    | some (.dotted sub) => (add ks v sub).map fun sub => replace k (.dotted sub) t
    | some _ => none

end Entries

/-! ### Values -/

mutual

def value? : Nat → List Char → Option (Value × List Char)
  | 0, _ => none
  | n + 1, cs =>
    match cs with
    | '[' :: r => (items? n r).map fun r => (.other, r)
    | '\x7b' :: r =>
      match skipGap r with
      | '\x7d' :: r => some (.other, r)
      | r => (pairs? n [] r).map fun r => (.other, r)
    | '+' :: r => (afterPlus? r).map fun r => (.other, r)
    | c :: r =>
      if (quote? c).isSome then (string? (c :: r)).map fun (s, r) => (.text s, r)
      else (worded? (c :: r)).map fun r => (.other, r)
    | [] => none

/-- What is left behind the items of a list and its closing bracket. Lines may end between them, and
a comma may follow the last one. -/
def items? : Nat → List Char → Option (List Char)
  | 0, _ => none
  | n + 1, cs => do
    match ← skipLines? (cs.length + 1) cs with
    | ']' :: r => pure r
    | r =>
      let (_, r) ← value? n r
      match ← skipLines? (r.length + 1) r with
      | ']' :: r => pure r
      | ',' :: r => items? n r
      | _ => none

/-- What is left behind the settings of a table on one line and its closing brace. -/
def pairs? : Nat → Entries → List Char → Option (List Char)
  | 0, _, _ => none
  | n + 1, t, cs => do
    match ← path? (cs.length + 1) cs with
    | (path, '=' :: r) =>
      let (v, r) ← value? n (skipGap r)
      let t ← t.add path v
      match skipGap r with
      | '\x7d' :: r => pure r
      | ',' :: r => pairs? n t (skipGap r)
      | _ => none
    | _ => none

end

/-! ### Lines -/

inductive Line
  | setting (path : List String) (v : Value)
  | header (path : List String)

/-- What is left behind a header's brackets, of which a list of tables has two. -/
def closed? (twice : Bool) : List Char → Option (List Char)
  | ']' :: r =>
    if twice then
      match r with
      | ']' :: r => some r
      | _ => none
    else some r
  | _ => none

/-- Reads a header whose first bracket is read already. -/
def header? (cs : List Char) : Option (Line × List Char) := do
  let (twice, r) := match cs with
    | '[' :: r => (true, r)
    | r => (false, r)
  let (path, r) ← path? (r.length + 1) (skipGap r)
  let r ← closed? twice r
  pure (.header path, ← endLine? r)

def setting? (cs : List Char) : Option (Line × List Char) := do
  match ← path? (cs.length + 1) cs with
  | (path, '=' :: r) =>
    let (v, r) ← value? (2 * cs.length + 1) (skipGap r)
    pure (.setting path v, ← endLine? r)
  | _ => none

def lines? : Nat → List Char → Option (List Line)
  | 0, _ => none
  | n + 1, cs => do
    match ← skipLines? (cs.length + 1) cs with
    | [] => pure []
    | '[' :: r =>
      let (l, r) ← header? r
      pure (l :: (← lines? n r))
    | r =>
      let (l, r) ← setting? r
      pure (l :: (← lines? n r))

/-! ### Documents -/

/-- The entries of a document that go on with lines. What stands under a header belongs to a table
of its own, of which the document's entries have the name. -/
def gather : Entries → List Line → Option Entries
  | t, [] => some t
  | t, .setting path v :: r => do gather (← t.add path v) r
  | t, .header path :: r => do
    let _ ← gather [] r
    pure (t ++ [(path.headD "", .other)])

/-- The entries of a document in order, up to its first header; a byte order mark may stand in
front. -/
def entries? (s : String) : Option Entries :=
  let cs := foldLineEnds (match s.toList with
    | '\ufeff' :: r => r
    | cs => cs)
  (lines? (cs.length + 1) cs).bind (gather [])

end Crosschain.Toml
