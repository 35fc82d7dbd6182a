/-!
# Strings and keys of settings documents

Settings are written in the TOML format. A string is basic, with escapes, or literal, and either may
run over several lines. A key is a word or a string of one line, and keys joined by points name an
entry of a table inside a table.
-/

namespace Crosschain.Toml

/-- Blanks inside a line. -/
def isGap (c : Char) : Bool := c == ' ' || c == '\t'

def skipGap (cs : List Char) : List Char := cs.dropWhile isGap

/-- Ends of line of two characters count as one. -/
def foldLineEnds : List Char → List Char
  | '\r' :: '\n' :: r => '\n' :: foldLineEnds r
  | c :: r => c :: foldLineEnds r
  | [] => []

/-- Characters of a comment. -/
def isCommentChar (c : Char) : Bool := c == '\t' || 0x20 ≤ c.toNat

/-- Characters a string may hold as they are. -/
def isPlain (c : Char) : Bool := c == '\t' || (0x20 ≤ c.toNat && c.toNat ≠ 0x7F)

/-- Characters of a key without quotes. -/
def isKeyChar (c : Char) : Bool := c.isAlphanum || c == '-' || c == '_'

/-! ### Strings -/

def hexValue? (c : Char) : Option Nat :=
  if c.isDigit then some (c.toNat - 48)
  else if 'a' ≤ c ∧ c ≤ 'f' then some (c.toNat - 87)
  else if 'A' ≤ c ∧ c ≤ 'F' then some (c.toNat - 55)
  else none

/-- The character whose code point the first `n` characters spell, and the rest. -/
def codePoint? (n : Nat) (cs : List Char) : Option (Char × List Char) := do
  let ds ← (cs.take n).mapM hexValue?
  let v := ds.foldl (fun acc d => acc * 16 + d) 0
  if ds.length = n ∧ v.isValidChar then some (Char.ofNat v, cs.drop n) else none

def letterEscape? (c : Char) : Option Char :=
  match c with
  | '"' => some '"'
  | '\\' => some '\\'
  | 'b' => some '\x08'
  | 'f' => some '\x0c'
  | 'n' => some '\n'
  | 'r' => some '\r'
  | 't' => some '\t'
  | _ => none

/-- What is left behind a backslash at the end of a line: the end of the line, then all blanks and
line ends. -/
def continuation? (cs : List Char) : Option (List Char) :=
  match skipGap cs with
  | '\n' :: r => some (r.dropWhile fun c => isGap c || c == '\n')
  | _ => none

/-- What a backslash of a basic string spells, a character or nothing, and the rest. -/
def escaped? (lines : Bool) : List Char → Option (List Char × List Char)
  | [] => none
  | c :: r =>
    match letterEscape? c with
    | some e => some ([e], r)
    | none =>
      if c = 'u' then (codePoint? 4 r).map fun (e, r) => ([e], r)
      else if c = 'U' then (codePoint? 8 r).map fun (e, r) => ([e], r)
      else if lines && (isGap c || c == '\n') then (continuation? (c :: r)).map fun r => ([], r)
      else none

/-- The characters of a string on one line up to its delimiter, and the rest. A string with escapes
is basic. -/
def oneLine? (delim : Char) (escapes : Bool) : Nat → List Char → Option (List Char × List Char)
  | 0, _ => none
  | _ + 1, [] => none
  | n + 1, c :: r =>
    if c = delim then some ([], r)
    else if c = '\\' ∧ escapes then do
      let (e, r) ← escaped? false r
      let (s, r) ← oneLine? delim escapes n r
      pure (e ++ s, r)
    else if isPlain c then (oneLine? delim escapes n r).map fun (s, r) => (c :: s, r)
    else none

/-- The characters of a string of several lines up to three delimiters, and the rest. Up to two
delimiters right before the closing ones belong to the string. -/
def manyLines? (delim : Char) (escapes : Bool) : Nat → List Char → Option (List Char × List Char)
  | 0, _ => none
  | _ + 1, [] => none
  | n + 1, c :: r =>
    if c = delim then
      let run := (c :: r).takeWhile (· == delim)
      if run.length < 3 then
        (manyLines? delim escapes n ((c :: r).drop run.length)).map fun (s, r) => (run ++ s, r)
      else
        let kept := min (run.length - 3) 2
        some (List.replicate kept delim, (c :: r).drop (3 + kept))
    else if c = '\\' ∧ escapes then do
      let (e, r) ← escaped? true r
      let (s, r) ← manyLines? delim escapes n r
      pure (e ++ s, r)
    else if isPlain c || c == '\n' then
      (manyLines? delim escapes n r).map fun (s, r) => (c :: s, r)
    else none

/-- Whether quotes with this delimiter take escapes. -/
def quote? (c : Char) : Option Bool :=
  if c = '"' then some true else if c = '\'' then some false else none

/-- Reads a string of one line, or of several lines behind three delimiters, where a line end right
behind them does not count. -/
def string? : List Char → Option (String × List Char)
  | d :: r => do
    let escapes ← quote? d
    match r with
    | d1 :: d2 :: r' =>
      if d1 = d ∧ d2 = d then
        let body := match r' with
          | '\n' :: b => b
          | b => b
        (manyLines? d escapes (body.length + 1) body).map fun (s, r) => (String.ofList s, r)
      else
        (oneLine? d escapes (r.length + 1) r).map fun (s, r) => (String.ofList s, r)
    | _ => (oneLine? d escapes (r.length + 1) r).map fun (s, r) => (String.ofList s, r)
  | [] => none

/-! ### Words and keys -/

def word? (cs : List Char) : Option (List Char × List Char) :=
  let w := cs.takeWhile isKeyChar
  if w.isEmpty then none else some (w, cs.drop w.length)

/-- A key: a word, or a string of one line. -/
def key? (cs : List Char) : Option (String × List Char) :=
  match cs with
  | [] => none
  | d :: r =>
    match quote? d with
    | some escapes =>
      if r.take 2 = [d, d] then none
      else (oneLine? d escapes (r.length + 1) r).map fun (s, r) => (String.ofList s, r)
    | none => (word? cs).map fun (w, r) => (String.ofList w, r)

/-- Keys joined by points, with the blanks behind them; `n` bounds their number. -/
def path? : Nat → List Char → Option (List String × List Char)
  | 0, _ => none
  | n + 1, cs => do
    let (k, r) ← key? cs
    match skipGap r with
    | '.' :: r =>
      let (ks, r) ← path? n (skipGap r)
      pure (k :: ks, r)
    | r => pure ([k], r)

/-! ### Ends of lines -/

/-- What is left behind the rest of a line, which holds nothing but blanks and a comment. -/
def endLine? (cs : List Char) : Option (List Char) :=
  let r := match skipGap cs with
    | '#' :: r => r.dropWhile isCommentChar
    | r => r
  match r with
  | [] => some []
  | '\n' :: r => some r
  | _ => none

/-- What is left behind blanks, comments and ends of lines; `n` bounds the number of lines. -/
def skipLines? : Nat → List Char → Option (List Char)
  | 0, _ => none
  | n + 1, cs =>
    match skipGap cs with
    | '\n' :: r => skipLines? n r
    | '#' :: r => (endLine? ('#' :: r)).bind (skipLines? n)
    | r => some r

end Crosschain.Toml
