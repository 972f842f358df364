-- Reading whole TOML documents.
import Docstring.Toml.Scalar
import Docstring.Toml.Text

namespace Docstring.Toml

/-! ## Values -/

/-- Drops blanks, line ends and comments between the items of an array. -/
def skipSpace? (fuel : Nat) (t : Text) : Option Text :=
  match fuel with
  | 0 => some t
  | fuel + 1 => do
    let rest ← skipComment? (skipBlanks t)
    match lineEnd? rest with
    | some more => skipSpace? fuel more
    | none => return rest

/-- Drops the space around the items of an array. -/
def skipAround? (t : Text) : Option Text := skipSpace? (t.length + 1) t

def leaf? (t : Text) : Option (Toml × Text) :=
  match t with
  | '"' :: _ | '\'' :: _ => (string? t).map fun (s, rest) => (.text s, rest)
  | _ =>
    let token := t.takeWhile isScalarChar
    (scalar? token).map fun value => (value, t.drop token.length)

mutual

/-- A value, nested at most `fuel` deep. -/
def value? (fuel : Nat) (t : Text) : Option (Toml × Text) :=
  match fuel, t with
  | 0, _ => none
  | fuel + 1, '[' :: rest => do
    let (items, left) ← items? fuel (← skipAround? rest)
    return (.array items, left)
  | fuel + 1, '{' :: rest => do
    match skipBlanks rest with
    | '}' :: left => return (.table .inline [], left)
    | more =>
      let (entries, left) ← entries? fuel [] more
      return (.table .inline entries, left)
  | _ + 1, t => leaf? t

/-- The items of an array, its closing bracket included. -/
def items? (fuel : Nat) (t : Text) : Option (List Toml × Text) :=
  match fuel, t with
  | 0, _ => none
  | _ + 1, ']' :: left => some ([], left)
  | fuel + 1, t => do
    let (first, rest) ← value? fuel t
    match ← skipAround? rest with
    | ',' :: more =>
      let (others, left) ← items? fuel (← skipAround? more)
      return (first :: others, left)
    | ']' :: left => return ([first], left)
    | _ => none

/-- The entries of an inline table after earlier ones, its closing brace included. -/
def entries? (fuel : Nat) (entries : Entries) (t : Text) : Option (Entries × Text) :=
  match fuel with
  | 0 => none
  | fuel + 1 => do
    let (path, rest) ← key? (t.length + 1) t
    match rest with
    | '=' :: afterSign =>
      let (value, left) ← value? fuel (skipBlanks afterSign)
      let key ← path.getLast?
      let entries ← insert? value key path.dropLast entries
      match skipBlanks left with
      | ',' :: more => entries? fuel entries more
      | '}' :: done => return (entries, done)
      | _ => none
    | _ => none

end

/-! ## Lines -/

/-- A document that is being read: its entries, and the header that the next keys belong to. -/
structure Reading where
  entries : Entries := []
  header : List Text := []

/-- Drops the end of a line, with a comment before it. -/
def endLine? (t : Text) : Option Text := do
  match ← skipComment? (skipBlanks t) with
  | [] => return []
  | rest => lineEnd? rest

/-- The name in a header up to its closing brackets. -/
def headerName? (closing : Text) (t : Text) : Option (List Text × Text) := do
  let (path, rest) ← key? (t.length + 1) t
  let left ← Text.dropPrefix? rest closing
  return (path, left)

/-- Reads a line with a key and a value. -/
def keyLine? (r : Reading) (t : Text) : Option (Reading × Text) := do
  let (path, rest) ← key? (t.length + 1) t
  match rest with
  | '=' :: afterSign =>
    let (value, left) ← value? (afterSign.length + 1) (skipBlanks afterSign)
    let key ← path.getLast?
    let entries ← atPath? (insert? value key path.dropLast) r.header r.entries
    return ({ r with entries := entries }, left)
  | _ => none

def headerLine? (r : Reading) (t : Text) : Option (Reading × Text) :=
  match t with
  | '[' :: rest => do
    let (path, left) ← headerName? [']', ']'] rest
    let key ← path.getLast?
    let entries ← atPath? (appendTable? key) path.dropLast r.entries
    return ({ entries := entries, header := path }, left)
  | t => do
    let (path, left) ← headerName? [']'] t
    let key ← path.getLast?
    let entries ← atPath? (openTable? key) path.dropLast r.entries
    return ({ entries := entries, header := path }, left)

/-- Reads what a line holds; an empty one holds nothing. -/
def content? (r : Reading) (t : Text) : Option (Reading × Text) :=
  match skipBlanks t with
  | [] => some (r, [])
  | c :: rest =>
    if c = '#' || c = '\n' || c = '\r' then some (r, c :: rest)
    else if c = '[' then headerLine? r rest
    else keyLine? r (c :: rest)

/-- Reads at most `fuel` lines. -/
def lines? (fuel : Nat) (r : Reading) (t : Text) : Option Entries :=
  match fuel with
  | 0 => some r.entries
  | fuel + 1 => do
    let (r, rest) ← content? r t
    match ← endLine? rest with
    | [] => return r.entries
    | more => lines? fuel r more

/-- Reads a document; none when it is malformed. -/
def parse? (t : Text) : Option Entries :=
  let t := if t.head? = some (Char.ofNat 0xFEFF) then t.drop 1 else t
  lines? (t.length + 1) {} t

end Docstring.Toml
