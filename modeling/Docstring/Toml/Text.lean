-- TOML strings and keys.
import Docstring.Toml.Basic

namespace Docstring.Toml

/-- A reader takes something from the start of a text and leaves the rest. -/
abbrev Reader (α : Type) := Text → Option (α × Text)

/-! ## Characters -/

def isBlankChar (c : Char) : Bool := c = ' ' || c = '\t'

/-- A character that may not stand in comments and strings. -/
def isControl (c : Char) : Bool := (c.toNat < 32 && c ≠ '\t') || c.toNat = 127

def isKeyChar (c : Char) : Bool := c.isAlphanum || c = '_' || c = '-'

def skipBlanks (t : Text) : Text := t.dropWhile isBlankChar

/-- Drops a line end; none when there is something else. -/
def lineEnd? : Text → Option Text
  | '\n' :: rest => some rest
  | '\r' :: '\n' :: rest => some rest
  | _ => none

/-- Drops a comment if there is one; none when it holds a control character. -/
def skipComment? : Text → Option Text
  | '#' :: rest =>
    let comment := rest.takeWhile fun c => c ≠ '\n'
    let comment := if comment.getLast? = some '\r' then comment.dropLast else comment
    if comment.any isControl then none else some (rest.drop comment.length)
  | t => some t

/-! ## Escapes -/

def hexValue? (digits : Text) : Option Nat :=
  digits.foldlM
    (fun n c =>
      if c.isDigit then some (16 * n + (c.toNat - 48))
      else if 'a' ≤ c && c ≤ 'f' then some (16 * n + (c.toNat - 87))
      else if 'A' ≤ c && c ≤ 'F' then some (16 * n + (c.toNat - 55))
      else none)
    0

/-- A character given by its number in `count` hexadecimal digits. -/
def numbered? (count : Nat) (t : Text) : Option (Char × Text) := do
  let digits := t.take count
  if digits.length < count then none
  let n ← hexValue? digits
  if n.isValidChar then return (Char.ofNat n, t.drop count) else none

/-- The character that an escape stands for, after its backslash. -/
def escape? : Reader Char
  | 'b' :: rest => some (Char.ofNat 8, rest)
  | 't' :: rest => some ('\t', rest)
  | 'n' :: rest => some ('\n', rest)
  | 'f' :: rest => some (Char.ofNat 12, rest)
  | 'r' :: rest => some ('\r', rest)
  | '"' :: rest => some ('"', rest)
  | '\\' :: rest => some ('\\', rest)
  | 'u' :: rest => numbered? 4 rest
  | 'U' :: rest => numbered? 8 rest
  | _ => none

/-! ## Strings on one line -/

/-- The rest of a string with escapes, its closing quote included. -/
def basicRest? (fuel : Nat) (t : Text) : Option (Text × Text) :=
  match fuel, t with
  | 0, _ => none
  | _, [] => none
  | _, '"' :: rest => some ([], rest)
  | fuel + 1, '\\' :: rest => do
    let (c, more) ← escape? rest
    let (tail, left) ← basicRest? fuel more
    return (c :: tail, left)
  | fuel + 1, c :: rest => do
    if isControl c then none
    let (tail, left) ← basicRest? fuel rest
    return (c :: tail, left)

/-- The rest of a string without escapes, its closing quote included. -/
def literalRest? (t : Text) : Option (Text × Text) :=
  match Text.cutAt? (· == '\'') t with
  | some (content, rest) => if content.any isControl then none else some (content, rest)
  | none => none

/-! ## Strings over several lines -/

/-- Drops a line end right at the start. -/
def skipFirstLineEnd (t : Text) : Text := (lineEnd? t).getD t

/-- A control character that may not stand in a string over several lines. -/
def isControlInBlock (c : Char) (rest : Text) : Bool :=
  c ≠ '\n' && !(c = '\r' && rest.head? = some '\n') && isControl c

/-- What follows a backslash at the end of a line: the next text that is not blank. -/
def joinedLine? (t : Text) : Option Text :=
  let isSkipped := fun c => isBlankChar c || c = '\n' || c = '\r'
  (lineEnd? (skipBlanks t)).map fun rest => rest.dropWhile isSkipped

/-- The rest of a string over several lines, its three closing quotes included. Up to two quotes may
stand right before them. -/
def blockRest? (quote : Char) (hasEscapes : Bool) (fuel : Nat) (t : Text) : Option (Text × Text) :=
  match fuel, t with
  | 0, _ => none
  | _, [] => none
  | fuel + 1, c :: rest =>
    let quotes := (t.take 5).takeWhile (· = quote)
    if 3 ≤ quotes.length then some (quotes.drop 3, t.drop quotes.length)
    else if c = '\\' && hasEscapes then
      match joinedLine? rest with
      | some more => blockRest? quote hasEscapes fuel more
      | none => do
        let (d, more) ← escape? rest
        let (tail, left) ← blockRest? quote hasEscapes fuel more
        return (d :: tail, left)
    else do
      if isControlInBlock c rest then none
      let (tail, left) ← blockRest? quote hasEscapes fuel rest
      return (c :: tail, left)

def string? (t : Text) : Option (Text × Text) :=
  match t with
  | '"' :: '"' :: '"' :: rest => blockRest? '"' true (rest.length + 1) (skipFirstLineEnd rest)
  | '\'' :: '\'' :: '\'' :: rest => blockRest? '\'' false (rest.length + 1) (skipFirstLineEnd rest)
  | '"' :: rest => basicRest? (rest.length + 1) rest
  | '\'' :: rest => literalRest? rest
  | _ => none

/-! ## Keys -/

def simpleKey? (t : Text) : Option (Text × Text) :=
  match t with
  | '"' :: rest => basicRest? (rest.length + 1) rest
  | '\'' :: rest => literalRest? rest
  | t =>
    let key := t.takeWhile isKeyChar
    if key.isEmpty then none else some (key, t.drop key.length)

/-- The parts of a dotted key, with at most `fuel` of them. -/
def key? (fuel : Nat) (t : Text) : Option (List Text × Text) :=
  match fuel with
  | 0 => none
  | fuel + 1 => do
    let (first, rest) ← simpleKey? (skipBlanks t)
    match skipBlanks rest with
    | '.' :: more =>
      let (others, left) ← key? fuel more
      return (first :: others, left)
    | left => return ([first], left)

end Docstring.Toml
