-- Text as a list of characters: cutting it into lines and words, trimming, and searching.
import Docstring.Text.Class

namespace Docstring

/-- A text, character by character. -/
abbrev Text := List Char

/-- A text that holds no newline. -/
abbrev Line := Text

namespace Text

/-- The text as a string, for messages and files. -/
def asString (t : Text) : String := String.ofList t

/-! ## Lines -/

/-- Puts a character before the first of some lines; a newline opens a line of its own. -/
def consLine (c : Char) (lines : List Line) : List Line :=
  if c = '\n' then [] :: lines
  else
    match lines with
    | [] => [[c]]
    | line :: rest => (c :: line) :: rest

/-- The pieces between newlines. There is always one more piece than there are newlines. -/
def splitLines (t : Text) : List Line := t.foldr consLine [[]]

/-- Lines joined by newlines, with none at the end. -/
def joinLines : List Line → Text
  | [] => []
  | [line] => line
  | line :: lines => line ++ '\n' :: joinLines lines

def dropReturn (line : Line) : Line :=
  if line.getLast? = some '\r' then line.dropLast else line

/-- The lines that end in a newline, and a last one without it if it is not empty. A carriage
return right before a newline belongs to the line end. -/
def terminatedLines (t : Text) : List Line :=
  let pieces := splitLines t
  let last := pieces.getLast?.getD []
  pieces.dropLast.map dropReturn ++ (if last.isEmpty then [] else [last])

/-! ## Trimming -/

def trimStart (t : Text) : Text := t.dropWhile isSpace

def trimEnd (t : Text) : Text := (t.reverse.dropWhile isSpace).reverse

def trim (t : Text) : Text := trimEnd (trimStart t)

def isBlank (t : Text) : Bool := t.all isSpace

/-! ## Words -/

/-- The maximal runs of characters that are not white space, in order. -/
def words : Text → List Text
  | [] => []
  | c :: rest =>
    if isSpace c then words rest
    else
      match rest with
      | [] => [[c]]
      | d :: _ =>
        if isSpace d then [c] :: words rest
        else
          match words rest with
          | [] => [[c]]
          | word :: more => (c :: word) :: more

def joinWords : List Text → Text
  | [] => []
  | [word] => word
  | word :: more => word ++ ' ' :: joinWords more

/-! ## Searching -/

/-- Cuts at the first character of a class; the character itself is in neither part. -/
def cutAt? (p : Char → Bool) : Text → Option (Text × Text)
  | [] => none
  | c :: rest =>
    if p c then some ([], rest) else (cutAt? p rest).map fun (left, right) => (c :: left, right)

/-- Cuts at the last character of a class; the character itself is in neither part. -/
def cutAtLast? (p : Char → Bool) : Text → Option (Text × Text)
  | [] => none
  | c :: rest =>
    match cutAtLast? p rest with
    | some (left, right) => some (c :: left, right)
    | none => if p c then some ([], rest) else none

def dropPrefix? : Text → Text → Option Text
  | t, [] => some t
  | [], _ :: _ => none
  | c :: t, d :: start => if c = d then dropPrefix? t start else none

/-- Does a text begin with another? -/
def startsWith (t start : Text) : Bool := (dropPrefix? t start).isSome

/-- Does a text end with another? -/
def endsWith (t finish : Text) : Bool := startsWith t.reverse finish.reverse

/-- Does a text hold another as a block of neighbouring characters? -/
def contains (t block : Text) : Bool :=
  startsWith t block ||
    match t with
    | [] => false
    | _ :: rest => contains rest block

/-- Drops a given start as often as it occurs, `fuel` times at most. -/
def dropPrefixes (fuel : Nat) (start t : Text) : Text :=
  match fuel with
  | 0 => t
  | fuel + 1 =>
    match dropPrefix? t start with
    | some rest => dropPrefixes fuel start rest
    | none => t

/-- Drops a given start as often as it occurs. -/
def trimPrefixes (start t : Text) : Text :=
  if start.isEmpty then t else dropPrefixes t.length start t

/-- Every letter A to Z in lower case. -/
def lower (t : Text) : Text := t.map asciiLower

end Text

end Docstring
