-- Cutting Python source into tokens.
import Docstring.Python.Identifier
import Docstring.Python.Token

namespace Docstring.Python

/-! ## Walking over source text -/

/-- A place in the source with the text from there on. -/
structure Cursor where
  rest : Text
  offset : Nat := 0
  line : Nat := 1
  /-- The indentation seen since the line began. -/
  column : Nat := 0
deriving Repr

namespace Cursor

def next (c : Cursor) : Cursor :=
  match c.rest with
  | [] => c
  | ch :: rest =>
    { c with
      rest := rest
      offset := c.offset + ch.utf8Size
      line := if ch = '\n' then c.line + 1 else c.line }

def skip (c : Cursor) : Nat → Cursor
  | 0 => c
  | n + 1 => c.next.skip n

/-- The next `n` characters as a token. -/
def token (c : Cursor) (kind : TokenKind) (n : Nat) : Token :=
  { kind := kind, text := c.rest.take n, span := ⟨c.offset, (c.skip n).offset⟩, line := c.line,
    column := c.column }

/-- Passes a character of the indentation: a tab counts eight columns, and a carriage return or a
form feed starts again. -/
def indent (c : Cursor) (ch : Char) : Cursor :=
  let column :=
    if ch = ' ' then c.column + 1
    else if ch = '\t' then c.column + 8
    else if ch = '\n' || ch = '\r' || ch = '\x0c' then 0
    else c.column
  { c.next with column := column }

end Cursor

/-! ## Numbers and operators -/

def isDigitPart (c : Char) : Bool := c.isDigit || c == '_'

/-- The length of an exponent, or zero. -/
def exponentLength : Text → Nat
  | e :: rest =>
    if e == 'e' || e == 'E' then
      match rest with
      | s :: d :: more =>
        if s == '+' || s == '-' then
          if d.isDigit then 2 + ((d :: more).takeWhile isDigitPart).length else 0
        else if s.isDigit then 1 + ((s :: d :: more).takeWhile isDigitPart).length
        else 0
      | [s] => if s.isDigit then 2 else 0
      | [] => 0
    else 0
  | [] => 0

/-- The length of the number at the start of a text. -/
def numberLength (t : Text) : Nat :=
  match t with
  | '0' :: x :: rest =>
    if x == 'x' || x == 'X' || x == 'o' || x == 'O' || x == 'b' || x == 'B' then
      2 + (rest.takeWhile fun c => c.isAlphanum || c == '_').length
    else decimalLength t
  | _ => decimalLength t
where
  /-- The length of a decimal number with its point, exponent and suffix. -/
  decimalLength (t : Text) : Nat :=
    let whole := (t.takeWhile isDigitPart).length
    let point :=
      match t.drop whole with
      | '.' :: rest => 1 + (rest.takeWhile isDigitPart).length
      | _ => 0
    let power := exponentLength (t.drop (whole + point))
    let suffix :=
      match t.drop (whole + point + power) with
      | c :: _ => if c == 'j' || c == 'J' || c == 'l' || c == 'L' then 1 else 0
      | [] => 0
    whole + point + power + suffix

/-- Operators and delimiters, the longer ones first. -/
def operators : List String :=
  ["**=", "//=", ">>=", "<<=", "...", "->", ":=", "==", "!=", "<=", ">=", "<>", "+=", "-=", "*=",
    "/=", "%=", "@=", "&=", "|=", "^=", "**", "//", "<<", ">>", "+", "-", "*", "/", "%", "@", "&",
    "|", "^", "~", "<", ">", ",", ":", ";", ".", "="]

/-- The operator at the start of a text. -/
def operatorLength (t : Text) : Nat :=
  match operators.find? fun op => Text.startsWith t op.toList with
  | some op => op.length
  | none => 0

/-! ## Strings -/

/-- The quotes of a string and the letters before them. -/
structure StringStart where
  quote : Char
  isTriple : Bool
  isRaw : Bool
  isFormatted : Bool
  /-- The number of characters up to the end of the opening quotes. -/
  length : Nat
deriving DecidableEq, Repr

/-- Letters that may stand before the quotes of a string. -/
def isStringLetter (c : Char) : Bool := "rRbBuUfF".toList.contains c

/-- The string at the start of a text, if there is one. -/
def stringStart? (t : Text) : Option StringStart :=
  let letters := t.takeWhile isStringLetter
  match t.dropWhile isStringLetter with
  | q :: rest =>
    if q == '"' || q == '\'' then
      let triple := Text.startsWith rest [q, q]
      some
        { quote := q, isTriple := triple, isRaw := letters.any fun c => c == 'r' || c == 'R',
          isFormatted := letters.any fun c => c == 'f' || c == 'F',
          length := letters.length + (if triple then 3 else 1) }
    else none
  | [] => none

namespace StringStart

def closing (s : StringStart) : Text := List.replicate (if s.isTriple then 3 else 1) s.quote

/-- The length of the rest of a string without replacement fields, its closing quotes included.
None when it does not end. -/
def restLength? (s : StringStart) : Text → Option Nat
  | [] => none
  | c :: rest =>
    if Text.startsWith (c :: rest) s.closing then some s.closing.length
    else if c = '\n' && !s.isTriple then none
    else if c = '\\' then
      match rest with
      | [] => none
      | '\r' :: '\n' :: more => (s.restLength? more).map (· + 3)
      | _ :: more => (s.restLength? more).map (· + 2)
    else (s.restLength? rest).map (· + 1)

/-- How many characters of the text of a formatted string make up one unit: an escape or a single
character. -/
def unitLength (s : StringStart) (t : Text) : Nat :=
  match t with
  | '\\' :: '\r' :: '\n' :: _ => 3
  | '\\' :: c :: rest =>
    if s.isRaw then if c = s.quote || c = '\\' then 2 else 1
    else if c = 'N' && rest.head? = some '{' then 3 + (rest.takeWhile (· ≠ '}')).length
    else if c = '{' || c = '}' then 1
    else 2
  | _ => 1

end StringStart

/-! ## Modes -/

/-- What the lexer is inside of. -/
inductive Mode where
  /-- Brackets, where line ends do not count. -/
  | bracket
  /-- The text of a formatted string. -/
  | text (start : StringStart)
  /-- A replacement field of a formatted string. -/
  | field
  /-- The format after the colon of a replacement field. -/
  | format
deriving DecidableEq, Repr

/-- One step of the lexer: the tokens found, where to go on, and what is open there. -/
structure Step where
  tokens : List Token := []
  cursor : Cursor
  modes : List Mode

/-- A step that finds one token of `n` characters. -/
def Step.found (c : Cursor) (kind : TokenKind) (n : Nat) (modes : List Mode) : Step :=
  { tokens := [c.token kind n], cursor := c.skip n, modes := modes }

/-- A step that ends the source at something no program holds. -/
def Step.stop (c : Cursor) : Step :=
  { tokens := [c.token .invalid 1], cursor := { c with rest := [] }, modes := [] }

/-- Reads a string, or opens one with replacement fields. -/
def stringStep (c : Cursor) (s : StringStart) (modes : List Mode) : Step :=
  if s.isFormatted then .found c .opening s.length (.text s :: modes)
  else
    match s.restLength? (c.rest.drop s.length) with
    | some n => .found c .string (s.length + n) modes
    | none => .stop c

/-- Reads on in the text of a formatted string. -/
def textStep (c : Cursor) (s : StringStart) (outer : List Mode) : Step :=
  let modes := .text s :: outer
  if Text.startsWith c.rest s.closing then .found c .closing s.closing.length outer
  else
    match c.rest with
    | '\n' :: _ =>
      if s.isTriple then { cursor := c.next, modes := modes }
      else { cursor := { c with rest := [] }, modes := [] }
    | '{' :: d :: _ =>
      if d = '{' then { cursor := c.skip 2, modes := modes }
      else .found c .opening 1 (.field :: modes)
    | '}' :: d :: _ => if d = '}' then { cursor := c.skip 2, modes := modes } else .stop c
    | _ => { cursor := c.skip (s.unitLength c.rest), modes := modes }

/-- Reads on in the format of a replacement field. -/
def formatStep (c : Cursor) (outer : List Mode) : Step :=
  match c.rest with
  | '{' :: _ => .found c .opening 1 (.field :: .format :: outer)
  | '}' :: _ => .found c .closing 1 (outer.drop 1)
  | _ => { cursor := c.next, modes := .format :: outer }

/-- Marks of a replacement field that are no part of its expression: the conversion, the equals
sign that shows the expression, and the colon before the format. -/
def fieldMark? (c : Cursor) (modes : List Mode) : Option Step :=
  if modes.head? = some .field then
    match c.rest with
    | '}' :: _ => some (.found c .closing 1 (modes.drop 1))
    | ':' :: _ => some { cursor := c.next, modes := .format :: modes }
    | '!' :: d :: rest =>
      if d = '=' then none
      else
        let name := (d :: rest).takeWhile isNameContinue
        some { cursor := c.skip (1 + name.length), modes := modes }
    | '=' :: d :: _ => if d = '=' then none else some { cursor := c.next, modes := modes }
    | _ => none
  else none

/-- Is this a character that only separates tokens? -/
def isSeparator (ch : Char) : Bool :=
  ch == ' ' || ('\t' ≤ ch && ch ≤ '\r') || ch == Char.ofNat 0xFEFF || ch == Char.ofNat 0x2060 ||
    ch == Char.ofNat 0x200B

/-- The length of a line continuation, or zero. -/
def continuationLength : Text → Nat
  | '\\' :: '\n' :: _ => 2
  | '\\' :: '\r' :: '\n' :: _ => 3
  | _ => 0

/-- Reads a name, a number, an operator or a bracket. -/
def wordStep (c : Cursor) (ch : Char) (modes : List Mode) : Step :=
  if isNameStart ch then .found c .name (c.rest.takeWhile isNameContinue).length modes
  else if ch.isDigit || (ch = '.' && (c.rest.drop 1).head?.any Char.isDigit) then
    .found c .number (numberLength c.rest) modes
  else if ch = '(' || ch = '[' || ch = '{' then .found c .opening 1 (.bracket :: modes)
  else if ch = ')' || ch = ']' || ch = '}' then .found c .closing 1 (modes.drop 1)
  else
    match operatorLength c.rest with
    | 0 => .stop c
    | n => .found c .operator n modes

def codeStep (c : Cursor) (ch : Char) (modes : List Mode) : Step :=
  match fieldMark? c modes with
  | some step => step
  | none =>
    if ch = '\n' then
      { tokens := if modes.isEmpty then [c.token .newline 1] else [], cursor := c.indent ch,
        modes := modes }
    else if isSeparator ch then { cursor := c.indent ch, modes := modes }
    else if ch = '#' then
      { cursor := c.skip (c.rest.takeWhile (· ≠ '\n')).length, modes := modes }
    else if ch = '\\' then
      match continuationLength c.rest with
      | 0 => .stop c
      | n => .found c .continuation n modes
    else
      match stringStart? c.rest with
      | some s => stringStep c s modes
      | none => wordStep c ch modes

def step (c : Cursor) (ch : Char) : List Mode → Step
  | .text s :: outer => textStep c s outer
  | .format :: outer => formatStep c outer
  | modes => codeStep c ch modes

/-- The tokens up to a place, in reverse, with those from there on. Every step passes a character,
so that as many steps as there are characters reach the end. -/
def tokensFrom (fuel : Nat) (c : Cursor) (modes : List Mode) (found : List Token) : List Token :=
  match fuel, c.rest with
  | 0, _ => found
  | _, [] => found
  | fuel + 1, ch :: _ =>
    let s := step c ch modes
    tokensFrom fuel s.cursor s.modes (s.tokens.reverse ++ found)

/-- Puts a token before others. A line continuation right before a string or a line end is left
out. -/
def consToken (t : Token) (rest : List Token) : List Token :=
  let isLost := t.kind = .continuation && rest.head?.any fun u =>
    u.startsString || u.kind = .newline
  if isLost then rest else t :: rest

def tokens (source : Text) : List Token :=
  (tokensFrom (source.length + 1) { rest := source } [] []).reverse.foldr consToken []

end Docstring.Python
