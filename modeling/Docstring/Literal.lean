-- Docstring literals: taking them apart, and rebuilding them around a new body with the same
-- layout.
import Docstring.Normal
import Docstring.Signature
import Docstring.Text.Offset

namespace Docstring

/-- The quotes around a string literal. -/
inductive Quote where
  | tripleDouble
  | tripleSingle
  | double
  | single
deriving DecidableEq, Repr

namespace Quote

/-- The character that a quote is made of. -/
def char : Quote → Char
  | .tripleDouble | .double => '"'
  | .tripleSingle | .single => '\''

def isTriple : Quote → Bool
  | .tripleDouble | .tripleSingle => true
  | .double | .single => false

def text (q : Quote) : Text := List.replicate (if q.isTriple then 3 else 1) q.char

/-- Every quote, the longer ones first. -/
def all : List Quote := [.tripleDouble, .tripleSingle, .double, .single]

end Quote

/-- A docstring literal, with how its body was laid out. -/
structure Literal where
  /-- The letters before the quotes, as written. -/
  letters : Text
  quote : Quote
  /-- The body as written. -/
  raw : Text
  /-- The indentation of the lines of the body. -/
  margin : Text
  /-- The indentation of the statement that holds the literal. -/
  siteIndent : Text
deriving DecidableEq, Repr

namespace Literal

/-! ## Reading -/

def unquote? (t : Text) : Option (Quote × Text) :=
  match Quote.all.find? fun q => Text.startsWith t q.text with
  | none => none
  | some q =>
    let size := q.text.length
    if t.length < 2 * size || !Text.endsWith t q.text then none
    else some (q, (t.drop size).take (t.length - 2 * size))

/-- The indentation of a body's lines: that of the first line at the margin, or the margin in
spaces when no line stands there. -/
def marginOf (lines : List Line) (siteIndent : Text) : Text :=
  match bodyMargin? lines with
  | none => siteIndent
  | some width =>
    match (lines.drop 1).find? fun l => !Text.isBlank l && Text.indentWidth l = width with
    | some line => Text.indentOf line
    | none => Text.spaces width

/-- Letters that may stand before the quotes of a plain string. -/
def isLiteralLetter (c : Char) : Bool := c == 'r' || c == 'R' || c == 'u' || c == 'U'

/-- Takes a plain string literal apart; bytes and formatted strings are none. -/
def ofText? (t : Text) (siteIndent : Text) : Option Literal :=
  let letters := t.takeWhile Char.isAlpha
  if letters.length > 2 || !letters.all isLiteralLetter then none
  else
    (unquote? (t.dropWhile Char.isAlpha)).map fun (quote, raw) =>
      { letters := letters, quote := quote, raw := raw,
        margin := marginOf (Text.splitLines raw) siteIndent, siteIndent := siteIndent }

/-- Reads the literal at a site of a source text. -/
def ofSource? (source : Text) (site : DocstringSite) : Option Literal :=
  (Text.slice? source site.span.first site.span.last).bind fun t => ofText? t site.indent

/-! ## Layout -/

def body (l : Literal) : Text := normalText l.raw

def rawLines (l : Literal) : List Line := Text.splitLines l.raw

/-- Does the body start on the line below the opening quotes? -/
def startsBelow (l : Literal) : Bool :=
  1 < l.rawLines.length && (l.rawLines.head?.map Text.isBlank).getD false

/-- Do the closing quotes stand on a line of their own? -/
def closesBelow (l : Literal) : Bool :=
  1 < l.rawLines.length && (l.rawLines.getLast?.map Text.isBlank).getD false

/-- The indentation of closing quotes on a line of their own. -/
def closingIndent (l : Literal) : Text := if l.closesBelow then l.rawLines.getLast?.getD [] else []

/-- The number of lines as written before the first line in normal form. -/
def lead (l : Literal) : Nat := (l.rawLines.takeWhile Text.isBlank).length

def marginWidth (l : Literal) : Nat := Text.indentWidth l.margin

/-! ## Rebuilding -/

/-- Can a body stand between these quotes without ending the literal early? -/
def isSafe (l : Literal) (t : Text) : Bool :=
  !Text.contains t l.quote.text && t.getLast? != some '\\' &&
    (l.quote.isTriple || !('\n' ∈ t || l.quote.char ∈ t))

/-- A line behind the margin; an empty one stays empty. -/
def marginLine (l : Literal) (line : Line) : Line := if line.isEmpty then [] else l.margin ++ line

/-- The lines of a new body as they are written. -/
def layoutLines (l : Literal) (lines : List Line) : List Line :=
  match lines with
  | [] => []
  | first :: rest =>
    (if l.startsBelow then [[], l.marginLine first] else [first]) ++ rest.map l.marginLine

def enclose (l : Literal) (raw : Text) : Text := l.letters ++ l.quote.text ++ raw ++ l.quote.text

/-- The literal with a new body in normal form, laid out as before. None when the body would not
survive between the quotes. -/
def wrap? (l : Literal) (newBody : Text) : Option Text :=
  if !l.isSafe newBody then none
  else
    let raw := Text.joinLines (l.layoutLines (Text.splitLines newBody))
    if l.closesBelow then some (l.enclose (raw ++ '\n' :: l.closingIndent))
    else if '\n' ∈ newBody && !('\n' ∈ l.raw) then
      some (l.enclose (raw ++ '\n' :: l.siteIndent))
    else if newBody.getLast? = some l.quote.char then none
    else some (l.enclose raw)

/-- The literal with the lines from `first` up to `last` of its normal form replaced and everything
else as written. None when the lines do not exist or would not survive. -/
def splice? (l : Literal) (first last : Nat) (newLines : List Line) : Option Text :=
  let lines := l.rawLines
  let rawFirst := first + l.lead
  let rawLast := last + l.lead
  if first > last || rawLast > lines.length || (rawFirst = 0 && !l.startsBelow && first < last) then
    none
  else if !l.isSafe (Text.joinLines newLines) then none
  else
    let raw := Text.joinLines
      (lines.take rawFirst ++ newLines.map l.marginLine ++ lines.drop rawLast)
    if !l.closesBelow && raw.getLast? = some l.quote.char then none
    else some (l.enclose raw)

end Literal

end Docstring
