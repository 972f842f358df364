-- Which style a docstring is written in: counting the lines that only one style has.
import Docstring.Google.Header
import Docstring.Normal
import Docstring.Number.Binary64
import Docstring.Numpy.Header
import Docstring.Rest.Marker

namespace Docstring

/-! ## Signature lines -/

def argumentFields : List String :=
  ["param", "parameter", "arg", "argument", "key", "keyword", "type"]

def bareFields : List String := ["returns", "return", "rtype", "yields", "yield", "ytype"]

def raiseFields : List String := ["raises", "raise", "except", "exception"]

/-- Is this the content of a field that only field lists have? -/
def isFieldContent (content : Text) : Bool :=
  if Rest.isOneOf content bareFields || Rest.isOneOf content raiseFields then true
  else
    match Text.cutAt? isSpace content with
    | some (keyword, argument) =>
      !argument.isEmpty &&
        (Rest.isOneOf keyword argumentFields || Rest.isOneOf keyword raiseFields)
    | none => false

/-- A field of a field list: its name and argument between colons, then white space or nothing. -/
def isFieldLine : Line → Bool
  | ':' :: rest =>
    match Text.cutAt? (· == ':') rest with
    | some (content, after) => isFieldContent content && (after.head?.map isSpace).getD true
    | none => false
  | _ => false

/-- A Google-style header with something indented right below it. -/
def isGoogleSignature (line : Line) (next : Option Line) : Bool :=
  match Google.header? line, next with
  | some (.opens _ _), some below => !Text.isBlank below && 0 < Text.indentWidth below
  | _, _ => false

/-- A NumPy-style title with an underline below it. -/
def isNumpySignature (line : Line) (next : Option Line) : Bool :=
  match next with
  | some below =>
    Text.indentWidth line = 0 && (Numpy.header? (Text.trim line) below).isSome
  | none => false

/-- Is this line, with the one below it, a signature of a style? -/
def isSignature (style : Style) (line : Line) (next : Option Line) : Bool :=
  match style with
  | .rest => isFieldLine (Text.trimStart line)
  | .google => isGoogleSignature line next
  | .numpy => isNumpySignature line next
  | .plain => false

/-- The number of signature lines of a style. -/
def countSignatures (style : Style) : List Line → Nat
  | [] => 0
  | line :: rest =>
    (if isSignature style line rest.head? then 1 else 0) + countSignatures style rest

/-! ## Confidence -/

/-- The weight of a signature line. Two clean ones pass the default floor and one does not. -/
def signatureWeight : Nat := 4

/-- A natural number as double precision holds it. -/
def roundedNat (n : Nat) : Nat :=
  if n < Nat.pow 2 53 then n
  else
    let unit := Nat.pow 2 (n.log2 - 52)
    Binary64.roundQuotient n unit * unit

/-- The share of a style's signature lines in all evidence, `4m / (4m + 4c + 1)` for `m` lines of
the style and `c` lines of others. -/
def confidence (matched conflicting : Nat) : Binary64 :=
  if matched = 0 then .zero
  else
    let m := signatureWeight * roundedNat matched
    let c := signatureWeight * roundedNat conflicting
    .ofQuotient false m (roundedNat (roundedNat (m + c) + 1))

/-- The evidence for one style. -/
structure StyleScore where
  style : Style
  matched : Nat
  conflicting : Nat
  confidence : Binary64
deriving DecidableEq, Repr

/-- What the detector found. -/
structure Detection where
  style : Style
  confidence : Binary64
  reasons : List String
  scores : List StyleScore
deriving DecidableEq, Repr

namespace Detection

/-- Has more than one style left signature lines? -/
def hasConflicts (d : Detection) : Bool := 1 < (d.scores.filter fun s => 0 < s.matched).length

/-- What is found in text without any signature line. -/
def plain : Detection :=
  { style := .plain
    confidence := .one
    reasons := ["no structured signature lines"]
    scores := [] }

/-- The better of two scores; the first one on a tie. -/
def better (best next : StyleScore) : StyleScore :=
  if Binary64.less best.confidence next.confidence then next else best

/-- A count with a noun that has an `s` unless the count is one. -/
def counted (n : Nat) (noun : String) : String :=
  Nat.repr n ++ " " ++ noun ++ (if n = 1 then "" else "s")

def scoreReason (s : StyleScore) : String :=
  s.style.name ++ ": " ++ counted s.matched "signature line"

def reasonsOf (scores : List StyleScore) (best : StyleScore) : List String :=
  ((scores.filter fun s => 0 < s.matched).map scoreReason) ++
    (if 0 < best.conflicting then
        ["conflict penalty: " ++ counted best.conflicting "line" ++ " from other styles"]
      else [])

/-- The scores of the structured styles on lines in normal form. -/
def scoresOf (lines : List Line) : List StyleScore :=
  let counts := Style.structured.map fun style => (style, countSignatures style lines)
  let total := counts.foldl (fun total count => total + count.2) 0
  counts.map fun (style, matched) =>
    { style := style, matched := matched, conflicting := total - matched,
      confidence := Docstring.confidence matched (total - matched) }

def ofText (text : Text) : Detection :=
  match scoresOf (normalLines text) with
  | [] => plain
  | first :: rest =>
    if (first :: rest).all fun s => s.matched = 0 then plain
    else
      let best := rest.foldl better first
      { style := best.style, confidence := best.confidence,
        reasons := reasonsOf (first :: rest) best, scores := first :: rest }

end Detection

end Docstring
