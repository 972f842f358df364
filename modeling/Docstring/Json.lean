-- JSON values and their indented text.
import Docstring.Number.Decimal

namespace Docstring

/-- A JSON value. The fields of an object stand in the order in which they are written. -/
inductive Json where
  | null
  | bool (value : Bool)
  | integer (value : Int)
  | number (value : Binary64)
  | text (value : String)
  | array (items : List Json)
  | object (fields : List (String × Json))
deriving Repr, Inhabited

namespace Json

/-! ## Building objects -/

def natural (n : Nat) : Json := .integer n

/-- A field that is left out without a value. -/
def field? (name : String) (value : Option Json) : List (String × Json) :=
  value.toList.map fun v => (name, v)

/-- A list that is left out when it is empty. -/
def items? (name : String) (items : List Json) : List (String × Json) :=
  if items.isEmpty then [] else [(name, .array items)]

/-! ## Text -/

def hexDigit (n : Nat) : Char := Nat.digitChar (n % 16)

/-- A character as it stands between quotes. Only quotes, backslashes and control characters below
the space are escaped. -/
def escape (c : Char) : String :=
  if c = '"' then "\\\""
  else if c = '\\' then "\\\\"
  else if c = '\n' then "\\n"
  else if c = '\r' then "\\r"
  else if c = '\t' then "\\t"
  else if c.toNat = 8 then "\\b"
  else if c.toNat = 12 then "\\f"
  else if c.toNat < 32 then "\\u00" ++ String.ofList [hexDigit (c.toNat / 16), hexDigit c.toNat]
  else String.ofList [c]

def quoted (t : String) : String := "\"" ++ String.join (t.toList.map escape) ++ "\""

/-- A line break and the indentation of a level. -/
def lineBreak (level : Nat) : String := "\n" ++ String.ofList (List.replicate (2 * level) ' ')

/-- Items between brackets, each on a line of its own; none at all stay on one line. -/
def enclosed (opening closing : String) (level : Nat) (items : List String) : String :=
  if items.isEmpty then opening ++ closing
  else
    opening ++ lineBreak (level + 1) ++ ("," ++ lineBreak (level + 1)).intercalate items ++
      lineBreak level ++ closing

mutual

/-- The text of a value that stands at an indentation level. -/
def pretty (level : Nat) : Json → String
  | .null => "null"
  | .bool value => if value then "true" else "false"
  | .integer value => toString value
  | .number value => value.jsonText
  | .text value => quoted value
  | .array items => enclosed "[" "]" level (prettyItems (level + 1) items)
  | .object fields => enclosed "\x7b" "\x7d" level (prettyFields (level + 1) fields)

def prettyItems (level : Nat) : List Json → List String
  | [] => []
  | item :: rest => pretty level item :: prettyItems level rest

def prettyFields (level : Nat) : List (String × Json) → List String
  | [] => []
  | field :: rest => prettyField level field :: prettyFields level rest

def prettyField (level : Nat) : String × Json → String
  | (name, value) => quoted name ++ ": " ++ pretty level value

end

/-- A whole document: the indented text and a line end. -/
def document (value : Json) : String := value.pretty 0 ++ "\n"

end Json

end Docstring
