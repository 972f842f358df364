-- Tokens of Python source: their kinds, texts and places.
import Docstring.Edit.Span
import Docstring.Text.Basic

namespace Docstring.Python

/-- What a token is. -/
inductive TokenKind where
  /-- A name or a keyword. -/
  | name
  | number
  /-- A whole string literal without replacement fields. -/
  | string
  | operator
  /-- An opening bracket, or the start of a string with replacement fields. -/
  | opening
  /-- A closing bracket, or the end of a string with replacement fields. -/
  | closing
  /-- The end of a logical line. -/
  | newline
  /-- A backslash at the end of a physical line. -/
  | continuation
  /-- Something that no program holds. -/
  | invalid
deriving DecidableEq, Repr

/-- A token with its place. -/
structure Token where
  kind : TokenKind
  text : Text
  span : Span
  /-- The line that it starts on, from one. -/
  line : Nat
  /-- The indentation of the line, for the first token of a line. -/
  column : Nat
deriving DecidableEq, Repr

namespace Token

def isWord (t : Token) (word : String) : Bool := t.kind = .name && t.text = word.toList

def isOperator (t : Token) (text : String) : Bool := t.kind = .operator && t.text = text.toList

def isWordOf (t : Token) (words : List String) : Bool := words.any t.isWord

def isOperatorOf (t : Token) (texts : List String) : Bool := texts.any t.isOperator

def startsString (t : Token) : Bool :=
  let last := t.text.getLast?
  t.kind = .string || (t.kind = .opening && (last = some '"' || last = some '\''))

end Token

def keywords : List String :=
  ["False", "None", "True", "and", "as", "assert", "async", "await", "break", "class", "continue",
    "def", "del", "elif", "else", "except", "finally", "for", "from", "global", "if", "import",
    "in", "is", "lambda", "nonlocal", "not", "or", "pass", "raise", "return", "try", "while",
    "with", "yield"]

def constants : List String := ["False", "None", "True"]

/-- Is this a name that a program may choose? -/
def Token.isIdentifier (t : Token) : Bool := t.kind = .name && !t.isWordOf keywords

end Docstring.Python
