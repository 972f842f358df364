-- The docstring styles and their names.
import Docstring.Text.Basic

namespace Docstring

/-- A convention for writing docstrings. -/
inductive Style where
  /-- Field lists in reStructuredText. -/
  | rest
  /-- Indented sections under a header with a colon. -/
  | google
  /-- Sections under an underlined header. -/
  | numpy
  /-- A summary and prose, without sections. -/
  | plain
deriving DecidableEq, Repr

namespace Style

def name : Style → String
  | .rest => "rest"
  | .google => "google"
  | .numpy => "numpy"
  | .plain => "plain"

/-- The styles with sections, in the order that breaks ties between them. -/
def structured : List Style := [.rest, .google, .numpy]

def all : List Style := [.rest, .google, .numpy, .plain]

def ofName? (text : Text) : Option Style := all.find? fun style => style.name.toList = text

def aliases : List (String × Style) :=
  [("sphinx", .rest), ("restructuredtext", .rest), ("numpydoc", .numpy)]

/-- Reads a style name in any case, with white space around it, or one of its other spellings. -/
def parse? (text : Text) : Option Style :=
  let key := Text.lower (Text.trim text)
  match ofName? key with
  | some style => some style
  | none => (aliases.find? fun entry => entry.1.toList = key).map Prod.snd

/-- What is said about a name that stands for no style. -/
def unknownMessage (given : Text) : String :=
  "unknown docstring style '" ++ given.asString ++ "' (expected rest, google, numpy or plain)"

end Style

/-- Where the style of a docstring comes from. -/
inductive StyleSource where
  /-- The detector decides. -/
  | auto
  /-- The caller says so. -/
  | named (style : Style)
deriving DecidableEq, Repr

namespace StyleSource

def name : StyleSource → String
  | .auto => "auto"
  | .named style => style.name

/-- Reads `auto` in any case, or the name of a style. -/
def parse? (text : Text) : Option StyleSource :=
  if Text.lower text = "auto".toList then some .auto else (Style.parse? text).map .named

end StyleSource

end Docstring
