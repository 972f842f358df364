-- Reading and writing documents in any style. A docstring of the plain style has no sections, only a
-- summary and prose.
import Docstring.Google.Parser
import Docstring.Google.Printer
import Docstring.Numpy.Parser
import Docstring.Numpy.Printer
import Docstring.Rest.Parser
import Docstring.Rest.Printer

namespace Docstring

/-! ## Plain text -/

namespace Plain

/-- Reads a docstring without sections; every text is one. -/
def parse (text : Text) : Document :=
  (Head.cut (fun _ => false) (fun _ => false) (normalLines text)).document .plain

/-- Writes the summary and the prose of a document. -/
def render (d : Document) (width : Nat) : Text := Layout.assemble (Layout.headBlocks d width)

end Plain

/-! ## Any style -/

namespace Style

/-- Reads a docstring that is written in a style. -/
def parse (style : Style) (text : Text) : ParseResult :=
  match style with
  | .rest => Rest.parse text
  | .google => Google.parse text
  | .numpy => Numpy.parse text
  | .plain => .ok (Plain.parse text)

theorem parse_rest (text : Text) : Style.rest.parse text = Rest.parse text := rfl

theorem parse_google (text : Text) : Style.google.parse text = Google.parse text := rfl

theorem parse_numpy (text : Text) : Style.numpy.parse text = Numpy.parse text := rfl

def render (style : Style) (d : Document) (width : Nat) : Text :=
  match style with
  | .rest => Rest.render d width
  | .google => Google.render d width
  | .numpy => Numpy.render d width
  | .plain => Plain.render d width

/-- Writes one section of a document in a style; plain text has none. -/
def sectionLines (style : Style) (d : Document) (kind : SectionKind) (width : Nat) : List Line :=
  match style with
  | .rest => Rest.sectionLines d kind width
  | .google => Google.sectionLines d kind width
  | .numpy => Numpy.sectionLines d kind width
  | .plain => []

end Style

end Docstring
