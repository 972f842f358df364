-- The sections of a docstring: their kinds, their fixed order, the titles that open them in the Google
-- and NumPy styles, and the lines they take up.
import Docstring.Text.Basic

namespace Docstring

/-- What a section documents. -/
inductive SectionKind where
  | params
  | returns
  | yields
  | raises
  | examples
  | notes
  | warnings
  | seeAlso
  | references
deriving DecidableEq, Repr

namespace SectionKind

def order : List SectionKind :=
  [.params, .returns, .yields, .raises, .examples, .notes, .warnings, .seeAlso, .references]

def rank : SectionKind → Nat
  | .params => 0
  | .returns => 1
  | .yields => 2
  | .raises => 3
  | .examples => 4
  | .notes => 5
  | .warnings => 6
  | .seeAlso => 7
  | .references => 8

def name : SectionKind → String
  | .params => "params"
  | .returns => "returns"
  | .yields => "yields"
  | .raises => "raises"
  | .examples => "examples"
  | .notes => "notes"
  | .warnings => "warnings"
  | .seeAlso => "see_also"
  | .references => "references"

def ofName? (name : String) : Option SectionKind := order.find? fun kind => kind.name = name

/-- The sections that hold nothing but prose. -/
def isFreeText : SectionKind → Bool
  | .notes | .warnings | .seeAlso | .references => true
  | _ => false

/-- The titles of sections and what they stand for, in their exact spelling. -/
def titles : List (String × SectionKind) :=
  [("Args", .params), ("Arguments", .params), ("Parameters", .params), ("Params", .params),
    ("Keyword Args", .params), ("Keyword Arguments", .params), ("Returns", .returns),
    ("Return", .returns), ("Yields", .yields), ("Yield", .yields), ("Raises", .raises),
    ("Examples", .examples), ("Example", .examples), ("Notes", .notes), ("Note", .notes),
    ("Warnings", .warnings), ("Warning", .warnings), ("See Also", .seeAlso),
    ("References", .references)]

def ofTitle? (title : Text) : Option SectionKind :=
  (titles.find? fun entry => entry.1.toList = title).map Prod.snd

end SectionKind

/-- The lines of a section within the normalised text: from `first` up to, but not including,
`last`. -/
structure SectionSpan where
  kind : SectionKind
  first : Nat
  last : Nat
deriving DecidableEq, Repr

end Docstring
