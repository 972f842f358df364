-- Documents: what a docstring says, independent of the style that it is written in.
import Docstring.Diagnostic
import Docstring.Document.Section
import Docstring.Number.Binary64
import Docstring.Style

namespace Docstring

/-! ## Parameters -/

/-- How a parameter binds arguments. -/
inductive ParamKind where
  | positional
  | keywordOnly
  | varPositional
  | varKeyword
deriving DecidableEq, Repr

namespace ParamKind

/-- The stars before the name of a parameter. -/
def stars : ParamKind → Text
  | .positional => []
  | .keywordOnly => []
  | .varPositional => ['*']
  | .varKeyword => ['*', '*']

def name : ParamKind → String
  | .positional => "positional"
  | .keywordOnly => "keyword_only"
  | .varPositional => "var_positional"
  | .varKeyword => "var_keyword"

def all : List ParamKind := [.positional, .keywordOnly, .varPositional, .varKeyword]

def ofName? (name : String) : Option ParamKind := all.find? fun kind => kind.name = name

/-- Splits the stars off a documented name; backslashes and white space around it are dropped. -/
def splitName (raw : Text) : ParamKind × Text :=
  match (Text.trim raw).filter (· ≠ '\\') with
  | '*' :: '*' :: name => (.varKeyword, name)
  | '*' :: name => (.varPositional, name)
  | name => (.positional, name)

end ParamKind

/-- A documented parameter. -/
structure Parameter where
  /-- The name without stars. -/
  name : Text
  type : Option Text := none
  default : Option Text := none
  description : Option Text := none
  kind : ParamKind := .positional
deriving DecidableEq, Repr

namespace Parameter

def display (p : Parameter) : Text := p.kind.stars ++ p.name

/-- Joins a later description to an earlier one. -/
def joinDescription : Option Text → Option Text → Option Text
  | none, later => later
  | some earlier, none => some earlier
  | some earlier, some later =>
    if later.isEmpty then some earlier else some (earlier ++ '\n' :: later)

/-- Fills the gaps of a parameter from a later entry for the same name. -/
def merge (old new : Parameter) : Parameter where
  name := old.name
  type := old.type.or new.type
  default := old.default.or new.default
  description := joinDescription old.description new.description
  kind := if old.kind = .positional then new.kind else old.kind

end Parameter

/-! ## Other parts -/

/-- What a docstring says about the value that is returned or yielded. -/
structure ReturnDoc where
  type : Option Text := none
  /-- An empty description stands for a section that was opened and left empty. -/
  description : Option Text := none
deriving DecidableEq, Repr

namespace ReturnDoc

/-- A section that was opened and left empty. -/
def opened : ReturnDoc := { description := some [] }

def isBlank (doc : ReturnDoc) : Bool :=
  doc.type.isNone && (doc.description.getD []).all isSpace

end ReturnDoc

/-- A documented exception. -/
structure RaiseEntry where
  exception : Text
  description : Option Text := none
deriving DecidableEq, Repr

/-! ## Documents -/

/-- What was noticed while a document was read; no style writes it. -/
structure Metadata where
  style : Option Style := none
  confidence : Option Binary64 := none
  warnings : List Diagnostic := []
  sections : List SectionSpan := []
deriving DecidableEq, Repr

/-- The content of a docstring. Only `examples` keep their text untouched in every style. -/
structure Document where
  summary : Text := []
  extended : Option Text := none
  parameters : List Parameter := []
  returns : Option ReturnDoc := none
  yields : Option ReturnDoc := none
  raises : List RaiseEntry := []
  examples : List Text := []
  notes : List Text := []
  warnings : List Text := []
  seeAlso : List Text := []
  references : List Text := []
  metadata : Metadata := {}
deriving DecidableEq, Repr

namespace Document

/-! ## Looking up -/

def parameter? (d : Document) (name : Text) : Option Parameter :=
  d.parameters.find? fun p => p.name = name

def sectionSpan? (d : Document) (kind : SectionKind) : Option SectionSpan :=
  d.metadata.sections.find? fun span => span.kind = kind

def freeTexts (d : Document) : SectionKind → List Text
  | .notes => d.notes
  | .warnings => d.warnings
  | .seeAlso => d.seeAlso
  | .references => d.references
  | _ => []

/-- Nothing beyond the summary and the extended description. -/
def isProse (d : Document) : Bool :=
  d.parameters.isEmpty && d.returns.isNone && d.yields.isNone && d.raises.isEmpty &&
    d.examples.isEmpty && d.notes.isEmpty && d.warnings.isEmpty && d.seeAlso.isEmpty &&
    d.references.isEmpty

/-! ## Changing -/

/-- Replaces the first parameter of a given name. -/
def updateFirst (name : Text) (f : Parameter → Parameter) : List Parameter → List Parameter
  | [] => []
  | p :: rest => if p.name = name then f p :: rest else p :: updateFirst name f rest

/-- Adds a parameter at the end, or fills the gaps of the one that has its name. -/
def insertParameter (params : List Parameter) (p : Parameter) : List Parameter :=
  if params.any (fun q => q.name = p.name) then updateFirst p.name (fun q => q.merge p) params
  else params ++ [p]

/-- Adds a parameter; the flag says whether its name is new. -/
def pushParameter (d : Document) (p : Parameter) : Document × Bool :=
  ({ d with parameters := insertParameter d.parameters p }, (d.parameter? p.name).isNone)

def modifyParameter (d : Document) (name : Text) (f : Parameter → Parameter) : Document :=
  { d with parameters := updateFirst name f d.parameters }

def warn (d : Document) (w : Diagnostic) : Document :=
  { d with metadata.warnings := d.metadata.warnings ++ [w] }

def warnAll (d : Document) (ws : List Diagnostic) : Document :=
  { d with metadata.warnings := d.metadata.warnings ++ ws }

def recordSection (d : Document) (span : SectionSpan) : Document :=
  { d with metadata.sections := d.metadata.sections ++ [span] }

/-- Adds a text to a free-text section; other sections take none. -/
def addFreeText (d : Document) (text : Text) : SectionKind → Document
  | .notes => { d with notes := d.notes ++ [text] }
  | .warnings => { d with warnings := d.warnings ++ [text] }
  | .seeAlso => { d with seeAlso := d.seeAlso ++ [text] }
  | .references => { d with references := d.references ++ [text] }
  | _ => d

end Document

end Docstring
