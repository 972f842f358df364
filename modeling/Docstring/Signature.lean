-- What source code says about its definitions and assignments.
import Docstring.Document.Basic
import Docstring.Edit.Span

namespace Docstring

/-! ## Definitions -/

/-- What a docstring can belong to. -/
inductive SymbolKind where
  | module
  | classDef
  | function
  | method
deriving DecidableEq, Repr

namespace SymbolKind

def name : SymbolKind → String
  | .module => "module"
  | .classDef => "class"
  | .function => "function"
  | .method => "method"

def isCallable : SymbolKind → Bool
  | .function | .method => true
  | .module | .classDef => false

def all : List SymbolKind := [.module, .classDef, .function, .method]

def ofName? (name : String) : Option SymbolKind := all.find? fun kind => kind.name = name

end SymbolKind

/-- A declared parameter. -/
structure ParamFact where
  name : Text
  hint : Option Text := none
  hasDefault : Bool := false
  default : Option Text := none
  kind : ParamKind := .positional
deriving DecidableEq, Repr

/-- Where the string literal of a docstring stands, and how its statement is indented. -/
structure DocstringSite where
  span : Span
  indent : Text
deriving DecidableEq, Repr

/-- A module, class, function or method. -/
structure SymbolFact where
  name : Text
  /-- The dotted path within the module. -/
  qualifiedName : Text
  kind : SymbolKind
  parameters : List ParamFact := []
  returnHint : Option Text := none
  isGenerator : Bool := false
  isAsync : Bool := false
  docstring : Option DocstringSite := none
  /-- The line of the definition, from one. -/
  line : Nat := 1
deriving DecidableEq, Repr

namespace SymbolFact

/-- The names of the parameter that a method gets implicitly. -/
def receiverNames : List Text :=
  ["self".toList, "cls".toList, "mcs".toList, "metacls".toList]

/-- Is this the implicit first parameter of a method? -/
def isReceiver (p : ParamFact) : Bool := p.kind = .positional && p.name ∈ receiverNames

/-- The parameters that a docstring is expected to document: all but a method's receiver. -/
def documentedParams (s : SymbolFact) : List ParamFact :=
  match s.kind, s.parameters with
  | .method, first :: rest => if isReceiver first then rest else first :: rest
  | _, params => params

end SymbolFact

/-! ## Assignments -/

/-- Where an assignment stands. -/
inductive AssignmentScope where
  | module
  | classDef
  | function
  | attribute
deriving DecidableEq, Repr

namespace AssignmentScope

def name : AssignmentScope → String
  | .module => "module"
  | .classDef => "class"
  | .function => "function"
  | .attribute => "instance"

def all : List AssignmentScope := [.module, .classDef, .function, .attribute]

def ofName? (name : String) : Option AssignmentScope := all.find? fun scope => scope.name = name

end AssignmentScope

/-- What an assigned value looks like. -/
inductive ValueShape where
  | intLiteral
  | floatLiteral
  | strLiteral
  | bytesLiteral
  | boolLiteral
  | noneLiteral
  | complexLiteral
  /-- An empty display, or a call of a container type without arguments. -/
  | emptyContainer
  | container
  | comprehension
  /-- A call of a dotted name, and the attributes taken from its result. -/
  | call (callee : Text) (attributes : List Text)
  /-- Arithmetic, boolean and comparison operators. -/
  | operation
  | name
  | other
deriving DecidableEq, Repr

def ValueShape.label : ValueShape → String
  | .intLiteral => "int literal"
  | .floatLiteral => "float literal"
  | .strLiteral => "str literal"
  | .bytesLiteral => "bytes literal"
  | .boolLiteral => "bool literal"
  | .noneLiteral => "None"
  | .complexLiteral => "complex literal"
  | .emptyContainer => "empty container"
  | .container => "container display"
  | .comprehension => "comprehension"
  | .call _ _ => "call"
  | .operation => "expression"
  | .name => "name reference"
  | .other => "complex expression"

def ValueShape.tag : ValueShape → String
  | .intLiteral => "int_literal"
  | .floatLiteral => "float_literal"
  | .strLiteral => "str_literal"
  | .bytesLiteral => "bytes_literal"
  | .boolLiteral => "bool_literal"
  | .noneLiteral => "none_literal"
  | .complexLiteral => "complex_literal"
  | .emptyContainer => "empty_container"
  | .container => "container"
  | .comprehension => "comprehension"
  | .call _ _ => "call"
  | .operation => "operation"
  | .name => "name"
  | .other => "other"

/-- An assignment statement. -/
structure AssignmentFact where
  target : Text
  targetSpan : Span
  scope : AssignmentScope
  hint : Option Text := none
  /-- The value as written; a bare declaration has none. -/
  value : Option Text := none
  shape : ValueShape := .other
  /-- One target, without unpacking, chaining or an augmented operator. -/
  isSimple : Bool
  /-- The line of the statement, from one. -/
  line : Nat
deriving DecidableEq, Repr

/-- Everything known about one file, in source order, the module first. -/
structure FileFacts where
  symbols : List SymbolFact := []
  assignments : List AssignmentFact := []
deriving DecidableEq, Repr

def FileFacts.symbol? (facts : FileFacts) (qualifiedName : Text) : Option SymbolFact :=
  facts.symbols.find? fun s => s.qualifiedName = qualifiedName

end Docstring
