-- The choices that conversions and fixers are given.
import Docstring.Signature

namespace Docstring

/-! ## Conversion -/

/-- What happens when a documented type and an annotation meet. -/
inductive TypesPreference where
  /-- Missing types are filled in and differing ones replaced. -/
  | preferAnnotations
  /-- Missing types are filled in and differing ones kept. -/
  | preferDocstring
  /-- Nothing is written. -/
  | reportOnly
deriving DecidableEq, Repr

namespace TypesPreference

def name : TypesPreference → String
  | .preferAnnotations => "prefer-annotations"
  | .preferDocstring => "prefer-docstring"
  | .reportOnly => "report-only"

def all : List TypesPreference := [.preferAnnotations, .preferDocstring, .reportOnly]

def ofName? (name : String) : Option TypesPreference := all.find? fun p => p.name = name

end TypesPreference

/-- Which definitions are looked at. -/
inductive Scope where
  | function
  | classDef
  | module
  | all
deriving DecidableEq, Repr

namespace Scope

def name : Scope → String
  | .function => "function"
  | .classDef => "class"
  | .module => "module"
  | .all => "all"

def every : List Scope := [.function, .classDef, .module, .all]

def ofName? (name : String) : Option Scope := every.find? fun scope => scope.name = name

/-- Is a symbol of this kind looked at? -/
def includes : Scope → SymbolKind → Bool
  | .all, _ => true
  | .function, kind => kind.isCallable
  | .classDef, kind => kind = .classDef
  | .module, kind => kind = .module

end Scope

/-- The width that docstrings are written to when nothing else is asked for. -/
def defaultWidth : Nat := 88

/-- How docstrings are converted. -/
structure ConvertOptions where
  /-- The least confidence that is trusted: 0.85 when nothing else is asked for. -/
  minConfidence : Binary64 := .ofDecimal false 85 (-2)
  types : TypesPreference := .preferDocstring
  /-- Goes on in spite of low confidence and of text that does not parse. -/
  unsafeMode : Bool := false
  /-- The width of a line, the indentation of the literal included. -/
  maxLineWidth : Nat := defaultWidth
  scope : Scope := .all
deriving DecidableEq, Repr

/-! ## Annotations -/

/-- Which assignments the annotation checker and fixer look at. -/
structure AnnotationScopes where
  moduleLevel : Bool := true
  classAttributes : Bool := true
  localVariables : Bool := false
  instanceAttributes : Bool := false
deriving DecidableEq, Repr

def AnnotationScopes.includes (scopes : AnnotationScopes) : AssignmentScope → Bool
  | .module => scopes.moduleLevel
  | .classDef => scopes.classAttributes
  | .function => scopes.localVariables
  | .attribute => scopes.instanceAttributes

end Docstring
