-- Settings, and reading them from configuration files.
import Docstring.Options
import Docstring.Style
import Docstring.Toml.Document

namespace Docstring

/-- The settings of a run. -/
structure Config where
  /-- The style to convert to when none is given. -/
  target : Option Style := none
  /-- The style in which a return type is added to prose. -/
  returnStyle : Style := .rest
  /-- Patterns of files to leave out of directories, besides the usual ones. -/
  exclude : List Text := []
  convert : ConvertOptions := {}
  annotations : AnnotationScopes := {}
deriving DecidableEq, Repr

namespace Config

/-! ## Single settings -/

/-- Reads a setting with a reader for its value. A missing one keeps its default; a value that the
reader refuses makes the whole file invalid. -/
def setting? {α : Type} (entries : Toml.Entries) (key : String) (default : α)
    (read : Toml → Option α) : Option α :=
  match entries.get? key.toList with
  | some value => read value
  | none => some default

def bool? : Toml → Option Bool
  | .bool value => some value
  | _ => none

/-- A number; a whole one will do. -/
def number? : Toml → Option Binary64
  | .float value => some value
  | .integer value => some (.ofQuotient (value < 0) value.natAbs 1)
  | _ => none

def natural? : Toml → Option Nat
  | .integer (.ofNat n) => some n
  | _ => none

def text? : Toml → Option Text
  | .text value => some value
  | _ => none

def texts? : Toml → Option (List Text)
  | .array items => items.mapM text?
  | _ => none

def style? (value : Toml) : Option Style := (text? value).bind Style.ofName?

def named? {α : Type} (ofName? : String → Option α) (value : Toml) : Option α :=
  (text? value).bind fun name => ofName? name.asString

/-! ## Tables -/

def entries? : Toml → Option Toml.Entries
  | .table _ entries => some entries
  | _ => none

/-- Reads the scopes of annotations. -/
def scopes? (value : Toml) : Option AnnotationScopes := do
  let entries ← entries? value
  let base : AnnotationScopes := {}
  return {
    moduleLevel := ← setting? entries "module_level" base.moduleLevel bool?
    classAttributes := ← setting? entries "class_attributes" base.classAttributes bool?
    localVariables := ← setting? entries "local_variables" base.localVariables bool?
    instanceAttributes := ← setting? entries "instance_attributes" base.instanceAttributes bool? }

def options? (entries : Toml.Entries) : Option ConvertOptions := do
  let base : ConvertOptions := {}
  return {
    minConfidence := ← setting? entries "min_confidence" base.minConfidence number?
    types := ← setting? entries "types_preference" base.types (named? TypesPreference.ofName?)
    unsafeMode := ← setting? entries "unsafe_mode" base.unsafeMode bool?
    maxLineWidth := ← setting? entries "max_line_width" base.maxLineWidth natural?
    scope := ← setting? entries "scope" base.scope (named? Scope.ofName?) }

/-- Reads all settings of a table; keys that are no settings are passed over. -/
def ofEntries? (entries : Toml.Entries) : Option Config := do
  let base : Config := {}
  return {
    target := ← setting? entries "target_style" base.target fun v => (style? v).map some
    returnStyle := ← setting? entries "rtype_default_style" base.returnStyle style?
    exclude := ← setting? entries "exclude" base.exclude texts?
    convert := ← options? entries
    annotations := ← setting? entries "annotations" base.annotations scopes? }

/-! ## Files -/

/-- The name of a file that holds nothing but settings. -/
def fileName : Text := "docshift.toml".toList

/-- The name of a project file, which may hold settings in a table. -/
def projectFileName : Text := "pyproject.toml".toList

def ofText? (t : Text) : Option Config := (Toml.parse? t).bind ofEntries?

/-- Reads a project file; none inside when it has no table of settings. -/
def ofProjectText? (t : Text) : Option (Option Config) := do
  let entries ← Toml.parse? t
  match entries.get? "tool".toList with
  | none => return none
  | some tool =>
    match (← entries? tool).get? "docshift".toList with
    | none => return none
    | some table => return some (← ofEntries? (← entries? table))

end Config

end Docstring
