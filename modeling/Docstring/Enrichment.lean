-- Bringing a document in line with the signature of what it documents.
import Docstring.Hint
import Docstring.Options

namespace Docstring

/-- A document with the warnings about where it departs from the signature. -/
structure Enriched where
  document : Document
  warnings : List Diagnostic
deriving DecidableEq, Repr

namespace Enriched

/-! ## Types -/

/-- A documented type after it met an annotation, and a warning if they do not agree. -/
def reconcile (preference : TypesPreference) (documented : Option Text) (hint : Text)
    (what : String) : Option Text × Option Diagnostic :=
  let annotated := hint.asString
  match documented with
  | none =>
    if preference = .reportOnly then
      (none, some ⟨.typeMissing,
        what ++ " has no documented type; annotation is '" ++ annotated ++ "'"⟩)
    else (some hint, none)
  | some type =>
    if Hint.same type hint then (some type, none)
    else if preference = .preferAnnotations then
      (some hint, some ⟨.typeReplaced,
        what ++ " type '" ++ type.asString ++ "' replaced by annotation '" ++ annotated ++ "'"⟩)
    else
      (some type, some ⟨.typeMismatch,
        what ++ " documented as '" ++ type.asString ++ "' but annotated as '" ++ annotated ++ "'"⟩)

/-! ## Parameters -/

/-- Takes the first parameter of a name out of a list. -/
def takeNamed? (name : Text) : List Parameter → Option (Parameter × List Parameter)
  | [] => none
  | p :: rest =>
    if p.name = name then some (p, rest)
    else (takeNamed? name rest).map fun (found, others) => (found, p :: others)

def declaredDefault (fact : ParamFact) : Option Text :=
  if fact.hasDefault then fact.default else none

/-- A documented parameter with what its declaration adds. -/
def matched (preference : TypesPreference) (fact : ParamFact) (p : Parameter) :
    Parameter × List Diagnostic :=
  let (type, warning) :=
    match fact.hint with
    | some hint =>
      reconcile preference p.type hint ("parameter '" ++ fact.name.asString ++ "'")
    | none => (p.type, none)
  ({ p with type := type, kind := fact.kind, default := p.default.or (declaredDefault fact) },
    warning.toList)

/-- The entry of a parameter that the document does not have. -/
def added (preference : TypesPreference) (fact : ParamFact) : Parameter × List Diagnostic :=
  ({ name := fact.name, kind := fact.kind, default := declaredDefault fact,
      type := if preference = .reportOnly then none else fact.hint },
    [⟨.paramUndocumented, "parameter '" ++ fact.name.asString ++ "' is not documented"⟩])

/-- The warning about a documented parameter that is not declared. -/
def stale (p : Parameter) : Diagnostic :=
  ⟨.paramNotInSignature,
    "documented parameter '" ++ p.name.asString ++ "' is not in the signature"⟩

/-- The documented parameters in the order of their declarations; those that are not declared come
last. -/
def reorder (preference : TypesPreference) (documented : List Parameter) :
    List ParamFact → List Parameter × List Diagnostic
  | [] => (documented, documented.map stale)
  | fact :: facts =>
    let (entry, others) :=
      match takeNamed? fact.name documented with
      | some (p, others) => (matched preference fact p, others)
      | none => (added preference fact, documented)
    let (params, warnings) := reorder preference others facts
    (entry.1 :: params, entry.2 ++ warnings)

/-! ## Returns and yields -/

def joinDescriptions : Option Text → Option Text → Option Text
  | some a, some b =>
    if a.isEmpty then some b else if b.isEmpty then some a else some (a ++ '\n' :: b)
  | a, b => a.or b

/-- What is documented as yielded once the documented return is added to it. -/
def mergeYields (yields : Option ReturnDoc) (returns : ReturnDoc) : ReturnDoc :=
  let old := yields.getD {}
  { type := old.type.or returns.type,
    description := joinDescriptions old.description returns.description }

/-- Documents the return of a generator as what it yields. -/
def routeReturns (d : Document) (symbol : SymbolFact) : Document × List Diagnostic :=
  if symbol.isGenerator then
    match d.returns with
    | some returns =>
      if returns.isBlank then (d, [])
      else
        ({ d with returns := none, yields := some (mergeYields d.yields returns) },
          [⟨.returnsMovedToYields,
            "returns of generator '" ++ symbol.name.asString ++ "' moved to yields"⟩])
    | none => (d, [])
  else if d.yields.any fun doc => !doc.isBlank then
    (d, [⟨.yieldsOnNonGenerator,
      "'" ++ symbol.name.asString ++ "' documents yields but is not a generator"⟩])
  else (d, [])

/-- A documented value with the annotated type, if the section exists. -/
def fillType (preference : TypesPreference) (doc : Option ReturnDoc) (hint : Text)
    (what : String) : Option ReturnDoc × List Diagnostic :=
  match doc with
  | some doc =>
    let (type, warning) := reconcile preference doc.type hint what
    (some { doc with type := type }, warning.toList)
  | none => (none, [])

/-- Fills in the type of the returned or yielded value. -/
def fillReturnType (preference : TypesPreference) (d : Document) (symbol : SymbolFact) :
    Document × List Diagnostic :=
  match symbol.returnHint with
  | none => (d, [])
  | some hint =>
    if Hint.isNoValue hint then (d, [])
    else if symbol.isGenerator then
      let (yields, warnings) :=
        fillType preference d.yields (Hint.yieldType hint) "yields"
      ({ d with yields := yields }, warnings)
    else
      let (returns, warnings) := fillType preference d.returns hint "returns"
      ({ d with returns := returns }, warnings)

end Enriched

/-- Brings a document in line with a signature: parameters in the declared order, none missing,
types and defaults filled in, a generator's return documented as yielded. Only callables have a
signature. -/
def enrich (d : Document) (symbol : SymbolFact) (preference : TypesPreference) : Enriched :=
  if symbol.kind.isCallable then
    let (params, paramWarnings) :=
      Enriched.reorder preference d.parameters symbol.documentedParams
    let (routed, routeWarnings) :=
      Enriched.routeReturns { d with parameters := params } symbol
    let (filled, typeWarnings) := Enriched.fillReturnType preference routed symbol
    let warnings := paramWarnings ++ routeWarnings ++ typeWarnings
    ⟨filled.warnAll warnings, warnings⟩
  else ⟨d, []⟩

end Docstring
