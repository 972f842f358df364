-- Reading the definitions and assignments of a source text.
import Docstring.Python.Fault
import Docstring.Python.Lexer
import Docstring.Python.Shape
import Docstring.Text.Indent

namespace Docstring.Python

/-! ## Generators -/

/-- Does this end the body of a lambda expression? -/
def endsLambda (t : Tree) : Bool := t.isOperatorOf [",", ":", "="] || t.isWord "for"

mutual

/-- Does a tree hold a `yield` outside lambda expressions? -/
def Tree.hasYield : Tree → Bool
  | .leaf t => t.isWord "yield"
  | .group opening body _ => !opening.isWord "lambda" && Tree.yields false body

/-- Do trees hold a `yield` outside lambda expressions? The flag says whether they start in the
body of one. -/
def Tree.yields (inLambda : Bool) : List Tree → Bool
  | [] => false
  | t :: rest =>
    if isLambda t then Tree.yields true rest
    else if inLambda then Tree.yields (!endsLambda t) rest
    else Tree.hasYield t || Tree.yields false rest

end

mutual

/-- Does a statement yield, outside the definitions in it? -/
def Statement.hasYield : Statement → Bool
  | .simple trees => Tree.yields false trees
  | .clause header body => Tree.yields false header || Statement.yields body
  | .function _ _ | .classDef _ _ => false

def Statement.yields : List Statement → Bool
  | [] => false
  | s :: rest => Statement.hasYield s || Statement.yields rest

end

/-! ## Docstrings -/

def docstringTree? : List Statement → Option Tree
  | .simple [t] :: _ => if t.isString then some t else none
  | .simple [t, comma] :: _ => if t.isString && comma.isOperator "," then some t else none
  | _ => none

/-- The indentation of the line that holds a byte offset, as far as it stands before it. -/
def indentBefore (source : Text) (offset : Nat) : Text :=
  match Text.lineStart? source offset with
  | some start => Text.indentOf ((Text.slice? source start offset).getD [])
  | none => []

def docstringSite? (source : Text) (body : List Statement) : Option DocstringSite :=
  (docstringTree? body).map fun t => ⟨t.span, indentBefore source t.span.first⟩

/-! ## Parameters -/

def trimContinuations (trees : List Tree) : List Tree :=
  ((trees.dropWhile Tree.isContinuation).reverse.dropWhile Tree.isContinuation).reverse

/-- The source of trees, none for no trees. -/
def sourceOf? (source : Text) (trees : List Tree) : Option Text :=
  let trees := trimContinuations trees
  if trees.isEmpty then none else some (Tree.sourceOf source trees)

/-- A parameter of a given kind, from the trees after its stars. -/
def namedParam? (source : Text) (kind : ParamKind) : List Tree → Option ParamFact
  | name :: rest =>
    let isEquals := fun t : Tree => t.isOperator "="
    let typed := rest.takeWhile fun t => !isEquals t
    let default := sourceOf? source ((rest.dropWhile fun t => !isEquals t).drop 1)
    if name.isIdentifier then
      some
        { name := name.first.text
          hint := sourceOf? source (typed.drop 1)
          hasDefault := default.isSome
          default := default
          kind := kind }
    else none
  | [] => none

/-- The parameters so far, in reverse, and whether later ones are passed by keyword only. -/
structure ParamReading where
  found : List ParamFact := []
  isKeywordOnly : Bool := false

namespace ParamReading

def step (source : Text) (r : ParamReading) (trees : List Tree) : ParamReading :=
  let add := fun param : Option ParamFact => { r with found := param.toList ++ r.found }
  match trimContinuations trees with
  | [] => r
  | t :: rest =>
    if t.isOperator "*" then
      { add (namedParam? source .varPositional rest) with isKeywordOnly := true }
    else if t.isOperator "**" then add (namedParam? source .varKeyword rest)
    else
      let kind := if r.isKeywordOnly then ParamKind.keywordOnly else .positional
      add (namedParam? source kind (t :: rest))

end ParamReading

/-- The parameters between the parentheses of a function's header. -/
def paramFacts (source : Text) (trees : List Tree) : List ParamFact :=
  let pieces := Tree.splitBy (fun t => t.isOperator ",") trees
  (pieces.foldl (ParamReading.step source) {}).found.reverse

/-! ## Assignments -/

/-- The parts of an assignment. -/
structure Assignment where
  target : List Tree
  hint : Option (List Tree)
  value : Option (List Tree)
  /-- Is the value assigned to more targets? -/
  isChained : Bool
  isAugmented : Bool

def Assignment.ofTrees? (trees : List Tree) : Option Assignment :=
  let isEquals := fun t : Tree => t.isOperator "="
  let target := trimContinuations (trees.takeWhile fun t => !endsTarget t)
  match trees.dropWhile fun t => !endsTarget t with
  | [] => none
  | sign :: rest =>
    let isTyped := sign.isOperator ":"
    let assigned := if isTyped then (rest.dropWhile fun t => !isEquals t).drop 1 else rest
    let pieces := Tree.splitBy isEquals assigned
    some
      { target := target
        hint := if isTyped then some (rest.takeWhile fun t => !isEquals t) else none
        value := if assigned.isEmpty then none else pieces.getLast?.map trimContinuations
        isChained := 1 < pieces.length
        isAugmented := !isTyped && !isEquals sign }

/-- What is assigned to. -/
inductive TargetKind where
  | name
  /-- An attribute of the instance. -/
  | attribute
  /-- Several targets at once. -/
  | unpacking
deriving DecidableEq, Repr

/-- The kind of a target, none when it is not recorded. Only a method has an instance. -/
def targetKind? (owner : SymbolKind) (target : List Tree) : Option TargetKind :=
  match target.filter fun t => !t.isContinuation with
  | [t] =>
    if t.isIdentifier then some .name
    else if t.isGroup "(" || t.isGroup "[" then some .unpacking
    else none
  | trees =>
    match trees with
    | [object, dot, .leaf name] =>
      if owner = .method && object.isWord "self" && dot.isOperator "." && name.kind = .name then
        some .attribute
      else if hasComma trees then some .unpacking
      else none
    | _ => if hasComma trees then some .unpacking else none

def assignmentScope (owner : SymbolKind) (kind : TargetKind) : AssignmentScope :=
  match kind, owner with
  | .attribute, _ => .attribute
  | _, .module => .module
  | _, .classDef => .classDef
  | _, .function | _, .method => .function

/-- The fact about a simple statement that assigns to something recorded. -/
def assignmentFact? (source : Text) (owner : SymbolKind) (trees : List Tree) :
    Option AssignmentFact :=
  match Assignment.ofTrees? trees with
  | none => none
  | some a =>
    match targetKind? owner a.target with
    | none => none
    | some kind =>
      if kind = .unpacking && a.isAugmented then none
      else
        some
          { target := Tree.sourceOf source a.target
            targetSpan := Tree.spanOf a.target
            scope := assignmentScope owner kind
            hint := a.hint.bind (sourceOf? source)
            value := a.value.bind (sourceOf? source)
            shape := (a.value.map (shapeOf source)).getD .other
            isSimple := kind ≠ .unpacking && !a.isChained && !a.isAugmented
            line := lineOf 1 a.target }

/-! ## Definitions -/

/-- The definition around a statement. -/
structure Owner where
  qualifiedName : Text
  kind : SymbolKind

namespace Owner

/-- The dotted path of a definition. One at the top of a module has no path before its name. -/
def qualify (o : Owner) (name : Text) : Text :=
  if o.kind = .module then name else o.qualifiedName ++ '.' :: name

end Owner

/-- The symbol of a function. Directly in a class it is a method. -/
def functionSymbol (source : Text) (owner : Owner) (head : FunctionHead) (body : List Statement) :
    SymbolFact :=
  { name := head.name
    qualifiedName := owner.qualify head.name
    kind := if owner.kind = .classDef then .method else .function
    parameters := paramFacts source head.parameters
    returnHint := head.result.bind (sourceOf? source)
    isGenerator := Statement.yields body
    isAsync := head.isAsync
    docstring := docstringSite? source body
    line := head.line }

def classSymbol (source : Text) (owner : Owner) (head : ClassHead) (body : List Statement) :
    SymbolFact :=
  { name := head.name
    qualifiedName := owner.qualify head.name
    kind := .classDef
    docstring := docstringSite? source body
    line := head.line }

/-- The name of the symbol that stands for a whole file. -/
def moduleName : Text := "<module>".toList

def moduleSymbol (source : Text) (body : List Statement) : SymbolFact :=
  { name := moduleName, qualifiedName := moduleName, kind := .module,
    docstring := docstringSite? source body }

/-- The owner that a symbol is for the statements in it. -/
def ownerOf (s : SymbolFact) : Owner := ⟨s.qualifiedName, s.kind⟩

/-! ## Facts -/

def joinFacts (a b : FileFacts) : FileFacts :=
  { symbols := a.symbols ++ b.symbols, assignments := a.assignments ++ b.assignments }

/-- A symbol followed by the facts of its body. -/
def consSymbol (s : SymbolFact) (facts : FileFacts) : FileFacts :=
  { facts with symbols := s :: facts.symbols }

mutual

/-- The facts of a statement and of everything in it, in source order. -/
def Statement.facts (source : Text) (owner : Owner) : Statement → FileFacts
  | .simple trees =>
    { symbols := [], assignments := (assignmentFact? source owner.kind trees).toList }
  | .clause _ body => Statement.factsOf source owner body
  | .function head body =>
    let s := functionSymbol source owner head body
    consSymbol s (Statement.factsOf source (ownerOf s) body)
  | .classDef head body =>
    let s := classSymbol source owner head body
    consSymbol s (Statement.factsOf source (ownerOf s) body)

def Statement.factsOf (source : Text) (owner : Owner) : List Statement → FileFacts
  | [] => {}
  | s :: rest => joinFacts (Statement.facts source owner s) (Statement.factsOf source owner rest)

end

/-- A source text that is no program: the line of its first fault. -/
structure Malformed where
  line : Nat
deriving DecidableEq, Repr

/-- What is wrong, in words. -/
def Malformed.message (m : Malformed) : String := "syntax error on line " ++ toString m.line

def scan (source : Text) : Except Malformed FileFacts :=
  let blocks := Block.ofTrees (Tree.build (tokens source))
  match Block.faultOf? {} blocks with
  | some line => .error ⟨line⟩
  | none =>
    let body := Block.statementsOf blocks
    let s := moduleSymbol source body
    .ok (consSymbol s (Statement.factsOf source (ownerOf s) body))

end Docstring.Python
