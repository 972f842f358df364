-- The first place where a source text stops being a program.
import Docstring.Python.Expression
import Docstring.Python.Statement

namespace Docstring.Python

/-! ## Assignment targets -/

/-- Can this tree be part of a name with attributes, subscripts and calls? -/
def isChainPart : Tree → Bool
  | .leaf t => t.kind = .name || t.kind = .string || t.isOperator "." || t.kind = .continuation
  | .group opening _ _ => !opening.isWord "lambda"

def isSingleTarget (trees : List Tree) : Bool :=
  let trees := if trees.head?.any (fun t => t.isOperator "*") then trees.drop 1 else trees
  match trees.filter fun t => !t.isContinuation with
  | [t] => t.isIdentifier || t.isGroup "(" || t.isGroup "["
  | trees =>
    trees.all isChainPart && trees.getLast?.any fun t => t.isGroup "[" || t.first.kind = .name

def isTarget (trees : List Tree) : Bool :=
  ((Tree.splitBy (fun t => t.isOperator ",") trees).filter fun piece => !piece.isEmpty).all
    isSingleTarget

def endsTarget (t : Tree) : Bool := t.isOperatorOf ("=" :: ":" :: Reading.augmentedOperators)

/-- The targets of a statement: what stands before an equals sign, or before the colon of an
annotation. -/
def targets (trees : List Tree) : List (List Tree) :=
  let pieces := Tree.splitBy endsTarget trees
  if (trees.find? endsTarget).any fun t => t.isOperator ":" then pieces.take 1 else pieces.dropLast

/-! ## Simple statements -/

/-- The line of the first tree, or the given line. -/
def lineOf (line : Nat) (trees : List Tree) : Nat := (trees.head?.map Tree.line).getD line

def nothingFault? (trees : List Tree) : Option Nat :=
  (trees.filter fun t => !t.isContinuation).head?.map Tree.line

/-- The fault of an expression that may be left out. -/
def optionalFault? (line : Nat) (trees : List Tree) : Option Nat :=
  if trees.isEmpty then none else faultAt .clause line trees

/-- The fault of `from … import …` after its first word. -/
def importFault? (line : Nat) (trees : List Tree) : Option Nat :=
  let isImport := fun t : Tree => t.isWord "import"
  let origin := trees.takeWhile fun t => !isImport t
  let names := trees.dropWhile fun t => !isImport t
  let afterDots := origin.dropWhile fun t => t.isOperatorOf [".", "..."]
  let originFault :=
    if afterDots.isEmpty && afterDots.length < origin.length then none
    else faultAt .clause line afterDots
  let namesFault :=
    match names with
    | [] => some line
    | [_, star] => if star.isOperator "*" then none else faultAt .clause line [star]
    | _ :: rest => faultAt .clause line rest
  originFault <|> namesFault

/-- The fault of an expression statement or an assignment. -/
def expressionFault? (line : Nat) (trees : List Tree) : Option Nat :=
  faultAt .statement line trees <|>
    if (targets trees).all isTarget then none else some (lineOf line trees)

def simpleFault? (line : Nat) (trees : List Tree) : Option Nat :=
  match trees with
  | .leaf t :: rest =>
    let second := rest.head?
    if t.isWordOf ["pass", "break", "continue"] then nothingFault? rest
    else if t.isWordOf ["import", "global", "nonlocal", "del", "assert"] || t.isOperator "@" then
      faultAt .clause t.line rest
    else if t.isWord "return" then optionalFault? t.line rest
    else if t.isWord "raise" then
      let pieces := Tree.splitBy (fun u => u.isWord "from") rest
      if rest.isEmpty then none else pieces.findSome? (faultAt .clause t.line)
    else if t.isWord "from" then importFault? t.line rest
    else if t.isWord "type" && second.any Tree.isIdentifier then faultAt .statement t.line rest
    else if t.isWordOf ["print", "exec"] &&
        second.any (fun u => u.isIdentifier || u.isNumber || u.isString) then
      faultAt .clause t.line rest
    else expressionFault? line trees
  | _ => expressionFault? line trees

/-- The fault of simple statements on one line. The last semicolon may end the line. -/
def simplesFault? (line : Nat) (trees : List Tree) : Option Nat :=
  let pieces := Tree.splitBy (fun t => t.isOperator ";") trees
  let pieces := if pieces.getLast?.any List.isEmpty then pieces.dropLast else pieces
  pieces.findSome? (simpleFault? line)

/-! ## Headers -/

/-- The fault of the header of a function after its first word. -/
def functionFault? (line : Nat) : List Tree → Option Nat
  | name :: rest =>
    let rest := if rest.head?.any (fun t => t.isGroup "[") then rest.drop 1 else rest
    if !name.isIdentifier then some name.line
    else
      match rest with
      | .group opening body _ :: arrow =>
        let resultFault :=
          match arrow with
          | [] => none
          | t :: result =>
            if t.isOperator "->" then faultAt .clause t.line result else some t.line
        if opening.text = "(".toList then
          faultAt .parameters opening.line body <|> resultFault
        else some opening.line
      | t :: _ => some t.line
      | [] => some line
  | [] => some line

/-- The fault of the header of a class after its first word. -/
def classFault? (line : Nat) : List Tree → Option Nat
  | name :: rest =>
    let rest := if rest.head?.any (fun t => t.isGroup "[") then rest.drop 1 else rest
    if !name.isIdentifier then some name.line
    else
      match rest with
      | [] => none
      | .group opening body _ :: more =>
        if opening.text = "(".toList then
          faultAt .call opening.line body <|> nothingFault? more
        else some opening.line
      | t :: _ => some t.line
  | [] => some line

def headerFault? (word : String) (header : List Tree) : Option Nat :=
  let line := lineOf 1 header
  let rest := afterWords header
  if word = "else" || word = "try" || word = "finally" then nothingFault? rest
  else if word = "def" then functionFault? line rest
  else if word = "class" then classFault? line rest
  else if word = "except" then
    optionalFault? line (if rest.head?.any (fun t => t.isOperator "*") then rest.drop 1 else rest)
  else if word = "case" then
    (Tree.splitBy (fun t => t.isWord "if") rest).findSome? (faultAt .clause line)
  else if word = "for" then
    Tree.fault? { Reading.start .clause line with isTarget := true } rest
  else faultAt .clause line rest

/-! ## Order of clauses -/

/-- What may follow a statement: the words that go on with it, and the line of one that cannot
stay without. -/
structure Sequel where
  words : List String := []
  owed : Option Nat := none

/-- The word that a line starts with, as far as it decides the order of lines. -/
def orderWord (trees : List Tree) : String :=
  match headerWord? trees with
  | some word => word
  | none => if trees.head?.any (fun t => t.isOperator "@") then "@" else ""

namespace Sequel

def after (s : Sequel) (word : String) (line : Nat) : Sequel :=
  if word = "if" || word = "elif" then { words := ["elif", "else"] }
  else if word = "for" || word = "while" then { words := ["else"] }
  else if word = "try" then { words := ["except", "finally"], owed := some line }
  else if word = "except" then { words := ["except", "else", "finally"] }
  else if word = "else" && s.words.contains "finally" then { words := ["finally"] }
  else if word = "@" then { words := ["def", "class", "@"], owed := some line }
  else {}

def fault? (s : Sequel) (word : String) (line : Nat) : Option Nat :=
  if s.words.contains word then none
  else if s.owed.isSome then s.owed
  else if ["elif", "else", "except", "finally"].contains word then some line
  else none

end Sequel

/-! ## The check -/

def lineFault? (trees : List Tree) : Option Nat :=
  let line := lineOf 1 trees
  match headerWord? trees with
  | none => simplesFault? line trees
  | some word =>
    let (header, suite) := cutColon trees
    headerFault? word header <|>
      if header.length = trees.length then some line else simplesFault? line suite

mutual

/-- The fault of a line and of the lines in its body. -/
def Block.fault? : Block → Option Nat
  | .mk line body => lineFault? line.trees <|> Block.faultOf? {} body

/-- The fault of lines that follow each other. -/
def Block.faultOf? (s : Sequel) : List Block → Option Nat
  | [] => s.owed
  | b :: rest =>
    let trees := b.header.trees
    let word := orderWord trees
    let line := lineOf 1 trees
    s.fault? word line <|> Block.fault? b <|> Block.faultOf? (s.after word line) rest

end

end Docstring.Python
