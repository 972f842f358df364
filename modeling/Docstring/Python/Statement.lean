-- Statements: logical lines nested by their indentation, then cut into headers, bodies and simple
-- statements.
import Docstring.Python.Tree

namespace Docstring.Python

/-! ## Nested lines -/

/-- A logical line with the lines of the block that it opens. -/
inductive Block where
  | mk (line : Tree.LogicalLine) (body : List Block)

namespace Block

def header : Block → Tree.LogicalLine
  | .mk line _ => line

/-- Does a line end in the colon of a header? -/
def opensBody (line : Tree.LogicalLine) : Bool :=
  line.trees.getLast?.any fun t => t.isOperator ":"

/-- Puts a line before the blocks that follow it. A header takes those that are indented
further. -/
def cons (line : Tree.LogicalLine) (blocks : List Block) : List Block :=
  if opensBody line then
    let isInner := fun b : Block => line.indent < b.header.indent
    .mk line (blocks.takeWhile isInner) :: blocks.dropWhile isInner
  else .mk line [] :: blocks

def nest (lines : List Tree.LogicalLine) : List Block := lines.foldr cons []

def ofTrees (trees : List Tree) : List Block := nest (Tree.logicalLines trees)

end Block

/-! ## Headers -/

def headerWords : List String :=
  ["if", "elif", "else", "while", "for", "try", "except", "finally", "with", "def", "class"]

def startsPattern : Tree → Bool
  | .leaf t => t.kind ≠ .operator || t.isOperatorOf ["-", "*"]
  | .group .. => true

/-- The word that makes a line a header. The words `match` and `case` do only where a subject or
a pattern follows. -/
def headerWord? (trees : List Tree) : Option String :=
  match trees with
  | .leaf t :: rest =>
    let next := rest.head?
    if t.isWord "async" then
      ["def", "for", "with"].find? fun word => next.any fun u => u.isWord word
    else
      match headerWords.find? t.isWord with
      | some word => some word
      | none =>
        if t.isWord "match" && next.any startsPattern &&
            rest.getLast?.any (fun u => u.isOperator ":") then some "match"
        else if t.isWord "case" && next.any startsPattern && rest.any (fun u => u.isOperator ":")
        then some "case"
        else none
  | _ => none

/-- Cuts a line at the colon of its header. -/
def cutColon (trees : List Tree) : List Tree × List Tree :=
  let isColon := fun t : Tree => t.isOperator ":"
  (trees.takeWhile fun t => !isColon t, (trees.dropWhile fun t => !isColon t).drop 1)

/-- The part of a header after its first words. -/
def afterWords (header : List Tree) : List Tree :=
  match header with
  | t :: rest => if t.isWord "async" then rest.drop 1 else rest
  | [] => []

/-- The header of a function. -/
structure FunctionHead where
  name : Text
  line : Nat
  isAsync : Bool
  parameters : List Tree
  /-- The trees after the arrow, none without one. -/
  result : Option (List Tree)

def FunctionHead.ofTrees (header : List Tree) : FunctionHead :=
  let rest := afterWords header
  let arrow := rest.dropWhile fun t => !t.isOperator "->"
  { name := (rest.head?.map fun t => t.first.text).getD []
    line := (header.head?.map Tree.line).getD 0
    isAsync := header.head?.any fun t => t.isWord "async"
    parameters := ((rest.find? fun t => t.isGroup "(").map Tree.body).getD []
    result := if arrow.isEmpty then none else some (arrow.drop 1) }

/-- The header of a class. -/
structure ClassHead where
  name : Text
  line : Nat

def ClassHead.ofTrees (header : List Tree) : ClassHead :=
  { name := ((afterWords header).head?.map fun t => t.first.text).getD []
    line := (header.head?.map Tree.line).getD 0 }

/-! ## Statements -/

/-- A statement. The clauses of one compound statement stand one after the other. -/
inductive Statement where
  | simple (trees : List Tree)
  | clause (header : List Tree) (body : List Statement)
  | function (head : FunctionHead) (body : List Statement)
  | classDef (head : ClassHead) (body : List Statement)

namespace Statement

def simples (trees : List Tree) : List Statement :=
  ((Tree.splitBy (fun t => t.isOperator ";") trees).filter fun piece => !piece.isEmpty).map .simple

/-- The statements of a line whose inner lines are already read. -/
def ofLine (trees : List Tree) (inner : List Statement) : List Statement :=
  match headerWord? trees with
  | none => simples trees ++ inner
  | some word =>
    let (header, suite) := cutColon trees
    let body := simples suite ++ inner
    if word = "def" then [.function (.ofTrees header) body]
    else if word = "class" then [.classDef (.ofTrees header) body]
    else [.clause header body]

end Statement

mutual

def Block.statements : Block → List Statement
  | .mk line body => Statement.ofLine line.trees (Block.statementsOf body)

def Block.statementsOf : List Block → List Statement
  | [] => []
  | b :: rest => Block.statements b ++ Block.statementsOf rest

end

end Docstring.Python
