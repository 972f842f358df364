-- Which trees can make up an expression. The check reads the trees from left to right and knows
-- at each point whether an operand or an operator comes next; it finds the first token that
-- cannot stand where it does.
import Docstring.Python.Tree

namespace Docstring.Python

/-! ## Where an expression stands -/

/-- What an expression is part of, which decides the marks that it may hold. -/
inductive Place where
  /-- A statement of its own, where assignments are allowed. -/
  | statement
  /-- A part of a statement. -/
  | clause
  /-- Parentheses and square brackets around an operand. -/
  | display
  /-- Braces around a set or a dictionary. -/
  | braces
  /-- The arguments of a call. -/
  | call
  /-- The brackets of a subscript. -/
  | subscript
  /-- The parameters of a function. -/
  | parameters
  /-- The text of a string with replacement fields. -/
  | text
  /-- A replacement field. -/
  | field
deriving DecidableEq, Repr

namespace Place

/-- May there be nothing at all? -/
def allowsNothing : Place → Bool
  | .display | .braces | .call | .parameters | .text => true
  | .statement | .clause | .subscript | .field => false

def allowsFor : Place → Bool
  | .display | .braces | .call => true
  | _ => false

end Place

/-! ## What comes next -/

/-- What may come next. -/
inductive Awaited where
  /-- An operand must follow. -/
  | operand
  /-- An operand, or the end. -/
  | operandOrEnd
  /-- An operand, the end, or what ends a list of targets. -/
  | afterComma
  /-- An operand, the end, or the next item of a subscript. -/
  | bound
  /-- An operand, `from` before one, or the end. -/
  | yielded
  /-- A parameter, or the end. -/
  | parameter
  /-- The name after a star, or the next parameter. -/
  | starred
  /-- What can follow the name of a parameter. -/
  | afterName
  /-- What can follow an operand. -/
  | operator
  /-- The name after a dot. -/
  | attribute
  /-- The given word, and an operand after it. -/
  | word (text : String)
  /-- A replacement field, or the end. -/
  | fields
deriving DecidableEq, Repr

/-- The part of an expression that has been read. -/
structure Reading where
  place : Place
  awaited : Awaited
  /-- The line of the last token. -/
  line : Nat
  /-- Conditions whose `else` has not come yet. -/
  conditions : Nat := 0
  /-- Was there a `for`? -/
  isComprehension : Bool := false
  /-- Has the `in` of the last `for` not come yet? -/
  isTarget : Bool := false
  /-- Was there an annotation or an assignment in this statement? -/
  isAssigned : Bool := false
  /-- Was the last operand a string? -/
  isString : Bool := false
deriving Repr

namespace Reading

def start (place : Place) (line : Nat) : Reading :=
  let awaited : Awaited :=
    match place with
    | .parameters => .parameter
    | .text => .fields
    | place => if place.allowsNothing then .operandOrEnd else .operand
  { place := place, awaited := awaited, line := line }

def await (r : Reading) (awaited : Awaited) : Reading :=
  { r with awaited := awaited, isString := false }

/-- Do all conditions have their `else`, and all targets their `in`? -/
def isSettled (r : Reading) : Bool := (r.conditions = 0 || r.isComprehension) && !r.isTarget

def mayEnd (r : Reading) : Bool :=
  r.isSettled &&
    match r.awaited with
    | .operandOrEnd | .afterComma | .bound | .yielded | .parameter | .starred | .afterName
    | .operator | .fields => true
    | .operand | .attribute | .word _ => false

/-! ## Single tokens -/

def binaryOperators : List String :=
  ["+", "-", "*", "/", "%", "@", "&", "|", "^", "**", "//", "<<", ">>", "<", ">", "<=", ">=",
    "==", "!=", "<>", ":="]

def augmentedOperators : List String :=
  ["+=", "-=", "*=", "/=", "%=", "@=", "&=", "|=", "^=", "**=", "//=", "<<=", ">>="]

def operandToken (r : Reading) (t : Token) : Option Reading :=
  if t.isIdentifier || t.kind = .number || t.isWordOf constants || t.isOperator "..." then
    some (r.await .operator)
  else if t.kind = .string then some { r.await .operator with isString := true }
  else if t.isOperatorOf ["-", "+", "~", "*", "**"] || t.isWordOf ["not", "await"] then
    some (r.await .operand)
  else if t.isWord "yield" then some (r.await .yielded)
  else if t.isOperator ":" && r.place = .subscript then some (r.await .bound)
  else none

def comma (r : Reading) : Option Reading :=
  match r.place with
  | .parameters => some (r.await .parameter)
  | .subscript => some (r.await .bound)
  | _ =>
    if r.isSettled || r.isTarget then some (r.await .afterComma) else none

def colon (r : Reading) : Option Reading :=
  match r.place with
  | .subscript => some (r.await .bound)
  | .braces => some (r.await .operand)
  | .statement => if r.isAssigned then none else some { r.await .operand with isAssigned := true }
  | _ => none

def equals (r : Reading) : Option Reading :=
  match r.place with
  | .call | .parameters => some (r.await .operand)
  | .statement => some { r.await .operand with isAssigned := true }
  | _ => none

def operatorWord (r : Reading) (t : Token) : Option Reading :=
  if t.isWordOf ["and", "or", "is", "as"] then some (r.await .operand)
  else if t.isWord "in" then some { r.await .operand with isTarget := false }
  else if t.isWord "not" then some (r.await (.word "in"))
  else if t.isWord "if" then some { r.await .operand with conditions := r.conditions + 1 }
  else if t.isWord "else" then
    if r.conditions = 0 then none
    else some { r.await .operand with conditions := r.conditions - 1 }
  else if t.isWord "for" && r.place.allowsFor && r.isSettled then
    some { r.await .operand with isComprehension := true, isTarget := true }
  else if t.isWord "async" && r.place.allowsFor then some (r.await (.word "for"))
  else none

def operatorToken (r : Reading) (t : Token) : Option Reading :=
  if t.kind = .name then operatorWord r t
  else if t.kind = .string then if r.isString then some r else none
  else if t.isOperatorOf binaryOperators then some (r.await .operand)
  else if t.isOperator "." then some (r.await .attribute)
  else if t.isOperator "," then r.comma
  else if t.isOperator ":" then r.colon
  else if t.isOperator "=" then r.equals
  else if t.isOperatorOf augmentedOperators && r.place = .statement && !r.isAssigned then
    some { r.await .operand with isAssigned := true }
  else none

/-- A token after a comma. A list of targets may end with one. -/
def commaToken (r : Reading) (t : Token) : Option Reading :=
  let endsTargets :=
    if r.place = .statement then t.isOperatorOf ("=" :: ":" :: augmentedOperators)
    else r.isTarget && t.isWord "in"
  if endsTargets then r.operatorToken t else r.operandToken t

def parameterToken (r : Reading) (t : Token) : Option Reading :=
  if t.isIdentifier then some (r.await .afterName)
  else if t.isOperator "/" then some (r.await .afterName)
  else if t.isOperator "*" then some (r.await .starred)
  else if t.isOperator "**" then some (r.await .starred)
  else none

/-- A token after the name of a parameter. -/
def afterNameToken (r : Reading) (t : Token) : Option Reading :=
  if t.isOperatorOf [":", "="] then some (r.await .operand)
  else if t.isOperator "," then some (r.await .parameter)
  else none

/-- Reads one token; none when it cannot stand here. -/
def token (r : Reading) (t : Token) : Option Reading :=
  let r := { r with line := t.line }
  if t.kind = .continuation then some r
  else if t.kind = .invalid then none
  else
    match r.awaited with
    | .operand | .operandOrEnd => r.operandToken t
    | .afterComma => r.commaToken t
    | .bound => if t.isOperator "," then some r else r.operandToken t
    | .yielded => if t.isWord "from" then some (r.await .operand) else r.operandToken t
    | .parameter => r.parameterToken t
    | .starred =>
      if t.isIdentifier then some (r.await .afterName)
      else if t.isOperator "," then some (r.await .parameter)
      else none
    | .afterName => r.afterNameToken t
    | .operator => r.operatorToken t
    | .attribute => if t.kind = .name then some (r.await .operator) else none
    | .word text =>
      if t.isWord text then
        let isFor := text = "for"
        some
          { r.await .operand with
            isComprehension := r.isComprehension || isFor
            isTarget := isFor }
      else none
    | .fields => none

/-! ## Groups -/

/-- A group where an operand is due: how its inside is read, and how to go on. -/
def operandGroup (r : Reading) (opening : Token) : Option (Place × Reading) :=
  if opening.startsString then some (.text, { r.await .operator with isString := true })
  else if opening.isWord "lambda" then some (.parameters, r.await .operand)
  else if opening.text = "\x7b".toList then some (.braces, r.await .operator)
  else some (.display, r.await .operator)

def operatorGroup (r : Reading) (opening : Token) : Option (Place × Reading) :=
  if opening.startsString then if r.isString then some (.text, r) else none
  else if opening.isWord "lambda" then none
  else if opening.text = "(".toList then some (.call, r.await .operator)
  else if opening.text = "[".toList then some (.subscript, r.await .operator)
  else if r.place = .field then some (.field, r)
  else none

/-- Reads the opening of a group; none when it cannot stand here. -/
def group (r : Reading) (opening : Token) : Option (Place × Reading) :=
  let r := { r with line := opening.line }
  match r.awaited with
  | .operand | .operandOrEnd | .afterComma | .bound | .yielded => r.operandGroup opening
  | .operator => r.operatorGroup opening
  | .parameter => if opening.text = "(".toList then some (.display, r.await .afterName) else none
  | .fields => some (.field, r)
  | _ => none

end Reading

/-! ## The check -/

mutual

/-- Reads one tree. The result is the line of the first token that cannot stand where it does, or
how to go on. -/
def Tree.read (r : Reading) : Tree → Except Nat Reading
  | .leaf t =>
    match r.token t with
    | some next => .ok next
    | none => .error t.line
  | .group opening body closing =>
    match r.group opening with
    | some (place, next) =>
      match Tree.fault? (.start place opening.line) body with
      | some line => .error line
      | none => .ok { next with line := closing.line }
    | none => .error opening.line

/-- The line of the first token that cannot stand where it does. -/
def Tree.fault? (r : Reading) : List Tree → Option Nat
  | [] => if r.mayEnd then none else some r.line
  | t :: rest =>
    match Tree.read r t with
    | .ok next => Tree.fault? next rest
    | .error line => some line

end

/-- The fault of trees that stand at a place, the line before them being given. -/
def faultAt (place : Place) (line : Nat) (trees : List Tree) : Option Nat :=
  Tree.fault? (.start place line) trees

end Docstring.Python
