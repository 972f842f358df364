-- The shape of an assigned value, read off its trees.
import Docstring.Python.Expression
import Docstring.Signature

namespace Docstring.Python

/-! ## Literals -/

def numberShape (number : Text) : ValueShape :=
  let number := Text.lower number
  if number.getLast? = some 'j' then .complexLiteral
  else if ["0x", "0o", "0b"].any fun start => Text.startsWith number start.toList then .intLiteral
  else if '.' ∈ number || 'e' ∈ number then .floatLiteral
  else .intLiteral

/-- The shape of a string, which the letters before its quotes decide. -/
def stringShape (string : Text) : ValueShape :=
  let letters := string.takeWhile fun c => c ≠ '"' && c ≠ '\''
  if 'b' ∈ letters || 'B' ∈ letters then .bytesLiteral else .strLiteral

def tokenShape (t : Token) : ValueShape :=
  if t.kind = .number then numberShape t.text
  else if t.kind = .string then stringShape t.text
  else if t.isWordOf ["True", "False"] then .boolLiteral
  else if t.isWord "None" then .noneLiteral
  else if t.isIdentifier then .name
  else .other

/-! ## Calls and attributes -/

def isDottedName : List Tree → Bool
  | [t] => t.isIdentifier
  | t :: dot :: rest => t.isIdentifier && dot.isOperator "." && isDottedName rest
  | [] => false

/-- Takes the attributes off the end of reversed trees: what is left, and the attributes in
order. -/
def stripAttributes : List Tree → List Text → List Tree × List Text
  | .leaf name :: dot :: rest, attributes =>
    if name.kind = .name && dot.isOperator "." then stripAttributes rest (name.text :: attributes)
    else (.leaf name :: dot :: rest, attributes)
  | trees, attributes => (trees, attributes)

/-- Container types that make an empty container when called without arguments. -/
def containerTypes : List Text := ["set".toList, "dict".toList, "list".toList, "tuple".toList]

/-- The shape of names, attributes and calls one after the other. -/
def chainShape (source : Text) (trees : List Tree) : ValueShape :=
  match stripAttributes trees.reverse [] with
  | ([base], _) => if base.isIdentifier then .name else .other
  | (.group opening arguments _ :: reversed, attributes) =>
    let function := reversed.reverse
    if opening.text = "(".toList && isDottedName function then
      let callee := Tree.sourceOf source function
      if arguments.isEmpty && attributes.isEmpty && containerTypes.contains callee then
        .emptyContainer
      else
        .call callee attributes
    else .other
  | _ => .other

/-! ## Expressions -/

/-- Operators that make an operation of their operands. -/
def operationOperators : List String :=
  ["+", "-", "*", "/", "%", "@", "&", "|", "^", "**", "//", "<<", ">>", "<", ">", "<=", ">=",
    "==", "!=", "<>", "~"]

def isOperation (t : Tree) : Bool :=
  t.isOperatorOf operationOperators || t.isWordOf ["and", "or", "not", "in", "is"]

/-- Is this the parameters of a lambda expression? -/
def isLambda : Tree → Bool
  | .leaf _ => false
  | .group opening _ _ => opening.isWord "lambda"

/-- The trees before the body of the first lambda expression. -/
def beforeLambda (trees : List Tree) : List Tree := trees.takeWhile fun t => !isLambda t

/-- The number of a number with a sign. -/
def signedNumber? : List Tree → Option Text
  | [sign, .leaf number] =>
    if sign.isOperatorOf ["-", "+"] && number.kind = .number then some number.text else none
  | _ => none

/-- The shape of a value without a choice, a name given on the way, or a lambda expression at its
start. -/
def operandsShape (source : Text) (trees : List Tree) : ValueShape :=
  match signedNumber? trees, trees with
  | some number, _ => numberShape number
  | none, first :: rest =>
    if first.isOperatorOf ["*", "**"] then .other
    else if (beforeLambda trees).any isOperation then .operation
    else if first.isWord "await" then .other
    else if first.isString && rest.all Tree.isString then stringShape first.first.text
    else chainShape source trees
  | none, [] => .other

/-- The shape of a value that is more than one tree. -/
def compoundShape (source : Text) (trees : List Tree) : ValueShape :=
  let outside := beforeLambda trees
  let isOther := outside.any fun t => t.isWord "if" || t.isOperator ":=" || t.isWord "as"
  if outside.isEmpty || isOther then .other else operandsShape source trees

def hasFor (trees : List Tree) : Bool := trees.any fun t => t.isWord "for"

def hasComma (trees : List Tree) : Bool := trees.any fun t => t.isOperator ","

mutual

def treeShape (source : Text) : Tree → ValueShape
  | .leaf t => tokenShape t
  | .group opening body _ =>
    if opening.startsString then stringShape opening.text
    else if opening.isWord "lambda" then .other
    else if body.isEmpty then .emptyContainer
    else if opening.text = "(".toList then
      if body.head?.any fun t => t.isWord "yield" then .other
      else if hasFor body then .comprehension
      else if hasComma body || body.all Tree.isContinuation then .container
      else if body.head?.any Tree.isContinuation || body.getLast?.any Tree.isContinuation then
        .other
      else shapeOf source body
    else if hasFor body then .comprehension
    else .container

def shapeOf (source : Text) : List Tree → ValueShape
  | [] => .other
  | [t] => treeShape source t
  | t :: u :: rest =>
    let trees := (t :: u :: rest).filter fun t => !t.isContinuation
    if t.isWord "yield" then .other
    else if hasComma trees then .container
    else compoundShape source trees

end

end Docstring.Python
