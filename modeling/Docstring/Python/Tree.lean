-- Bracket trees: tokens grouped by brackets, by strings with replacement fields, and by the
-- parameters of lambda expressions.
import Docstring.Python.Token
import Docstring.Text.Offset

namespace Docstring.Python

/-- A token, or a group of trees between two tokens. -/
inductive Tree where
  | leaf (token : Token)
  | group (opening : Token) (body : List Tree) (closing : Token)
deriving Repr

namespace Tree

/-! ## Places -/

def first : Tree → Token
  | .leaf t => t
  | .group opening _ _ => opening

def last : Tree → Token
  | .leaf t => t
  | .group _ _ closing => closing

def line (t : Tree) : Nat := t.first.line

def span (t : Tree) : Span := ⟨t.first.span.first, t.last.span.last⟩

def spanOf (trees : List Tree) : Span :=
  ⟨(trees.head?.map fun t => t.span.first).getD 0, (trees.getLast?.map fun t => t.span.last).getD 0⟩

/-! ## Kinds -/

def isWord (word : String) : Tree → Bool
  | .leaf t => t.isWord word
  | .group .. => false

def isWordOf (words : List String) : Tree → Bool
  | .leaf t => t.isWordOf words
  | .group .. => false

def isOperator (text : String) : Tree → Bool
  | .leaf t => t.isOperator text
  | .group .. => false

def isOperatorOf (texts : List String) : Tree → Bool
  | .leaf t => t.isOperatorOf texts
  | .group .. => false

/-- Is this a name that a program may choose? -/
def isIdentifier : Tree → Bool
  | .leaf t => t.isIdentifier
  | .group .. => false

/-- Is this a group with the given opening? -/
def isGroup (opening : String) : Tree → Bool
  | .leaf _ => false
  | .group o _ _ => o.text = opening.toList

def isString : Tree → Bool
  | .leaf t => t.kind = .string
  | .group o _ _ => o.startsString

def isNumber : Tree → Bool
  | .leaf t => t.kind = .number
  | .group .. => false

def isContinuation : Tree → Bool
  | .leaf t => t.kind = .continuation
  | .group .. => false

def body : Tree → List Tree
  | .leaf _ => []
  | .group _ body _ => body

/-! ## Leaves -/

mutual

/-- The tokens of a tree; a string counts as one. -/
def leaves : Tree → List Token
  | .leaf t => [t]
  | .group opening body closing =>
    if opening.startsString then
      [{ opening with kind := .string, span := ⟨opening.span.first, closing.span.last⟩ }]
    else opening :: leavesOf body ++ [closing]

def leavesOf : List Tree → List Token
  | [] => []
  | t :: rest => leaves t ++ leavesOf rest

end

/-- Is a blank left out between these two tokens? -/
def isTight (before after : Token) : Bool :=
  before.span.last = after.span.first ||
    ["(".toList, "[".toList, "\x7b".toList].contains before.text ||
    [")".toList, "]".toList, "\x7d".toList, ",".toList, ":".toList].contains after.text

def tokenSource (source : Text) (t : Token) : Text :=
  if Text.byteLength t.text = t.span.length then t.text
  else (Text.slice? source t.span.first t.span.last).getD []

/-- Tokens one after the other, with a blank where there was space between them. -/
def joinTokens (source : Text) : List Token → Text
  | [] => []
  | [t] => tokenSource source t
  | t :: u :: rest =>
    tokenSource source t ++ (if isTight t u then [] else [' ']) ++ joinTokens source (u :: rest)

/-- The source of neighbouring trees on one line: as written, or without comments and line breaks
when it runs over several lines. -/
def sourceOf (source : Text) (trees : List Tree) : Text :=
  let span := spanOf trees
  let raw := (Text.slice? source span.first span.last).getD []
  if '\n' ∈ raw then joinTokens source (leavesOf trees) else raw

/-! ## Grouping -/

/-- A group that is not closed yet; the trees in it stand in reverse. -/
structure Frame where
  opening : Token
  body : List Tree

/-- The trees built so far, in reverse, and the open groups, the innermost first. -/
structure Builder where
  done : List Tree := []
  frames : List Frame := []

namespace Builder

/-- Adds a tree to the innermost open group. -/
def add (b : Builder) (t : Tree) : Builder :=
  match b.frames with
  | [] => { b with done := t :: b.done }
  | frame :: outer => { b with frames := { frame with body := t :: frame.body } :: outer }

def open_ (b : Builder) (t : Token) : Builder := { b with frames := ⟨t, []⟩ :: b.frames }

/-- Does a token close a group with this opening? -/
def closes (opening closing : Token) : Bool :=
  if opening.startsString then closing.text.getLast? = opening.text.getLast?
  else
    (opening.text = "(".toList && closing.text = ")".toList) ||
      (opening.text = "[".toList && closing.text = "]".toList) ||
      (opening.text = "\x7b".toList && closing.text = "\x7d".toList) ||
      (opening.isWord "lambda" && closing.isOperator ":")

/-- Marks a token as one that cannot stand where it is. -/
def invalid (t : Token) : Tree := .leaf { t with kind := .invalid }

/-- Closes the innermost group; a token that closes none is invalid. -/
def close (b : Builder) (t : Token) : Builder :=
  match b.frames with
  | [] => b.add (invalid t)
  | frame :: outer =>
    if closes frame.opening t then
      { b with frames := outer }.add (.group frame.opening frame.body.reverse t)
    else b.add (invalid t)

/-- Gives up all open groups: the outermost one was never closed. -/
def giveUp (b : Builder) : Builder :=
  match b.frames.getLast? with
  | some frame => { done := invalid frame.opening :: b.done, frames := [] }
  | none => b

/-- Is the innermost open group the parameters of a lambda expression? -/
def inLambda (b : Builder) : Bool :=
  match b.frames with
  | frame :: _ => frame.opening.isWord "lambda"
  | [] => false

def step (b : Builder) (t : Token) : Builder :=
  match t.kind with
  | .opening => b.open_ t
  | .closing => b.close t
  | .newline => b.giveUp.add (.leaf t)
  | .name => if t.isWord "lambda" then b.open_ t else b.add (.leaf t)
  | .operator => if t.isOperator ":" && b.inLambda then b.close t else b.add (.leaf t)
  | _ => b.add (.leaf t)

end Builder

/-- Groups tokens into trees; line ends stand between them as leaves. -/
def build (tokens : List Token) : List Tree :=
  (tokens.foldl Builder.step {}).giveUp.done.reverse

/-! ## Logical lines -/

/-- A logical line: its indentation and its trees. -/
structure LogicalLine where
  indent : Nat
  trees : List Tree

def splitBy (p : Tree → Bool) : List Tree → List (List Tree)
  | [] => [[]]
  | t :: rest =>
    if p t then [] :: splitBy p rest
    else
      match splitBy p rest with
      | [] => [[t]]
      | piece :: more => (t :: piece) :: more

def isNewline : Tree → Bool
  | .leaf t => t.kind = .newline
  | .group .. => false

/-- The logical lines of a program that are not empty. -/
def logicalLines (trees : List Tree) : List LogicalLine :=
  (splitBy isNewline trees).filterMap fun line =>
    line.head?.map fun t => ⟨t.first.column, line⟩

end Tree

end Docstring.Python
