-- Glob patterns for file names: reading a pattern, and matching the bytes of a path against it.

namespace Docstring

/-! ## Patterns -/

/-- A piece of a glob pattern. -/
inductive GlobPiece where
  | literal (char : Char)
  /-- Any one byte. -/
  | any
  /-- Any bytes, also none. -/
  | anyRun
  /-- Directories at the start, also none. -/
  | leadingDirs
  /-- Everything in a directory. -/
  | contents
  /-- Directories between two others, also none. -/
  | innerDirs
  /-- One byte of a class, or outside it. -/
  | byteIn (negated : Bool) (ranges : List (Char × Char))
  /-- One of several patterns. -/
  | oneOf (branches : List (List GlobPiece))

/-- A glob pattern. -/
abbrev Glob := List GlobPiece

namespace Glob

/-! ## Reading -/

/-- A class whose closing bracket has not come yet. -/
structure OpenClass where
  negated : Bool := false
  /-- Was nothing read yet? -/
  isFresh : Bool := true
  /-- Was nothing but the negation read yet? -/
  isEmpty : Bool := true
  /-- Was the last character a hyphen that makes a range? -/
  inRange : Bool := false
  /-- The ranges so far, the last one first. -/
  ranges : List (Char × Char) := []
deriving Repr

namespace OpenClass

/-- Closes the last range with its upper end, which must not be below the lower one. -/
def closeRange (k : OpenClass) (upper : Char) : Option OpenClass :=
  match k.ranges with
  | (lower, _) :: rest =>
    if upper < lower then none
    else some { k with inRange := false, ranges := (lower, upper) :: rest }
  | [] => none

def add (k : OpenClass) (c : Char) : OpenClass :=
  { k with isFresh := false, isEmpty := false, ranges := (c, c) :: k.ranges }

/-- Reads a character that does not close the class. -/
def step (k : OpenClass) (c : Char) : Option OpenClass :=
  if k.isFresh && (c = '!' || c = '^') then some { k with negated := true, isFresh := false }
  else if k.inRange then k.closeRange c
  else if c = '-' && !k.isEmpty then some { k with inRange := true }
  else some (k.add c)

/-- The class at its closing bracket. A hyphen right before it stands for itself. -/
def finish (k : OpenClass) : GlobPiece :=
  let k := if k.inRange then k.add '-' else k
  .byteIn k.negated k.ranges.reverse

end OpenClass

/-- An open choice: what came before it, and its finished branches, all in reverse. -/
structure OpenChoice where
  before : List GlobPiece
  branches : List (List GlobPiece)

/-- What the last character left open. -/
inductive Pending where
  | nothing
  /-- A backslash. -/
  | escape
  /-- A class. -/
  | bracket (k : OpenClass)
  /-- One star. -/
  | star
  /-- Two stars. -/
  | stars

/-- A pattern that is being read; pieces stand in reverse. -/
structure Reading where
  pieces : List GlobPiece := []
  choices : List OpenChoice := []
  pending : Pending := .nothing
  /-- The character before what is pending. -/
  last : Option Char := none

namespace Reading

def push (r : Reading) (piece : GlobPiece) (last : Char) : Reading :=
  { r with
    pieces := piece :: r.pieces
    pending := .nothing
    last := some last }

def openChoice (r : Reading) : Reading :=
  { pieces := [], choices := ⟨r.pieces, []⟩ :: r.choices, last := some '{' }

/-- Closes a choice; none when there is none. -/
def closeChoice (r : Reading) : Option Reading :=
  match r.choices with
  | choice :: outer =>
    let branches := (r.pieces.reverse :: choice.branches).reverse
    some { pieces := .oneOf branches :: choice.before, choices := outer, last := some '}' }
  | [] => none

/-- A comma, which parts the branches of a choice. -/
def comma (r : Reading) : Reading :=
  match r.choices with
  | choice :: outer =>
    { pieces := [], choices := ⟨choice.before, r.pieces.reverse :: choice.branches⟩ :: outer,
      last := some ',' }
  | [] => r.push (.literal ',') ','

/-! ### Two stars -/

/-- Can two stars stand for whole directories here? -/
def startsDirs (r : Reading) : Bool :=
  r.last = some '/' || (!r.choices.isEmpty && (r.last = some ',' || r.last = some '{'))

/-- Puts directories in place of the slash before them. -/
def directories (r : Reading) (piece : GlobPiece) (last : Char) : Reading :=
  let pieces :=
    match r.pieces with
    | .leadingDirs :: rest => .leadingDirs :: rest
    | .contents :: rest => .contents :: rest
    | _ :: rest => piece :: rest
    | [] => [piece]
  { r with
    pieces := pieces
    pending := .nothing
    last := some last }

/-- Two stars that are no more than two stars. -/
def twoRuns (r : Reading) : Reading := (r.push .anyRun '*').push .anyRun '*'

/-- Two stars before a slash that they take with them; none when they do not. -/
def starsBeforeSlash (r : Reading) : Option Reading :=
  if r.pieces.isEmpty then some (r.push .leadingDirs '/')
  else if r.startsDirs then some (r.directories .innerDirs '/')
  else none

/-- Two stars at the end of a pattern. -/
def starsAtEnd (r : Reading) : Reading :=
  if r.pieces.isEmpty then r.push .leadingDirs '*'
  else if r.startsDirs then r.directories .contents '*'
  else r.twoRuns

def starsBefore (r : Reading) (next : Char) : Reading :=
  let endsBranch := !r.choices.isEmpty && (next = ',' || next = '}')
  if !r.pieces.isEmpty && r.startsDirs && endsBranch then r.directories .contents '*'
  else r.twoRuns

/-! ### Characters -/

/-- Reads a character with nothing pending. -/
def plain (r : Reading) (c : Char) : Option Reading :=
  if c = '?' then some (r.push .any c)
  else if c = '*' then some { r with pending := .star }
  else if c = '[' then some { r with pending := .bracket {} }
  else if c = '{' then some r.openChoice
  else if c = '}' then r.closeChoice
  else if c = ',' then some r.comma
  else if c = '\\' then some { r with pending := .escape }
  else some (r.push (.literal c) c)

def step (r : Reading) (c : Char) : Option Reading :=
  match r.pending with
  | .nothing => r.plain c
  | .escape => some (r.push (.literal c) c)
  | .bracket k =>
    if c = ']' && !k.isEmpty then some (r.push k.finish c)
    else (k.step c).map fun next => { r with pending := .bracket next }
  | .star =>
    if c = '*' then some { r with pending := .stars } else (r.push .anyRun '*').plain c
  | .stars =>
    match if c = '/' then r.starsBeforeSlash else none with
    | some next => some next
    | none => (r.starsBefore c).plain c

/-- The pattern at its end; none when something is still open. -/
def finish (r : Reading) : Option Glob :=
  if !r.choices.isEmpty then none
  else
    match r.pending with
    | .nothing => some r.pieces.reverse
    | .escape | .bracket _ => none
    | .star => some (r.push .anyRun '*').pieces.reverse
    | .stars => some r.starsAtEnd.pieces.reverse

end Reading

/-- Reads a pattern; none when a bracket is not closed or not opened, a range is reversed, or an
escape has nothing after it. -/
def parse? (pattern : List Char) : Option Glob := do
  let r ← pattern.foldlM Reading.step {}
  r.finish

/-! ## Matching -/

def bytesOf (c : Char) : List UInt8 := (String.singleton c).toUTF8.toList

/-- The byte ranges of a range of characters. -/
def byteRanges (lower upper : Char) : List (UInt8 × UInt8) :=
  if lower = upper then (bytesOf lower).map fun b => (b, b)
  else
    let low := bytesOf lower
    let high := bytesOf upper
    (low.dropLast ++ high.drop 1).map (fun b => (b, b)) ++
      [(low.getLast?.getD 0, high.head?.getD 0)]

/-- Is a byte in one of the ranges? -/
def inRanges (ranges : List (Char × Char)) (b : UInt8) : Bool :=
  ranges.any fun range =>
    (byteRanges range.1 range.2).any fun bytes => bytes.1 ≤ b && b ≤ bytes.2

def dropBytes? : List UInt8 → List UInt8 → Option (List UInt8)
  | [], path => some path
  | b :: start, c :: path => if b = c then dropBytes? start path else none
  | _ :: _, [] => none

def slash : UInt8 := 47

/-- Every suffix of a path, the path itself included. -/
def suffixes : List UInt8 → List (List UInt8)
  | [] => [[]]
  | b :: path => (b :: path) :: suffixes path

/-- The suffixes that come right after a slash. -/
def afterSlashes : List UInt8 → List (List UInt8)
  | [] => []
  | b :: path => if b = slash then path :: afterSlashes path else afterSlashes path

/-- Rests of one path, each once: of two rests of the same length one is left out. -/
def distinct (rests : List (List UInt8)) : List (List UInt8) :=
  rests.foldr
    (fun rest kept =>
      if kept.any fun k => k.length = rest.length then kept else rest :: kept)
    []

mutual

/-- Is there nothing to match? -/
def isVoid : List GlobPiece → Bool
  | [] => true
  | piece :: rest => isVoidPiece piece && isVoid rest

/-- Is there nothing to match in a piece? -/
def isVoidPiece : GlobPiece → Bool
  | .oneOf branches => areVoid branches
  | _ => false

/-- Is there nothing to match in any branch? -/
def areVoid : List (List GlobPiece) → Bool
  | [] => true
  | branch :: rest => isVoid branch && areVoid rest

end

mutual

/-- What a piece can leave of a path. -/
def pieceRests (path : List UInt8) : GlobPiece → List (List UInt8)
  | .literal c => (dropBytes? (bytesOf c) path).toList
  | .any => path.tail?.toList
  | .anyRun => suffixes path
  | .leadingDirs =>
    (if path.head? = some slash then [path.drop 1] else []) ++ path :: afterSlashes path
  | .contents => if path.head? = some slash then suffixes (path.drop 1) else []
  | .innerDirs => if path.head? = some slash then path.drop 1 :: afterSlashes (path.drop 1) else []
  | .byteIn negated ranges =>
    match path with
    | b :: rest => if inRanges ranges b != negated then [rest] else []
    | [] => []
  | .oneOf branches => if areVoid branches then [path] else branchRests path branches

/-- What the branches of a choice can leave of a path. An empty branch is none. -/
def branchRests (path : List UInt8) : List (List GlobPiece) → List (List UInt8)
  | [] => []
  | branch :: rest =>
    (if isVoid branch then [] else rests [path] branch) ++ branchRests path rest

/-- What pieces one after the other can leave of some paths. -/
def rests (paths : List (List UInt8)) : List GlobPiece → List (List UInt8)
  | [] => paths
  | piece :: rest => rests (distinct (paths.flatMap fun path => pieceRests path piece)) rest

end

/-- Does a pattern match a whole path? Two stars alone match every path. -/
def isMatch (glob : Glob) (path : String) : Bool :=
  match glob with
  | [.leadingDirs] => true
  | glob => (rests [path.toUTF8.toList] glob).any List.isEmpty

end Glob

end Docstring
