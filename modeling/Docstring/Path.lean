-- Names of files: their parts, their order, and going from one directory to another.
import Docstring.Text.Basic

namespace Docstring

/-- The name of a file or a directory as it is written. -/
abbrev Path := Text

namespace Path

/-! ## Parts -/

def segments (p : Path) : List Text :=
  p.foldr
    (fun c pieces =>
      if c = '/' then [] :: pieces
      else
        match pieces with
        | [] => [[c]]
        | piece :: rest => (c :: piece) :: rest)
    [[]]

def isAbsolute (p : Path) : Bool := p.head? = some '/'

/-- The directory itself, as a segment. -/
def here : Text := ".".toList

/-- The directory above, as a segment. -/
def above : Text := "..".toList

/-- A part of a path. -/
inductive Part where
  | root
  | here
  | above
  | name (text : Text)
deriving DecidableEq, Repr

/-- The part that a segment stands for; empty ones stand for nothing. -/
def partOf? (segment : Text) : Option Part :=
  if segment.isEmpty || segment = here then none
  else if segment = above then some .above
  else some (.name segment)

/-- The parts of a path. Repeated slashes, one at the end, and dots on the way do not count; a dot
at the start does. -/
def parts (p : Path) : List Part :=
  let names := (segments p).filterMap partOf?
  if isAbsolute p then .root :: names
  else if (segments p).head? = some here then .here :: names
  else names

/-- The name at the end of a path. -/
def lastName? (p : Path) : Option Text :=
  match (parts p).getLast? with
  | some (.name text) => some text
  | _ => none

/-- Does the name end in a dot and the given letters, with something before them? -/
def hasExtension (name extension : Text) : Bool :=
  match Text.cutAtLast? (· == '.') name with
  | some (stem, last) => !stem.isEmpty && last = extension
  | none => false

/-! ## Order -/

def compareText : Text → Text → Ordering
  | [], [] => .eq
  | [], _ :: _ => .lt
  | _ :: _, [] => .gt
  | c :: s, d :: t => if c = d then compareText s t else compare c.toNat d.toNat

def Part.rank : Part → Nat
  | .root => 0
  | .here => 1
  | .above => 2
  | .name _ => 3

def Part.compare : Part → Part → Ordering
  | .name s, .name t => compareText s t
  | a, b => Ord.compare a.rank b.rank

def compareParts : List Part → List Part → Ordering
  | [], [] => .eq
  | [], _ :: _ => .lt
  | _ :: _, [] => .gt
  | a :: p, b :: q => (a.compare b).then (compareParts p q)

/-- Does a path come before another, or have the same parts? -/
def atMost (p q : Path) : Bool := compareParts (parts p) (parts q) != .gt

def same (p q : Path) : Bool := parts p = parts q

/-- Leaves out a path that has the same parts as the one before it. -/
def dedup : List Path → List Path
  | [] => []
  | p :: rest =>
    match dedup rest with
    | [] => [p]
    | q :: more => if same p q then p :: more else p :: q :: more

/-- Paths in order, each once, in the spelling that came first. -/
def sorted (paths : List Path) : List Path := dedup (paths.mergeSort atMost)

/-! ## Directories -/

def join (directory name : Path) : Path :=
  if directory.isEmpty || directory.getLast? = some '/' then directory ++ name
  else directory ++ '/' :: name

/-- Drops slashes and dots that do not count from the end of a reversed path. -/
def trimReversed : Text → Text
  | '/' :: rest => if rest.isEmpty then ['/'] else trimReversed rest
  | '.' :: '/' :: rest => trimReversed ('/' :: rest)
  | t => t

/-- The directory above a path by its spelling; none above the root or the first name. -/
def parent? (p : Path) : Option Path :=
  let trimmed := trimReversed p.reverse
  if trimmed = ['/'] then none
  else
    match trimmed.dropWhile (· ≠ '/') with
    | [] => none
    | rest => some (trimReversed rest).reverse

/-- A directory and those above it, at most `fuel` of them. -/
def upward (fuel : Nat) (p : Path) : List Path :=
  match fuel with
  | 0 => []
  | fuel + 1 =>
    match parent? p with
    | some q => p :: upward fuel q
    | none => [p]

def ancestors (p : Path) : List Path := upward (p.length + 1) p

end Path

end Docstring
