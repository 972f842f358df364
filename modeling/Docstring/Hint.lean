-- Annotations as they are written: which of them promise no value, and what an iterator yields.
import Docstring.Document.Entry

namespace Docstring.Hint

/-! ## Nothing to document -/

/-- Annotations of functions that return nothing. -/
def noValueTypes : List String := ["None", "NoReturn", "Never"]

/-- Does the annotation promise no value? -/
def isNoValue (hint : Text) : Bool :=
  let bare :=
    Text.trimPrefixes "typing.".toList
      (Text.trimPrefixes "typing_extensions.".toList (Text.trim hint))
  noValueTypes.any fun known => known.toList = bare

/-! ## Iterators -/

/-- Generic types whose first argument is what is yielded. -/
def iteratorTypes : List String :=
  ["Iterator", "Iterable", "Generator", "AsyncIterator", "AsyncIterable", "AsyncGenerator"]

/-- The name of a generic type without its module. -/
def bareHead (head : Text) : Text :=
  Text.trimPrefixes "collections.abc.".toList
    (Text.trimPrefixes "typing.".toList (Text.trim head))

/-- What stands before the first comma outside brackets, `depth` of them being open. -/
def firstArgument (depth : Int) : Text → Text
  | [] => []
  | c :: rest =>
    if c = ',' ∧ depth = 0 then [] else c :: firstArgument (Text.depthAfter depth c) rest

/-- What an annotated generator yields: the first argument of an iterator type, and else the whole
annotation. -/
def yieldType (hint : Text) : Text :=
  let text := Text.trim hint
  match Text.cutAt? (· == '[') text with
  | none => text
  | some (head, inner) =>
    if text.getLast? = some ']' && iteratorTypes.any fun known => known.toList = bareHead head then
      Text.trim (firstArgument 0 inner.dropLast)
    else text

/-! ## Comparison -/

/-- Are two types the same up to white space? -/
def same (a b : Text) : Bool :=
  (a.filter fun c => !isSpace c) = b.filter fun c => !isSpace c

end Docstring.Hint
