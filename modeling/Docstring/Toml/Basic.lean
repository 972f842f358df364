-- TOML documents as nested tables, and the rules by which headers and keys may add to them.
import Docstring.Number.Binary64
import Docstring.Text.Basic

namespace Docstring

/-- How a table came to be, which decides what may still be added to it. -/
inductive TableOrigin where
  /-- By a header of its own. -/
  | header
  /-- As a part of the name in another header. -/
  | implied
  /-- As a part of a dotted key. -/
  | dotted
  /-- Between braces. -/
  | inline
deriving DecidableEq, Repr

/-- A TOML value. -/
inductive Toml where
  | text (value : Text)
  | integer (value : Int)
  | float (value : Binary64)
  | bool (value : Bool)
  /-- A date or a time, as written. -/
  | moment (value : Text)
  | array (items : List Toml)
  /-- The tables of one repeated header. -/
  | tables (items : List Toml)
  | table (origin : TableOrigin) (entries : List (Text × Toml))
deriving Repr

namespace Toml

/-- The entries of a table. -/
abbrev Entries := List (Text × Toml)

namespace Entries

def get? (entries : Entries) (key : Text) : Option Toml := entries.lookup key

/-- Sets the value of a key, in its old place if it has one. -/
def set (entries : Entries) (key : Text) (value : Toml) : Entries :=
  match entries with
  | [] => [(key, value)]
  | (known, old) :: rest =>
    if known = key then (key, value) :: rest else (known, old) :: set rest key value

end Entries

/-! ## Adding to tables -/

def modifyLast? (f : Toml → Option Toml) : List Toml → Option (List Toml)
  | [] => none
  | [item] => (f item).map fun new => [new]
  | item :: rest => (modifyLast? f rest).map fun new => item :: new

/-- Changes the entries of a table that is not an inline one. -/
def modifyEntries? (f : Entries → Option Entries) : Toml → Option Toml
  | .table .inline _ => none
  | .table origin entries => (f entries).map (.table origin)
  | _ => none

/-- Changes the table that a header stands for, or that it goes through: the table itself, or the
last one of a repeated header. -/
def modifyTable? (f : Entries → Option Entries) : Toml → Option Toml
  | .tables items => (modifyLast? (modifyEntries? f) items).map .tables
  | value => modifyEntries? f value

/-- Changes the entries at the end of a path of keys; tables on the way that do not exist are
implied. -/
def atPath? (f : Entries → Option Entries) : List Text → Entries → Option Entries
  | [], entries => f entries
  | key :: path, entries =>
    let inner := (entries.get? key).getD (.table .implied [])
    (modifyTable? (atPath? f path) inner).map (entries.set key)

/-- Opens the table of a header. It must be new, or only implied so far. -/
def openTable? (key : Text) (entries : Entries) : Option Entries :=
  match entries.get? key with
  | none => some (entries.set key (.table .header []))
  | some (.table .implied inner) => some (entries.set key (.table .header inner))
  | some _ => none

/-- Opens one more table of a repeated header. -/
def appendTable? (key : Text) (entries : Entries) : Option Entries :=
  match entries.get? key with
  | none => some (entries.set key (.tables [.table .header []]))
  | some (.tables items) => some (entries.set key (.tables (items ++ [.table .header []])))
  | some _ => none

/-- Adds a value under a dotted key. The tables on the way must come from dotted keys too, and the
key itself must be new. -/
def insert? (value : Toml) (key : Text) : List Text → Entries → Option Entries
  | [], entries => if (entries.get? key).isSome then none else some (entries.set key value)
  | first :: path, entries =>
    match (entries.get? first).getD (.table .dotted []) with
    | .table .dotted inner =>
      (insert? value key path inner).map fun new => entries.set first (.table .dotted new)
    | .table .implied inner =>
      -- A table that a header implies can be passed through, but takes no key.
      if path.isEmpty then none
      else (insert? value key path inner).map fun new => entries.set first (.table .implied new)
    | _ => none

end Toml

end Docstring
