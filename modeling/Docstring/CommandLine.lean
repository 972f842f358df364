-- The command line: reading its words into a command.
import Docstring.Number.Decimal
import Docstring.Options
import Docstring.Path
import Docstring.Style

namespace Docstring

/-! ## Commands -/

/-- Flags of a conversion, which win over the configuration. -/
structure ConvertFlags where
  target : Option Style := none
  source : StyleSource := .auto
  minConfidence : Option Binary64 := none
  unsafeMode : Bool := false
  types : Option TypesPreference := none
  maxLineWidth : Option Nat := none
  scope : Option Scope := none
deriving DecidableEq, Repr

/-- What to do. -/
inductive Action where
  | convert (flags : ConvertFlags) (isApplied : Bool)
  | fixReturnTypes (isApplied : Bool)
  | annotate (isApplied : Bool)
  | check (isStrict : Bool)
  | detect
deriving DecidableEq, Repr

/-- A whole command. -/
structure Invocation where
  /-- The configuration file, if one is named. -/
  config : Option Path := none
  action : Action
  paths : List Path
deriving DecidableEq, Repr

/-- Why a command line is not carried out. -/
inductive Refusal where
  /-- It is wrong. -/
  | usage
  /-- It asks for help or for the version. -/
  | information
deriving DecidableEq, Repr

/-- The exit code of a refused command line. -/
def Refusal.exitCode : Refusal → Nat
  | .usage => 2
  | .information => 0

namespace CommandLine

/-! ## Words -/

/-- The words of a command line, sorted: switches, options with their values, and the rest. -/
structure Words where
  switches : List String := []
  values : List (String × Text) := []
  operands : List Text := []
  /-- Is help asked for? Nothing after that is read. -/
  asksHelp : Bool := false
deriving DecidableEq, Repr

/-- The names that a command line may hold. -/
structure Names where
  switches : List String
  options : List String

def commonOptions : List String := ["--log-level", "--config"]

/-- Does a word look like an option? A single hyphen does not. -/
def looksLikeOption (word : Text) : Bool :=
  match word with
  | '-' :: _ :: _ => true
  | _ => false

/-- The value that follows an option; none when the next word looks like an option. -/
def followingValue? : List Text → Option (Text × List Text)
  | word :: rest => if looksLikeOption word then none else some (word, rest)
  | [] => none

namespace Words

/-- Notes a switch; none when it comes twice. -/
def addSwitch? (w : Words) (name : String) : Option Words :=
  if w.switches.contains name then none else some { w with switches := name :: w.switches }

/-- Notes the value of an option; none when it has one already. -/
def addValue? (w : Words) (name : String) (value : Text) : Option Words :=
  if (w.values.lookup name).isSome then none
  else some { w with values := (name, value) :: w.values }

def addOperand (w : Words) (word : Text) : Words := { w with operands := w.operands ++ [word] }

/-- The value of an option, read by a reader; none when the reader refuses it. -/
def value? {α : Type} (w : Words) (name : String) (read : Text → Option α) : Option (Option α) :=
  match w.values.lookup name with
  | some text => (read text).map some
  | none => some none

def has (w : Words) (name : String) : Bool := w.switches.contains name

end Words

/-- Cuts a word at its first equals sign. -/
def cutEquals (word : Text) : Text × Option Text :=
  match Text.cutAt? (· == '=') word with
  | some (name, value) => (name, some value)
  | none => (word, none)

def isHelp (word : Text) : Bool := word = "--help".toList || word = "-h".toList

def readWords (names : Names) (fuel : Nat) (w : Words) (words : List Text) :
    Except Refusal Words :=
  match fuel, words with
  | 0, _ => .ok w
  | _, [] => .ok w
  | fuel + 1, word :: rest =>
    if word = "--".toList then .ok (rest.foldl Words.addOperand w)
    else if !looksLikeOption word then readWords names fuel (w.addOperand word) rest
    else if isHelp word then .ok { w with asksHelp := true }
    else
      let (given, attached) := cutEquals word
      let name := given.asString
      if names.switches.contains name then
        match attached, w.addSwitch? name with
        | none, some next => readWords names fuel next rest
        | _, _ => .error .usage
      else if names.options.contains name then
        let taken :=
          match attached with
          | some value => some (value, rest)
          | none => followingValue? rest
        match taken with
        | some (value, left) =>
          match w.addValue? name value with
          | some next => readWords names fuel next left
          | none => .error .usage
        | none => .error .usage
      else .error .usage

/-! ## Values -/

/-- Reads a path, which cannot be empty. -/
def path? (t : Text) : Option Path := if t.isEmpty then none else some t

def digits? (t : Text) : Option Nat :=
  if t.isEmpty || !t.all Char.isDigit then none
  else some (t.foldl (fun n c => 10 * n + (c.toNat - 48)) 0)

/-- Reads a count of columns, which fits in 64 bits. -/
def count? (t : Text) : Option Nat := do
  let digits := if t.head? = some '+' then t.drop 1 else t
  let n ← digits? digits
  if n < Nat.pow 2 64 then some n else none

def splitSign : Text → Bool × Text
  | '-' :: rest => (true, rest)
  | '+' :: rest => (false, rest)
  | t => (false, t)

def exponent? (t : Text) : Option Int := do
  let (isNegative, digits) := splitSign t
  let n ← digits? digits
  return if isNegative then -(n : Int) else n

/-- Reads a number with a point and an exponent, of which both may be missing. -/
def decimal? (isNegative : Bool) (t : Text) : Option Binary64 := do
  let isExponent := fun c : Char => c = 'e' || c = 'E'
  let front := t.takeWhile fun c => !isExponent c
  let exponent ←
    match t.drop front.length with
    | [] => some 0
    | _ :: power => exponent? power
  let (whole, fraction) := (Text.cutAt? (· == '.') front).getD (front, [])
  let mantissa ← digits? (whole ++ fraction)
  return .ofDecimal isNegative mantissa (exponent - fraction.length)

/-- Reads a number, also one that is not finite. -/
def number? (t : Text) : Option Binary64 :=
  let (isNegative, rest) := splitSign t
  let word := Text.lower rest
  if word = "inf".toList || word = "infinity".toList then some (.infinite isNegative)
  else if word = "nan".toList then some .nan
  else decimal? isNegative rest

def logLevels : List String := ["trace", "debug", "info", "warn", "error"]

/-- Reads a level of log output, which changes nothing in the response. -/
def logLevel? (t : Text) : Option Unit := if logLevels.contains t.asString then some () else none

/-! ## Whole lines -/

/-- Turns a value that a reader refused into a refusal. -/
def orUsage {α : Type} : Option α → Except Refusal α
  | some a => .ok a
  | none => .error .usage

/-- Reads the options that go with every command: the configuration file. -/
def readCommon (w : Words) : Except Refusal (Option Path) := do
  let _ ← orUsage (w.value? "--log-level" logLevel?)
  orUsage (w.value? "--config" path?)

def readConvert (w : Words) : Except Refusal ConvertFlags := do
  return {
    target := ← orUsage (w.value? "--to" Style.parse?)
    source := (← orUsage (w.value? "--from" StyleSource.parse?)).getD .auto
    minConfidence := ← orUsage (w.value? "--min-confidence" number?)
    unsafeMode := w.has "--unsafe"
    types := ← orUsage (w.value? "--types-preference" fun t => TypesPreference.ofName? t.asString)
    maxLineWidth := ← orUsage (w.value? "--max-line-width" count?)
    scope := ← orUsage (w.value? "--scope" fun t => Scope.ofName? t.asString) }

/-- The names that a command takes, and how its words become an action. -/
def command? (name : String) : Option (Names × (Words → Except Refusal Action)) :=
  match name with
  | "convert" =>
    some
      (⟨["--unsafe", "--apply"],
          ["--to", "--from", "--min-confidence", "--types-preference", "--max-line-width",
            "--scope"]⟩,
        fun w => do return .convert (← readConvert w) (w.has "--apply"))
  | "fix-rtype" => some (⟨["--apply"], []⟩, fun w => .ok (.fixReturnTypes (w.has "--apply")))
  | "fix-annotations" => some (⟨["--apply"], []⟩, fun w => .ok (.annotate (w.has "--apply")))
  | "check" => some (⟨["--strict"], []⟩, fun w => .ok (.check (w.has "--strict")))
  | "detect" => some (⟨[], []⟩, fun _ => .ok .detect)
  | _ => none

/-- Reads a command and its words, after the options before it. -/
def readCommand (before : Words) (word : Text) (rest : List Text) : Except Refusal Invocation := do
  let outer ← readCommon before
  let (names, action) ←
    match command? word.asString with
    | some command => pure command
    | none => .error (if word = "help".toList then .information else .usage)
  let names := { names with options := names.options ++ commonOptions }
  let w ← readWords names (rest.length + 1) {} rest
  let action ← action w
  let inner ← readCommon w
  let paths ← orUsage (w.operands.mapM path?)
  if w.asksHelp then .error .information
  if paths.isEmpty then .error .usage
  return { config := inner.or outer, action := action, paths := paths }

/-- Reads the options before a command, and the command. -/
def readFrom (fuel : Nat) (before : Words) (words : List Text) : Except Refusal Invocation :=
  match fuel, words with
  | 0, _ => .error .usage
  | _, [] => .error .usage
  | fuel + 1, word :: rest =>
    if !looksLikeOption word then readCommand before word rest
    else if isHelp word || word = "--version".toList || word = "-V".toList then do
      let _ ← readCommon before
      .error .information
    else
      let (given, attached) := cutEquals word
      let name := given.asString
      let taken :=
        match attached with
        | some value => some (value, rest)
        | none => followingValue? rest
      match commonOptions.contains name, taken with
      | true, some (value, left) =>
        match before.addValue? name value with
        | some next => readFrom fuel next left
        | none => .error .usage
      | _, _ => .error .usage

def read (words : List Text) : Except Refusal Invocation := readFrom (words.length + 1) {} words

end CommandLine

end Docstring
