-- The commands, and how they are written on the command line.
import Stride.Arguments
import Stride.Unit

namespace Stride

/-- How a calculation is printed. -/
inductive Output where
  | table | raw | json
deriving DecidableEq, Repr

inductive Command where
  | calculate (expression : String) (units : Option UnitSystem) (output : Output) (save : Bool)
  | history (units : Option UnitSystem)
  | delete (number : Nat)
  | units (system : Option UnitSystem)
  | samples (units : Option UnitSystem)
  | interactive (units : Option UnitSystem)
  | serve (host : String) (port : Nat)
deriving DecidableEq, Repr

/-- What a command line asks for. -/
inductive Invocation where
  | run (folder : String) (command : Command)
  | version
  | help
  | misuse
deriving DecidableEq, Repr

namespace Command

/-! ## Values -/

/-- Digits of a number below a limit. -/
def readDigits? (limit : Nat) (digits : List Char) : Option Nat :=
  if digits.isEmpty || digits.any (!·.isDigit) then none
  else
    let n := Nat.ofDigitChars 10 digits 0
    if n < limit then some n else none

/-- A whole number; a plus sign may stand before it. -/
def readWhole? (limit : Nat) (s : String) : Option Nat :=
  match s.toList with
  | '+' :: digits => readDigits? limit digits
  | digits => readDigits? limit digits

/-- The number of an entry in the history. -/
def readIndex? (s : String) : Option Nat := readWhole? (1 <<< 64) s

/-- The number of a port; zero may have any sign. -/
def readPort? (s : String) : Option Nat :=
  match s.toList with
  | '-' :: digits => readDigits? 1 digits
  | _ => readWhole? (1 <<< 16) s

/-! ## Options -/

def folderRule : OptionRule :=
  { name := "dir", letter := some 'd', hasValue := true, accepts := fun s => !s.isEmpty }

def helpRule : OptionRule := { name := "help", letter := some 'h', endsLine := true }

def versionRule : OptionRule := { name := "version", letter := some 'V', endsLine := true }

def unitsRule : OptionRule :=
  { name := "units", letter := some 'u', hasValue := true,
    accepts := fun s => (UnitSystem.ofName? s).isSome }

/-- What may stand before the name of a command. -/
def frontRules : LineRules := ⟨[folderRule, helpRule, versionRule], List.isEmpty⟩

/-- What may stand behind the name of a command, if there is one of that
name, besides the options of every command. -/
def ownRules? : String → Option LineRules
  | "calc" =>
    some ⟨[unitsRule, { name := "raw", letter := some 'r' }, { name := "json" },
      { name := "save", letter := some 's' }], fun _ => true⟩
  | "history" | "samples" | "interactive" => some ⟨[unitsRule], List.isEmpty⟩
  | "server" =>
    some ⟨[{ name := "host", hasValue := true },
      { name := "port", letter := some 'p', hasValue := true,
        accepts := fun s => (readPort? s).isSome }], List.isEmpty⟩
  | "delete" => some ⟨[], fun words => words.length ≤ 1 && words.all fun s => (readIndex? s).isSome⟩
  | "units" =>
    some ⟨[], fun words => words.length ≤ 1 && words.all fun s => (UnitSystem.ofName? s).isSome⟩
  | _ => none

def rules? (name : String) : Option LineRules :=
  (ownRules? name).map fun own => { own with options := folderRule :: helpRule :: own.options }

/-! ## Commands -/

/-- The command, if nothing is missing. -/
def ofArguments (name : String) (a : Arguments) : Option Command :=
  let units := (a.value? "units").bind UnitSystem.ofName?
  match name, a.words with
  | "calc", words =>
    if words.isEmpty || a.has "raw" && a.has "json" then none
    else
      let output := if a.has "json" then .json else if a.has "raw" then .raw else .table
      some (.calculate (" ".intercalate words) units output (a.has "save"))
  | "history", _ => some (.history units)
  | "delete", [number] => (readIndex? number).map .delete
  | "units", [] => some (.units none)
  | "units", [system] => (UnitSystem.ofName? system).map fun system => .units (some system)
  | "samples", _ => some (.samples units)
  | "interactive", _ => some (.interactive units)
  | "server", _ =>
    (readPort? ((a.value? "port").getD "3000")).map (.serve ((a.value? "host").getD "127.0.0.1"))
  | _, _ => none

/-- Help is about everything or about one command. -/
def isHelpTopic : List String → Bool
  | [] => true
  | [name] => name = "help" || (ownRules? name).isSome
  | _ => false

/-- Reads what is behind the name of a command. -/
def readBehind (name : String) (front : Arguments) (rest : List String) : Invocation :=
  match rules? name with
  | none => .misuse
  | some rules =>
    let (a, ending) := Arguments.read rules.options false rest
    let folder := (a.value? "dir").getD ((front.value? "dir").getD ".")
    if !a.fits rules then .misuse
    else match ending, ofArguments name a with
      | .option _, _ => .help
      | .complete, some command => .run folder command
      | _, _ => .misuse

/-- A folder may be given before the name of the command or behind it; the
one behind it counts. A fault counts before an option that ends the line. -/
def invocation (args : List String) : Invocation :=
  let (front, ending) := Arguments.read frontRules.options true args
  if !front.fits frontRules then .misuse
  else match ending with
    | .option name => if name = "help" then .help else .version
    | .word "help" topic => if isHelpTopic topic then .help else .misuse
    | .word name rest => readBehind name front rest
    | _ => .misuse

end Command

end Stride
