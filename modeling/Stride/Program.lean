-- What each command does: what it prints, how it ends, and what it leaves in
-- the file.
import Stride.Address
import Stride.Command
import Stride.Listing
import Stride.Prompt
import Stride.Report.Layout
import Stride.Service
import Stride.Store

namespace Stride

/-- The file of a history as a command finds it. -/
structure Place where
  path : String
  /-- What was read there: nothing if the file is not there or reading failed. -/
  file : Option ByteArray
  writable : Bool

/-- How a command ends. -/
structure Outcome where
  status : Nat := 0
  out : String := ""
  err : String := ""
  /-- What was read, or what was written in its place. -/
  file : Option ByteArray
  written : Bool := false

/-- The command ends with an error after what it has printed, and changes
nothing. -/
def Outcome.fail (place : Place) (out message : String) : Outcome :=
  { status := 1, out, err := "Error: " ++ message ++ "\n", file := place.file }

/-- The path of the history in a folder. -/
def historyPath (folder : String) : String :=
  if folder.toList.getLast? == some '/' then folder ++ History.fileName
  else folder ++ "/" ++ History.fileName

namespace Program

def versionText : String := "pacecalc " ++ Service.version ++ "\n"

def helpText : String :=
  "Usage: pacecalc [-d DIR] calc EXPR... | history | delete INDEX | units [SYSTEM] | samples\n"

/-- Saves the store and then says so, or ends with an error. -/
def saveThen (place : Place) (out done : String) (s : Store) : Outcome :=
  match s.save place.path place.writable with
  | .ok s => { out := out ++ done, file := s.file, written := true }
  | .error refusal => .fail place out refusal.message

/-- The report, with an empty line behind it. -/
def reportText (input : String) (c : Calculation) : String :=
  String.join (((c.report input).lines input).map (· ++ "\n")) ++ "\n"

def calculationText (units : UnitSystem) (output : Output) (c : Calculation) : String :=
  match output with
  | .json => c.toRecord.toJson.pretty ++ "\n"
  | .raw => c.rawText units
  | .table => (Table.ofCalculation units c).text

/-- What is calculated is printed first, even if it then cannot be saved. -/
def calculate (place : Place) (input : String) (units : Option UnitSystem) (output : Output)
    (save : Bool) : Outcome :=
  let store := Store.load place.file
  let units := units.getD store.history.units
  let c := Calculation.ofExpression units input
  let out := calculationText units output c
  if c.isError then { status := 1, out, err := reportText input c, file := place.file }
  else if !save then { out, file := place.file }
  else if c.result.isNone then .fail place out ("Nothing to save: '" ++ input ++ "' has no result")
  else
    match store.push c with
    | .error refusal => .fail place out refusal.message
    | .ok store => saveThen place out (if output = .table then "Saved as #1\n" else "") store

def delete (place : Place) (number : Nat) : Outcome :=
  match (Store.load place.file).remove number with
  | .error refusal => .fail place "" refusal.message
  | .ok (c, store) =>
    let done := "Deleted #" ++ number.repr ++ ": " ++ c.toInput store.history.units ++ "\n"
    saveThen place "" done store

def setUnits (place : Place) (system : UnitSystem) : Outcome :=
  saveThen place "" ("Unit system set to " ++ system.name ++ "\n")
    ((Store.load place.file).setUnits system)

/-- A command that only shows something. -/
def print (place : Place) (out : String) : Outcome := { out, file := place.file }

/-- Does a command. Prompts and sockets are left to the caller. -/
def run (place : Place) (command : Command) : Outcome :=
  let history := (Store.load place.file).history
  match command with
  | .calculate input units output save => calculate place input units output save
  | .history units => print place (historyText (units.getD history.units) history.calculations)
  | .delete number => delete place number
  | .units none => print place (history.units.name ++ "\n")
  | .units (some system) => setUnits place system
  | .samples units =>
    let units := units.getD history.units
    print place (Table.ofSamples units (samples units)).text
  | .interactive units =>
    print place ("Units: " ++ (units.getD history.units).name ++ " (empty line or Esc to quit)\n")
  | .serve host _ =>
    if isHostAddress host then .fail place "" "the service has no socket to listen on"
    else .fail place "" "invalid socket address syntax"

/-- A line without anything on it ends the prompt. -/
def endsPrompt (line : String) : Bool := (trimBlanks line.toList).isEmpty

/-- Another line at the prompt, and the store behind it. A prompt reads the
file when it starts, and then keeps its own store. -/
def promptLine (place : Place) (store : Store) (units : UnitSystem) (line : String) :
    Outcome × Store :=
  let ⟨input, save⟩ := PromptLine.ofText (String.ofList (trimBlanks line.toList))
  let c := Calculation.ofExpression units input
  if c.isError then ({ err := reportText input c, file := place.file }, store)
  else
    let out := (Table.ofCalculation units c).text
    if !save then (print place out, store)
    else match store.push c with
      | .error refusal =>
        ({ out, err := "Not saved: " ++ refusal.message ++ "\n", file := place.file }, store)
      | .ok store => (saveThen place out "Saved\n" store, store)

end Program

end Stride
