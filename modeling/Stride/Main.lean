-- The command line. Only reading and writing happens here.
import Stride.Program

namespace Stride

/-- The file of the history in a folder. Whether it can be written is seen when
that is tried. -/
def findPlace (folder : String) : IO Place := do
  let path := historyPath folder
  let file ← try some <$> IO.FS.readBinFile path catch _ => pure none
  return ⟨path, file, true⟩

/-- Writes what is to be written. If that fails, the outcome is the one for a
file that cannot be written. -/
def carryOut (place : Place) (outcome : Place → Outcome) : IO Outcome := do
  let o := outcome place
  let some content := o.file | return o
  if !o.written then return o
  try
    IO.FS.writeBinFile place.path content
    return o
  catch _ => return outcome { place with writable := false }

def printOutcome (o : Outcome) : IO Unit := do
  IO.print o.out
  IO.eprint o.err

/-- Lines until an empty one, or until one cannot be saved. -/
partial def prompt (place : Place) (store : Store) (units : UnitSystem) : IO UInt32 := do
  IO.print "Calculate: "
  (← IO.getStdout).flush
  let line ← (← IO.getStdin).getLine
  if Program.endsPrompt line then return 0
  let turn := fun place => Program.promptLine place store units line
  let o ← carryOut place fun place => (turn place).1
  printOutcome o
  if o.status = 0 then prompt place (turn place).2 units else return UInt32.ofNat o.status

def runCommand (folder : String) (command : Command) : IO UInt32 := do
  let place ← findPlace folder
  let o ← carryOut place fun place => Program.run place command
  printOutcome o
  match command with
  | .interactive units =>
    let store := Store.load place.file
    prompt place store (units.getD store.history.units)
  | _ => return UInt32.ofNat o.status

end Stride

def main (args : List String) : IO UInt32 := do
  match Stride.Command.invocation args with
  | .version => IO.print Stride.Program.versionText; return 0
  | .help => IO.print Stride.Program.helpText; return 0
  | .misuse => IO.eprint Stride.Program.helpText; return 2
  | .run folder command => Stride.runCommand folder command
