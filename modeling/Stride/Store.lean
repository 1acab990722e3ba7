-- A history together with its file. Changes are made to the history; only
-- saving brings them into the file.
import Stride.History

namespace Stride

structure Store where
  history : History
  /-- What the file holds, if it is there. That does not say that it can be read. -/
  file : Option ByteArray

instance : DecidableEq Store := fun ⟨history, file⟩ ⟨history', file'⟩ =>
  letI : DecidableEq ByteArray := ByteArray.instDecidableEq
  decidable_of_iff (history = history' ∧ file = file') (by simp)

namespace Store

/-- The store of a file. A file that cannot be read counts as one that is not
there, and stays as it is. -/
def load (file : Option ByteArray) (readable : Bool := true) : Store :=
  ⟨if readable then (file.map History.ofContent).getD .empty else .empty, file⟩

/-- Opens the file again. -/
def reload (s : Store) (readable : Bool := true) : Store := load s.file readable

def setUnits (s : Store) (units : UnitSystem) : Store :=
  { s with history := { s.history with units } }

def push (s : Store) (c : Calculation) : Except Refusal Store :=
  (s.history.push c).map fun history => { s with history }

def remove (s : Store) (number : Nat) : Except Refusal (Calculation × Store) :=
  (s.history.remove number).map fun (c, history) => (c, { s with history })

/-- Writes the file as a whole, if it can be written. -/
def save (s : Store) (path : String) (writable : Bool) : Except Refusal Store :=
  if writable then .ok { s with file := some s.history.toContent } else .error (.notWritten path)

end Store

end Stride
