-- What an operator does to the two values at its sides.
--   pace for duration, duration at pace     the distance covered
--   pace for distance, distance at pace     the time needed
--   distance in duration                    the pace needed
--   distance, duration or constant * constant, distances, durations and
--   constants +
-- Speeds count as paces, races as their lengths.
import Stride.Value

namespace Stride

/-- Why an expression has no value. -/
inductive Failure where
  | invalidOperation | unknownOperation | divisionByZero | outOfRange
deriving DecidableEq, Repr

def Failure.message : Failure → String
  | .invalidOperation => "Invalid operation"
  | .unknownOperation => "Unknown operation"
  | .divisionByZero => "Division by zero"
  | .outOfRange => "Result out of range"

/-- A failure is shown as an error value. -/
def Value.ofOutcome : Except Failure Value → Value
  | .ok v => v
  | .error failure => .error failure.message

/-! ## Pace, time and distance -/

/-- The time for a distance, to the whole second. -/
def timeFor (d : Distance) (p : Pace) : Binary64 :=
  (p.secondsPerKilometer * (d.meters / kilometerMeters)).round

def distanceIn (seconds : Binary64) (p : Pace) : Except Failure Value :=
  if p.secondsPerKilometer.isZero then .error .divisionByZero
  else .ok (.distance (.plain (seconds / p.secondsPerKilometer * kilometerMeters)))

def paceFor (d : Distance) (seconds : Binary64) : Except Failure Value :=
  if d.meters.isZero then .error .divisionByZero
  else .ok (.pace ⟨seconds / (d.meters / kilometerMeters), .pace⟩)

/-! ## Operations -/

/-- The rule for the two kinds of value and the operator. The seconds of
`distance for pace`, and the sum of two durations, are kept as meters. -/
def applyRule : Value → Operator → Value → Except Failure Value
  | .pace p, .forWord, .duration t => distanceIn t p
  | .duration t, .atWord, .pace p => distanceIn t p
  | .pace p, .forWord, .distance d => .ok (.duration (timeFor d p))
  | .distance d, .atWord, .pace p => .ok (.duration (timeFor d p))
  | .distance d, .forWord, .pace p => .ok (.distance (.plain (timeFor d p)))
  | .distance d, .inWord, .duration t => paceFor d t
  | .distance d, .multiply, .constant x => .ok (.distance (.plain (d.meters * x)))
  | .constant x, .multiply, .distance d => .ok (.distance (.plain (d.meters * x)))
  | .duration t, .multiply, .constant x => .ok (.duration (t * x))
  | .constant x, .multiply, .duration t => .ok (.duration (t * x))
  | .constant x, .multiply, .constant y => .ok (.constant (x * y))
  | .distance d, .add, .distance e => .ok (.distance (.plain (d.meters + e.meters)))
  | .duration t, .add, .duration u => .ok (.distance (.plain (t + u)))
  | .constant x, .add, .constant y => .ok (.constant (x + y))
  | _, _, _ => .error .unknownOperation

/-- The quantity of a value, if it has one, is a finite number. -/
def Value.isInRange (v : Value) : Bool := v.quantity?.all Binary64.isFinite

/-- The rule, unless its result is too large or no number. -/
def Operator.apply (op : Operator) (left right : Value) : Except Failure Value :=
  match applyRule left op right with
  | .ok v => if v.isInRange then .ok v else .error .outOfRange
  | .error failure => .error failure

end Stride
