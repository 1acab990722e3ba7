-- What an expression is made of: paces, durations, distances, constants,
-- operators, and text that says what went wrong. Each quantity is kept in
-- one unit: seconds per kilometer, seconds, meters.
import Stride.Unit

namespace Stride

/-! ## Operators -/

inductive Operator where
  | inWord | forWord | atWord | multiply | add | atSign | subtract
deriving DecidableEq, Repr

namespace Operator

/-- The order in which symbols are tried. No symbol begins another, so it
decides nothing. -/
def all : List Operator := [.multiply, .atSign, .atWord, .forWord, .inWord, .add, .subtract]

def symbol : Operator → String
  | .inWord => "in"
  | .forWord => "for"
  | .atWord => "at"
  | .multiply => "*"
  | .add => "+"
  | .atSign => "@"
  | .subtract => "-"

def ofSymbol? (symbol : String) : Option Operator := all.find? (·.symbol == symbol)

theorem ofSymbol?_symbol (op : Operator) : ofSymbol? op.symbol = some op := by
  cases op <;> decide

/-- The words relate two quantities and bind first. -/
def isRelational : Operator → Bool
  | .forWord | .atWord | .inWord => true
  | _ => false

end Operator

/-! ## Quantities -/

/-- A pace is shown as time per distance or as distance per hour. -/
inductive PaceView where
  | pace | speed
deriving DecidableEq, Repr

/-- The time that a kilometer takes. -/
structure Pace where
  secondsPerKilometer : Binary64
  view : PaceView
deriving DecidableEq

def PaceView.swap : PaceView → PaceView
  | .pace => .speed
  | .speed => .pace

/-- The same pace, shown the other way. -/
def Pace.swapView (p : Pace) : Pace := { p with view := p.view.swap }

/-- A length. The two race names stand for their lengths. -/
inductive Distance where
  | plain (meters : Binary64)
  | marathon
  | halfMarathon
deriving DecidableEq

def Distance.meters : Distance → Binary64
  | .plain meters => meters
  | .marathon => marathonMeters
  | .halfMarathon => halfMarathonMeters

inductive Value where
  | error (message : String)
  | pace (pace : Pace)
  | operator (operator : Operator)
  | duration (seconds : Binary64)
  | distance (distance : Distance)
  | constant (amount : Binary64)
deriving DecidableEq

/-! ## Kinds -/

inductive Kind where
  | error | pace | speed | operator | duration | distance | marathon | halfMarathon | constant
deriving DecidableEq, Repr

namespace Kind

/-- Kinds in the order of their tags. -/
def all : List Kind :=
  [.error, .pace, .speed, .operator, .duration, .distance, .marathon, .halfMarathon, .constant]

def tag : Kind → Nat
  | .error => 0
  | .pace => 1
  | .speed => 2
  | .operator => 3
  | .duration => 4
  | .distance => 5
  | .marathon => 6
  | .halfMarathon => 7
  | .constant => 8

def ofTag? (tag : Nat) : Option Kind := all.find? (·.tag == tag)

theorem ofTag?_tag (k : Kind) : ofTag? k.tag = some k := by cases k <;> decide

def unknownTagMessage (tag : Nat) : String := "Unknown value kind tag " ++ tag.repr

/-- The name in records. -/
def name : Kind → String
  | .error => "Error"
  | .pace => "Pace"
  | .speed => "Speed"
  | .operator => "Operator"
  | .duration => "Duration"
  | .distance => "Distance"
  | .marathon => "Marathon"
  | .halfMarathon => "HalfMarathon"
  | .constant => "Constant"

/-- The name in tables. -/
def label : Kind → String
  | .error => "error"
  | .pace => "pace"
  | .speed => "speed"
  | .operator => "operator"
  | .duration => "duration"
  | .distance => "distance"
  | .marathon => "marathon"
  | .halfMarathon => "half marathon"
  | .constant => "constant"

end Kind

namespace Value

def kind : Value → Kind
  | .error _ => .error
  | .pace ⟨_, .pace⟩ => .pace
  | .pace ⟨_, .speed⟩ => .speed
  | .operator _ => .operator
  | .duration _ => .duration
  | .distance (.plain _) => .distance
  | .distance .marathon => .marathon
  | .distance .halfMarathon => .halfMarathon
  | .constant _ => .constant

/-- The number that a value stands for, in its own unit. -/
def quantity? : Value → Option Binary64
  | .pace p => some p.secondsPerKilometer
  | .duration seconds => some seconds
  | .distance d => some d.meters
  | .constant amount => some amount
  | .error _ | .operator _ => none

def operator? : Value → Option Operator
  | .operator op => some op
  | _ => none

def message? : Value → Option String
  | .error message => some message
  | _ => none

def isError (v : Value) : Bool := v matches .error _
def isPace (v : Value) : Bool := v matches .pace _
def isOperator (v : Value) : Bool := v matches .operator _
def isDuration (v : Value) : Bool := v matches .duration _
def isDistance (v : Value) : Bool := v matches .distance _
def isConstant (v : Value) : Bool := v matches .constant _

end Value

end Stride
