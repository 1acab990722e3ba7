-- The units of running: pace, speed, length and time, what each comes to
-- in kilometers, meters and seconds, and the two unit systems.
import Stride.Binary64
import Stride.Text.Blank

namespace Stride

/-! ## Lengths that the conversions rest on -/

def mileMeters : Binary64 := 1609.34
def yardMeters : Binary64 := 0.9144
def kilometerMeters : Binary64 := 1000
def kilometersPerMile : Binary64 := 1.60934

/-- A quotient of its own: the nearest number to the inverse. -/
def milesPerKilometer : Binary64 := 1 / kilometersPerMile

def minuteSeconds : Binary64 := 60
def hourSeconds : Binary64 := 3600

def marathonMeters : Binary64 := 42195
def halfMarathonMeters : Binary64 := marathonMeters / 2

/-! ## Units and their symbols -/

inductive PaceUnit where
  | minutesPerKilometer | minutesPerMile
deriving DecidableEq, Repr

inductive SpeedUnit where
  | kilometersPerHour | milesPerHour
deriving DecidableEq, Repr

inductive LengthUnit where
  | meter | kilometer | mile | yard
deriving DecidableEq, Repr

inductive TimeUnit where
  | second | minute | hour
deriving DecidableEq, Repr

def PaceUnit.symbol : PaceUnit → String
  | .minutesPerKilometer => "min/km"
  | .minutesPerMile => "min/mi"

def SpeedUnit.symbol : SpeedUnit → String
  | .kilometersPerHour => "km/h"
  | .milesPerHour => "mi/h"

def LengthUnit.symbol : LengthUnit → String
  | .meter => "m"
  | .kilometer => "km"
  | .mile => "mi"
  | .yard => "yd"

def TimeUnit.symbol : TimeUnit → String
  | .second => "s"
  | .minute => "min"
  | .hour => "h"

/-- Units in the order they are tried, so `mi` before `m`. -/
def PaceUnit.all : List PaceUnit := [.minutesPerKilometer, .minutesPerMile]
def SpeedUnit.all : List SpeedUnit := [.kilometersPerHour, .milesPerHour]
def LengthUnit.all : List LengthUnit := [.mile, .meter, .kilometer, .yard]
def TimeUnit.all : List TimeUnit := [.hour, .minute, .second]

/-! ## Conversions -/

def LengthUnit.toMeters (amount : Binary64) : LengthUnit → Binary64
  | .meter => amount
  | .kilometer => amount * kilometerMeters
  | .mile => amount * mileMeters
  | .yard => amount * yardMeters

def TimeUnit.inSeconds : TimeUnit → Binary64
  | .second => 1
  | .minute => minuteSeconds
  | .hour => hourSeconds

/-- The seconds of `first:second:third`, where the unit names `first`:
`4:30min` is minutes and seconds, `1:30h` is hours and minutes. Parts
below the second are not counted. -/
def TimeUnit.toSeconds (first second third : Binary64) : TimeUnit → Binary64
  | .second => first
  | .minute => first * minuteSeconds + second
  | .hour => first * hourSeconds + second * minuteSeconds + third

/-- Seconds per kilometer from seconds per the unit's length. -/
def PaceUnit.perKilometer (seconds : Binary64) : PaceUnit → Binary64
  | .minutesPerKilometer => seconds
  | .minutesPerMile => seconds / kilometersPerMile

/-- Seconds per kilometer at `amount` lengths an hour. -/
def SpeedUnit.perKilometer (amount : Binary64) : SpeedUnit → Binary64
  | .kilometersPerHour => minuteSeconds / amount * minuteSeconds
  | .milesPerHour => minuteSeconds / amount * minuteSeconds / kilometersPerMile

/-! ## Unit systems -/

/-- How values are shown, and how a pace without a unit is read. Stored
quantities are metric whatever the system. -/
inductive UnitSystem where
  | metric | imperial
deriving DecidableEq, Repr

namespace UnitSystem

def name : UnitSystem → String
  | .metric => "metric"
  | .imperial => "imperial"

def paceUnit : UnitSystem → PaceUnit
  | .metric => .minutesPerKilometer
  | .imperial => .minutesPerMile

def speedUnit : UnitSystem → SpeedUnit
  | .metric => .kilometersPerHour
  | .imperial => .milesPerHour

def lengthUnit : UnitSystem → LengthUnit
  | .metric => .kilometer
  | .imperial => .mile

/-- Lower case where that can matter for a name: of the characters outside
ASCII only the kelvin sign has an ASCII letter as its lower case. -/
def foldCase (c : Char) : Char := if c = '\u212A' then 'k' else c.toLower

/-- A system by its name or its short name, in any case, between blanks. -/
def ofName? (name : String) : Option UnitSystem :=
  let folded := String.ofList ((trimBlanks name.toList).map foldCase)
  if folded = "metric" ∨ folded = "km" then some .metric
  else if folded = "imperial" ∨ folded = "mi" then some .imperial
  else none

/-- What is said of a name that no system has. -/
def unknownMessage (name : String) : String :=
  "Unknown unit system: '" ++ name ++ "' (expected 'metric' or 'imperial')"

end UnitSystem

end Stride
