-- A value as a reader sees it in a unit system. Miles, yards and paces per
-- mile exist only here.
import Stride.Value
import Stride.Numeral

namespace Stride

/-- A number and its unit, such as `34` and `min`. -/
structure Piece where
  value : String
  unit : String
deriving DecidableEq, Repr

def Piece.text (p : Piece) : String := p.value ++ p.unit

def wholeText (n : Int) : List Char :=
  if n < 0 then '-' :: Nat.toDigits 10 n.natAbs else Nat.toDigits 10 n.natAbs

/-- At least two characters, filled with zeros. A sign counts as one. -/
def twoPlaces (n : Int) : List Char :=
  if 0 ≤ n ∧ n < 10 then '0' :: wholeText n else wholeText n

namespace Distance

/-- Below a kilometer or a mile the smaller unit is used; yards are whole. -/
def piece (units : UnitSystem) : Distance → Piece
  | .marathon => ⟨"M", ""⟩
  | .halfMarathon => ⟨"HM", ""⟩
  | .plain meters =>
    match units with
    | .metric =>
      if meters.lt kilometerMeters then ⟨String.ofList (numeral meters), LengthUnit.meter.symbol⟩
      else ⟨String.ofList (numeral (meters / kilometerMeters)), LengthUnit.kilometer.symbol⟩
    | .imperial =>
      if meters.lt mileMeters then
        ⟨String.ofList (numeral (meters / yardMeters).round), LengthUnit.yard.symbol⟩
      else ⟨String.ofList (numeral (meters / mileMeters)), LengthUnit.mile.symbol⟩

end Distance

/-- Hours, minutes and seconds of a whole number of seconds. -/
def clockParts (total : Binary64) : List (Binary64 × TimeUnit) :=
  [((total / hourSeconds).floor, .hour), ((total % hourSeconds / minuteSeconds).floor, .minute),
    (total % minuteSeconds, .second)]

/-- The parts of a time that are above zero, or `0s`. -/
def durationPieces (seconds : Binary64) : List Piece :=
  if seconds.isFinite then
    let shown := (clockParts seconds.round).filter fun part => Binary64.lt 0 part.1
    let pieces := shown.map fun (amount, unit) =>
      (⟨String.ofList (wholeText amount.toInteger), unit.symbol⟩ : Piece)
    if pieces.isEmpty then [⟨"0", TimeUnit.second.symbol⟩] else pieces
  else
    [⟨String.ofList (numeral seconds), TimeUnit.second.symbol⟩]

/-- Minutes and seconds, rounded to the second before they are split. -/
def minutesAndSeconds (seconds : Binary64) : List Char :=
  if seconds.isFinite then
    let total := seconds.round.toInteger
    wholeText (total.tdiv 60) ++ ':' :: twoPlaces (total.tmod 60)
  else
    numeral seconds

namespace Pace

/-- Seconds for the system's unit of length. -/
def secondsPerLength (units : UnitSystem) (p : Pace) : Binary64 :=
  match units with
  | .metric => p.secondsPerKilometer
  | .imperial => p.secondsPerKilometer * kilometersPerMile

/-- Lengths of the system in an hour. -/
def lengthsPerHour (units : UnitSystem) (p : Pace) : Binary64 :=
  let kilometers := minuteSeconds / (p.secondsPerKilometer / minuteSeconds)
  match units with
  | .metric => kilometers
  | .imperial => kilometers * milesPerKilometer

def piece (units : UnitSystem) (p : Pace) : Piece :=
  match p.view with
  | .pace => ⟨String.ofList (minutesAndSeconds (p.secondsPerLength units)), units.paceUnit.symbol⟩
  | .speed => ⟨String.ofList (numeral (p.lengthsPerHour units)), units.speedUnit.symbol⟩

end Pace

namespace Value

/-- A duration has a piece for each part of the clock; all else has one. -/
def pieces (units : UnitSystem) : Value → List Piece
  | .error message => [⟨message, ""⟩]
  | .operator op => [⟨op.symbol, ""⟩]
  | .constant amount => [⟨String.ofList (numeral amount), ""⟩]
  | .duration seconds => durationPieces seconds
  | .distance d => [d.piece units]
  | .pace p => [p.piece units]

/-- The value on one line, such as `4:00min/km` or `1h 34min 40s`. -/
def render (units : UnitSystem) (v : Value) : String :=
  " ".intercalate ((v.pieces units).map Piece.text)

end Value

end Stride
