-- Values and calculations as plain data, the form in which they are saved.
-- A record holds the tag of a kind and the one field that the kind uses;
-- a record read from outside may hold any fields.
import Stride.Calculation
import Stride.Json.Decode

namespace Stride

structure ValueRecord where
  kind : Kind
  meters : Option Binary64 := none
  seconds : Option Binary64 := none
  secondsPerKilometer : Option Binary64 := none
  amount : Option Binary64 := none
  operator : Option String := none
  message : Option String := none
deriving DecidableEq

structure CalculationRecord where
  parts : List ValueRecord
  result : Option ValueRecord
deriving DecidableEq

/-! ## Values and their records -/

def Value.toRecord (v : Value) : ValueRecord :=
  match v with
  | .error message => { kind := v.kind, message := some message }
  | .pace p => { kind := v.kind, secondsPerKilometer := some p.secondsPerKilometer }
  | .operator op => { kind := v.kind, operator := some op.symbol }
  | .duration seconds => { kind := v.kind, seconds := some seconds }
  | .distance d => { kind := v.kind, meters := some d.meters }
  | .constant amount => { kind := v.kind, amount := some amount }

namespace ValueRecord

def missingMessage (field : String) (kind : Kind) : String :=
  "Missing field '" ++ field ++ "' for " ++ kind.name

def unknownOperatorMessage (symbol : String) : String := "Unknown operator '" ++ symbol ++ "'"

/-- A race has its own length, whatever is saved. A field that is missing
or unknown makes an error value. -/
def toValue (r : ValueRecord) : Value :=
  let quantity := fun (field : Option Binary64) name (build : Binary64 → Value) =>
    field.elim (.error (missingMessage name r.kind)) build
  match r.kind with
  | .pace => quantity r.secondsPerKilometer "SecondsPerKm" fun x => .pace ⟨x, .pace⟩
  | .speed => quantity r.secondsPerKilometer "SecondsPerKm" fun x => .pace ⟨x, .speed⟩
  | .duration => quantity r.seconds "Seconds" .duration
  | .distance => quantity r.meters "Meters" fun x => .distance (.plain x)
  | .constant => quantity r.amount "Value" .constant
  | .marathon => .distance .marathon
  | .halfMarathon => .distance .halfMarathon
  | .operator =>
    match r.operator with
    | none => .error (missingMessage "Operator" r.kind)
    | some symbol =>
      match Operator.ofSymbol? symbol with
      | some op => .operator op
      | none => .error (unknownOperatorMessage symbol)
  | .error => .error (r.message.getD "")

end ValueRecord

def Calculation.toRecord (c : Calculation) : CalculationRecord :=
  ⟨c.parts.map Value.toRecord, c.result.map Value.toRecord⟩

/-- The calculation as it was saved; nothing is calculated again. -/
def CalculationRecord.toCalculation (r : CalculationRecord) : Calculation :=
  ⟨r.parts.map ValueRecord.toValue, r.result.map ValueRecord.toValue⟩

/-! ## Records and JSON -/

namespace ValueRecord

/-- Fields that are not there are not written. -/
def toJson (r : ValueRecord) : Json :=
  let field := fun name (value : Option Json) => value.toList.map fun j => (name, j)
  .ofFields
    (("Type", .ofNat r.kind.tag) :: field "Meters" (r.meters.map .ofBinary64)
      ++ field "Seconds" (r.seconds.map .ofBinary64)
      ++ field "SecondsPerKm" (r.secondsPerKilometer.map .ofBinary64)
      ++ field "Value" (r.amount.map .ofBinary64)
      ++ field "Operator" (r.operator.map .text) ++ field "Message" (r.message.map .text))

def decodeKind : Json.Decoder Kind := fun j =>
  match Json.decodeByte j with
  | .error problem => .error problem
  | .ok tag =>
    match Kind.ofTag? tag with
    | some kind => .ok kind
    | none => .error (.unknown (Kind.unknownTagMessage tag))

def fields : List (Json.Field ValueRecord) :=
  let number := Json.decodeOption Json.decodeBinary64
  let string := Json.decodeOption Json.decodeString
  [⟨"Type", true, fun j r => (decodeKind j).map fun x => { r with kind := x }⟩,
    ⟨"Meters", false, fun j r => (number j).map fun x => { r with meters := x }⟩,
    ⟨"Seconds", false, fun j r => (number j).map fun x => { r with seconds := x }⟩,
    ⟨"SecondsPerKm", false, fun j r => (number j).map fun x => { r with secondsPerKilometer := x }⟩,
    ⟨"Value", false, fun j r => (number j).map fun x => { r with amount := x }⟩,
    ⟨"Operator", false, fun j r => (string j).map fun x => { r with operator := x }⟩,
    ⟨"Message", false, fun j r => (string j).map fun x => { r with message := x }⟩]

def decode : Json.Decoder ValueRecord :=
  Json.Field.decodeRecord "struct PlainValue" fields { kind := .error }

end ValueRecord

namespace CalculationRecord

def toJson (r : CalculationRecord) : Json :=
  .ofFields
    (("Parts", .array (r.parts.map ValueRecord.toJson))
      :: (r.result.toList.map fun v => ("Result", v.toJson)))

def fields : List (Json.Field CalculationRecord) :=
  [⟨"Parts", true, fun j r =>
      (Json.decodeList ValueRecord.decode j).map fun x => { r with parts := x }⟩,
    ⟨"Result", false, fun j r =>
      (Json.decodeOption ValueRecord.decode j).map fun x => { r with result := x }⟩]

def decode : Json.Decoder CalculationRecord :=
  Json.Field.decodeRecord "struct PlainCalculation" fields ⟨[], none⟩

end CalculationRecord

namespace Calculation

def toJsonText (c : Calculation) : String := c.toRecord.toJson.compact

def ofJsonText (text : String) : Except Json.Problem Calculation :=
  (Json.decodeText CalculationRecord.decode text).map CalculationRecord.toCalculation

end Calculation

end Stride
