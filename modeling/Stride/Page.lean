-- Calculations as JSON, for a page that shows them: what each token is,
-- what it reads as, and the pieces of its text.
import Stride.Record

namespace Stride

def Piece.toJson (p : Piece) : Json := .ofFields [("value", .text p.value), ("unit", .text p.unit)]

def Value.toJson (units : UnitSystem) (v : Value) : Json :=
  .ofFields
    [("kind", .ofNat v.kind.tag), ("text", .text (v.render units)),
      ("pieces", .array ((v.pieces units).map Piece.toJson))]

def Calculation.partsJson (units : UnitSystem) (c : Calculation) : Json :=
  .array (c.parts.map (Value.toJson units))

/-- Null where there is nothing. -/
def Json.orNull (value : Option Json) : Json := value.getD .null

namespace Page

/-- Why a page gets no calculation. -/
inductive Problem where
  | unknownUnits (name : String)
  | unreadable (problem : Json.Problem)
deriving DecidableEq, Repr

def Problem.message : Problem → String
  | .unknownUnits name => UnitSystem.unknownMessage name
  | .unreadable problem => "JSON error: " ++ problem.message?.getD "malformed text"

def success (units : UnitSystem) (c : Calculation) : Json :=
  .ofFields
    [("success", .bool true), ("ok", .bool c.isOk), ("error", .orNull (c.message?.map .text)),
      ("parts", c.partsJson units),
      ("result", .orNull (c.result.map fun v => .text (v.render units))),
      ("plain", c.toRecord.toJson)]

def failure (error : Json) : Json :=
  .ofFields
    [("success", .bool false), ("ok", .bool false), ("error", error), ("parts", .array []),
      ("result", .null), ("plain", .null)]

def unitsNamed (name : String) : Except Problem UnitSystem :=
  match UnitSystem.ofName? name with
  | some units => .ok units
  | none => .error (.unknownUnits name)

/-- Reads an expression under the unit system of a name. -/
def calculate (input unitsName : String) : Except Problem (UnitSystem × Calculation) := do
  let units ← unitsNamed unitsName
  return (units, .ofExpression units input)

/-- Reads a saved calculation. The name of the unit system is looked at
first. -/
def restore (text unitsName : String) : Except Problem (UnitSystem × Calculation) := do
  let units ← unitsNamed unitsName
  match Calculation.ofJsonText text with
  | .ok c => return (units, c)
  | .error problem => throw (.unreadable problem)

def answer : Except Problem (UnitSystem × Calculation) → Json
  | .ok (units, c) => success units c
  | .error problem => failure (.text problem.message)

end Page

end Stride
