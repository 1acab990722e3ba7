-- The tables that are shown: a calculation with its tokens, the history,
-- the samples.
import Stride.Calculation
import Stride.Table

namespace Stride

/-- What an expression comes to, or `?`. -/
def Calculation.resultText (units : UnitSystem) (c : Calculation) : String :=
  (c.result.map (Value.render units)).getD "?"

/-- The result alone, if it is no error. -/
def Calculation.rawText (units : UnitSystem) (c : Calculation) : String :=
  match c.result with
  | some v => if v.isError then "" else v.render units ++ "\n"
  | none => ""

namespace Table

/-- A row for each token, and one for the result. -/
def ofCalculation (units : UnitSystem) (c : Calculation) : Table where
  header := ["Token", "Kind"]
  rows :=
    (c.parts.map fun v => [⟨v.render units, .left⟩, ⟨v.kind.label, .left⟩])
      ++ c.result.toList.map fun v => [⟨"= " ++ v.render units, .left⟩, ⟨v.kind.label, .left⟩]

/-- Calculations with the numbers by which they are removed. -/
def ofHistory (units : UnitSystem) (calculations : List Calculation) : Table where
  header := ["#", "Calculation", "Result"]
  rows := calculations.mapIdx fun i c =>
    [⟨(i + 1).repr, .right⟩, ⟨c.toInput units, .left⟩, ⟨c.resultText units, .left⟩]

def ofSamples (units : UnitSystem) (samples : List (String × Calculation)) : Table where
  header := ["Expression", "Result"]
  rows := samples.map fun (expression, c) => [⟨expression, .left⟩, ⟨c.resultText units, .left⟩]

end Table

/-- The history as text; an empty one has no table. -/
def historyText (units : UnitSystem) (calculations : List Calculation) : String :=
  if calculations.isEmpty then "No saved calculations\n"
  else (Table.ofHistory units calculations).text

/-- The sample expressions and what they come to. -/
def samples (units : UnitSystem) : List (String × Calculation) :=
  sampleExpressions.map fun e => (e, .ofExpression units e)

end Stride
