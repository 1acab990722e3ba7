-- A calculation: the tokens of an expression and what they come to.
import Stride.Evaluation
import Stride.Token
import Stride.Value.Render

namespace Stride

structure Calculation where
  parts : List Value
  result : Option Value
deriving DecidableEq

namespace Calculation

/-- There is a result, and it is no error. -/
def isOk (c : Calculation) : Bool := c.result.any fun v => !v.isError

/-- A token or the result is an error. A distance alone has no result and
is neither ok nor an error. -/
def isError (c : Calculation) : Bool := c.parts.any Value.isError || c.result.any Value.isError

/-- The first error message, that of the result last. -/
def message? (c : Calculation) : Option String :=
  (c.parts ++ c.result.toList).findSome? Value.message?

/-- The tokens as text that can be edited. -/
def toInput (units : UnitSystem) (c : Calculation) : String :=
  " ".intercalate (c.parts.map (Value.render units))

end Calculation

/-! ## Reading an expression -/

/-- The tokens of a text without blanks, up to where no token starts, and
the text from there on. -/
def readTokens (units : UnitSystem) (s : List Char) : List Value × List Char :=
  match _h : matchToken units s with
  | none => ([], s)
  | some (v, rest) =>
    let (parts, left) := readTokens units rest
    (v :: parts, left)
termination_by s.length
decreasing_by exact (consumes_of_matchToken _h).length_lt

def withoutBlanks (s : List Char) : List Char := s.filter (!isBlank ·)

/-- Blanks count for nothing: tokens are told apart by what they are. Text
that no token starts is an error of its own, and then there is no result. -/
def Calculation.ofExpression (units : UnitSystem) (input : String) : Calculation :=
  match readTokens units (withoutBlanks input.toList) with
  | (parts, []) => ⟨parts, calculate parts⟩
  | (parts, left) => ⟨parts ++ [.error (String.ofList left)], none⟩

/-! ## Samples -/

def sampleExpressions : List String :=
  ["5km in 25min", "4:25 for 20min 30s", "M in 3:40h", "HM in 72:30min", "6 min/mi for 10km",
    "12.5 km at 3:46 min/km", "4:30 for 12 min in 10 min"]

end Stride
