-- Reports of calculations that failed: what is wrong, and where in the
-- expression.
import Stride.Calculation

namespace Stride

/-! ## Places in an expression -/

/-- The characters from `start` up to `stop`. -/
structure Span where
  start : Nat
  stop : Nat
deriving DecidableEq, Repr

namespace Span

/-- The expression without the blanks at its ends; at least one place. -/
def trimmed (input : List Char) : Span :=
  let start := (input.takeWhile isBlank).length
  ⟨start, max (trimBlanksEnd input).length (start + 1)⟩

/-- Where the `count`-th character that is not blank stands, counted from
zero. -/
def indexOfSignificant? : Nat → List Char → Option Nat
  | _, [] => none
  | count, c :: s =>
    if isBlank c then (indexOfSignificant? count s).map (· + 1)
    else match count with
      | 0 => some 0
      | count + 1 => (indexOfSignificant? count s).map (· + 1)

/-- Where the text that was left over begins. It has no blanks, so it is
found by counting the other characters. -/
def unmatched (input left : List Char) : Span :=
  let consumed := (withoutBlanks input).length - left.length
  let start := (indexOfSignificant? consumed input).getD 0
  ⟨start, max (trimmed input).stop (start + 1)⟩

end Span

/-! ## Reports -/

structure Report where
  title : String
  span : Span
  label : String
  help : String
deriving DecidableEq, Repr

/-- One sentence on a calculation that is not ok. -/
def Calculation.failureMessage (c : Calculation) : String := c.message?.getD "Invalid calculation"

/-- Text that no token starts is told apart from tokens that come to
nothing. -/
def Calculation.report (input : String) (c : Calculation) : Report :=
  match c.parts.findSome? Value.message? with
  | some left =>
    { title := "Could not read '" ++ left ++ "'"
      span := .unmatched input.toList left.toList
      label := "no number, unit or operator matches here"
      help := "Expressions look like 5km in 25min, 4:00 for 10min or 15km/h" }
  | none =>
    { title := "Calculation failed: " ++ c.failureMessage
      span := .trimmed input.toList
      label := c.failureMessage
      help := "Combine a pace with a duration or distance, or a distance with a duration" }

end Stride
