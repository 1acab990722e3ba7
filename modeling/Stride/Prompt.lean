-- A line at the prompt: an expression, and a mark at its end that saves it.
import Stride.Text.Blank

namespace Stride

structure PromptLine where
  expression : String
  save : Bool
deriving DecidableEq, Repr

/-- A `!` at the end saves. Blanks before it are dropped. -/
def PromptLine.ofText (line : String) : PromptLine :=
  match line.toList.reverse with
  | '!' :: rest => ⟨String.ofList (trimBlanksEnd rest.reverse), true⟩
  | _ => ⟨line, false⟩

end Stride
