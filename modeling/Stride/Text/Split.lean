-- Cutting a text into parts: at a character, and into lines.

namespace Stride

/-- The parts of a text between the separators. -/
def splitAtChar (separator : Char) : List Char → List (List Char)
  | [] => [[]]
  | c :: s =>
    if c = separator then [] :: splitAtChar separator s
    else match splitAtChar separator s with
      | [] => [[c]]
      | part :: rest => (c :: part) :: rest

/-- The characters that end a line in Unicode. -/
def isLineEnd (c : Char) : Bool :=
  c == '\n' || c == '\r' || c == '\x0b' || c == '\x0c' || c == '\u0085' || c == '\u2028'
    || c == '\u2029'

/-- The lines of a text, each with what ends it. A carriage return and a line
feed end one line together. -/
def splitLines : List Char → List (List Char)
  | [] => []
  | '\r' :: '\n' :: s => ['\r', '\n'] :: splitLines s
  | c :: s =>
    if isLineEnd c then [c] :: splitLines s
    else match splitLines s with
      | [] => [[c]]
      | line :: rest => (c :: line) :: rest

/-- Nothing is lost. -/
theorem flatten_splitLines (s : List Char) : (splitLines s).flatten = s := by
  fun_induction splitLines s <;> simp_all

end Stride
