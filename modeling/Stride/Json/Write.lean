-- JSON text: on one line without blanks, or with each item on a line of its
-- own, two blanks deeper than what holds it.
import Stride.Json

namespace Stride.Json

/-! ## Strings -/

def hexDigit (n : Nat) : Char := (Nat.toDigits 16 n).getLastD '0'

/-- Only quotes, backslashes and control characters are escaped. -/
def escapeChar (c : Char) : List Char :=
  if c = '"' then ['\\', '"']
  else if c = '\\' then ['\\', '\\']
  else if c = '\x08' then ['\\', 'b']
  else if c = '\x0C' then ['\\', 'f']
  else if c = '\n' then ['\\', 'n']
  else if c = '\r' then ['\\', 'r']
  else if c = '\t' then ['\\', 't']
  else if c.toNat < 0x20 then
    ['\\', 'u', '0', '0', hexDigit (c.toNat / 16), hexDigit (c.toNat % 16)]
  else [c]

def quote (s : List Char) : List Char := '"' :: s.flatMap escapeChar ++ ['"']

/-! ## Documents -/

/-- How the parts of a container are laid out at a depth. -/
structure Layout where
  /-- Before an item or a closing bracket. -/
  newline : Nat → List Char
  colon : List Char

def compactLayout : Layout where
  newline _ := []
  colon := [':']

def prettyLayout : Layout where
  newline depth := '\n' :: List.replicate (2 * depth) ' '
  colon := [':', ' ']

mutual

/-- The text at a depth. What cannot be read or kept has no text. -/
def write (layout : Layout) (depth : Nat) : Json → List Char
  | .null => ['n', 'u', 'l', 'l']
  | .bool true => ['t', 'r', 'u', 'e']
  | .bool false => ['f', 'a', 'l', 's', 'e']
  | .number n => n.text
  | .string s => s.elim [] (quote ·.toList)
  | .array [] => ['[', ']']
  | .array (item :: rest) =>
    '[' :: layout.newline (depth + 1) ++ write layout (depth + 1) item
      ++ writeItems layout (depth + 1) rest ++ layout.newline depth ++ [']']
  | .object [] => ['\x7b', '\x7d']
  | .object ((key, value) :: rest) =>
    '\x7b' :: layout.newline (depth + 1) ++ key.elim [] (quote ·.toList) ++ layout.colon
      ++ write layout (depth + 1) value
      ++ writeMembers layout (depth + 1) rest ++ layout.newline depth ++ ['\x7d']
  | .unreadable => []

def writeItems (layout : Layout) (depth : Nat) : List Json → List Char
  | [] => []
  | item :: rest =>
    ',' :: layout.newline depth ++ write layout depth item ++ writeItems layout depth rest

def writeMembers (layout : Layout) (depth : Nat) : List (Option String × Json) → List Char
  | [] => []
  | (key, value) :: rest =>
    ',' :: layout.newline depth ++ key.elim [] (quote ·.toList) ++ layout.colon
      ++ write layout depth value ++ writeMembers layout depth rest

end

def compact (j : Json) : String := String.ofList (write compactLayout 0 j)

def pretty (j : Json) : String := String.ofList (write prettyLayout 0 j)

end Stride.Json
