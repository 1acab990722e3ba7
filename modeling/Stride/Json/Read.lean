-- Reading JSON text. The reader never fails: it gives the document as far
-- as the text is JSON, and the text that is left, if it got to the end of
-- the document.
import Stride.Json
import Stride.Text.Scan

namespace Stride.Json

def isSpace (c : Char) : Bool := c == ' ' || c == '\n' || c == '\r' || c == '\t'

def skipSpace (s : List Char) : List Char := s.dropWhile isSpace

/-! ## Strings -/

def hexUnit? (a b c d : Char) : Option Nat := do
  return (((← hexValue? a) * 16 + (← hexValue? b)) * 16 + (← hexValue? c)) * 16 + (← hexValue? d)

def unescape? : Char → Option Char
  | '"' => some '"'
  | '\\' => some '\\'
  | '/' => some '/'
  | 'b' => some '\x08'
  | 'f' => some '\x0C'
  | 'n' => some '\n'
  | 'r' => some '\r'
  | 't' => some '\t'
  | _ => none

/-- The code points up to the closing quote, halves of surrogate pairs
apart, and the text behind it. -/
def readUnits : List Char → Option (List Nat × List Char)
  | [] => none
  | '"' :: rest => some ([], rest)
  | '\\' :: 'u' :: a :: b :: c :: d :: rest =>
    match hexUnit? a b c d, readUnits rest with
    | some unit, some (units, rest) => some (unit :: units, rest)
    | _, _ => none
  | '\\' :: e :: rest =>
    match unescape? e, readUnits rest with
    | some c, some (units, rest) => some (c.toNat :: units, rest)
    | _, _ => none
  | c :: rest =>
    if c.toNat < 0x20 then none
    else (readUnits rest).map fun (units, rest) => (c.toNat :: units, rest)

def isHighSurrogate (u : Nat) : Bool := 0xD800 ≤ u && u < 0xDC00

def isLowSurrogate (u : Nat) : Bool := 0xDC00 ≤ u && u < 0xE000

/-- The characters of code points in which a high and a low half that
follow each other are one character. A half alone is none. -/
def joinSurrogates : List Nat → Option (List Char)
  | [] => some []
  | [unit] =>
    if isHighSurrogate unit || isLowSurrogate unit then none else some [Char.ofNat unit]
  | first :: second :: rest =>
    if isHighSurrogate first && isLowSurrogate second then
      (joinSurrogates rest).map
        (Char.ofNat (0x10000 + (first - 0xD800) * 0x400 + (second - 0xDC00)) :: ·)
    else if isHighSurrogate first || isLowSurrogate first then none
    else (joinSurrogates (second :: rest)).map (Char.ofNat first :: ·)

/-- A string after its opening quote. -/
def readString? (s : List Char) : Option (Option String × List Char) :=
  (readUnits s).map fun (units, rest) => ((joinSurrogates units).map String.ofList, rest)

/-! ## Numbers -/

def readSign : List Char → Bool × List Char
  | '-' :: rest => (true, rest)
  | s => (false, s)

/-- A number has no zeros in front and a digit on both sides of a point. -/
def readWhole? (s : List Char) : Option (List Char × List Char) :=
  match s.takeWhile Char.isDigit with
  | [] => none
  | '0' :: _ :: _ => none
  | ds => some (ds, s.dropWhile Char.isDigit)

def readFraction? : List Char → Option (List Char × List Char)
  | '.' :: s =>
    match s.takeWhile Char.isDigit with
    | [] => none
    | ds => some (ds, s.dropWhile Char.isDigit)
  | s => some ([], s)

def exponentSign : List Char → Bool × List Char
  | '+' :: rest => (false, rest)
  | s => readSign s

def readExponent? : List Char → Option (Option Int × List Char)
  | 'e' :: s | 'E' :: s =>
    let (negative, s) := exponentSign s
    match s.takeWhile Char.isDigit with
    | [] => none
    | ds =>
      let magnitude : Int := Nat.ofDigitChars 10 ds 0
      some (some (if negative then -magnitude else magnitude), s.dropWhile Char.isDigit)
  | s => some (none, s)

def readNumber? (s : List Char) : Option (Number × List Char) := do
  let (negative, s) := readSign s
  let (whole, s) ← readWhole? s
  let (fraction, s) ← readFraction? s
  let (exponent, s) ← readExponent? s
  return (⟨negative, whole, fraction, exponent⟩, s)

/-! ## Documents -/

/-- A document and the text behind it, which is missing where the reading
stopped inside. -/
abbrev Reading (α : Type) := α × Option (List Char)

def stopped : Reading Json := (.unreadable, none)

def readWord (word : String) (value : Json) (s : List Char) : Reading Json :=
  match readWord? word.toList s with
  | some rest => (value, some rest)
  | none => stopped

mutual

/-- A value. The fuel bounds how deep and how far the reading goes; twice
the number of characters is enough. -/
def readValue (fuel : Nat) (s : List Char) : Reading Json :=
  match fuel with
  | 0 => stopped
  | fuel + 1 =>
    match skipSpace s with
    | '[' :: s =>
      match skipSpace s with
      | ']' :: rest => (.array [], some rest)
      | s => let (items, rest) := readItems fuel s; (.array items, rest)
    | '\x7b' :: s =>
      match skipSpace s with
      | '\x7d' :: rest => (.object [], some rest)
      | s => let (members, rest) := readMembers fuel s; (.object members, rest)
    | '"' :: s =>
      match readString? s with
      | some (text, rest) => (.string text, some rest)
      | none => stopped
    | 'n' :: s => readWord "ull" .null s
    | 't' :: s => readWord "rue" (.bool true) s
    | 'f' :: s => readWord "alse" (.bool false) s
    | s =>
      match readNumber? s with
      | some (n, rest) => (.number n, some rest)
      | none => stopped

/-- The items from the first or after a comma. -/
def readItems (fuel : Nat) (s : List Char) : Reading (List Json) :=
  match fuel with
  | 0 => ([.unreadable], none)
  | fuel + 1 =>
    match readValue fuel s with
    | (item, none) => ([item], none)
    | (item, some s) =>
      match skipSpace s with
      | ',' :: s => let (items, rest) := readItems fuel s; (item :: items, rest)
      | ']' :: rest => ([item], some rest)
      | _ => ([item, .unreadable], none)

/-- The members from the first or after a comma. -/
def readMembers (fuel : Nat) (s : List Char) : Reading (List (Option String × Json)) :=
  match fuel with
  | 0 => ([(none, .unreadable)], none)
  | fuel + 1 =>
    match skipSpace s with
    | '"' :: s =>
      match readString? s with
      | none => ([(none, .unreadable)], none)
      | some (key, s) =>
        match skipSpace s with
        | ':' :: s =>
          match readValue fuel s with
          | (value, none) => ([(key, value)], none)
          | (value, some s) =>
            match skipSpace s with
            | ',' :: s => let (members, rest) := readMembers fuel s; ((key, value) :: members, rest)
            | '\x7d' :: rest => ([(key, value)], some rest)
            | _ => ([(key, value), (none, .unreadable)], none)
        | _ => ([(key, .unreadable)], none)
    | _ => ([(none, .unreadable)], none)

end

/-- The document at the start of a text, and whether the text ends with it. -/
def read (s : List Char) : Json × Bool :=
  let (document, rest) := readValue (2 * s.length + 2) s
  (document, rest.any fun rest => (skipSpace rest).isEmpty)

end Stride.Json
