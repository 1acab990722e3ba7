-- Numbers as JSON writes them. A number is kept as its digits, so that
-- reading loses nothing and what it counts as is decided by its reader.
import Stride.Binary64.Shortest

namespace Stride.Json

/-- `-12.50e+3` has the whole digits `12`, the fraction digits `50` and the
exponent `3`. -/
structure Number where
  negative : Bool
  whole : List Char
  fraction : List Char
  exponent : Option Int
deriving DecidableEq

namespace Number

/-! ## What a number counts as -/

/-- Written without a point and without an exponent. -/
def isWhole (n : Number) : Bool := n.fraction.isEmpty && n.exponent.isNone

/-- The digits as one whole number. -/
def digits (n : Number) : Nat := Nat.ofDigitChars 10 (n.whole ++ n.fraction) 0

def toBinary64 (n : Number) : Binary64 :=
  Binary64.ofDecimal n.negative n.digits (n.exponent.getD 0 - n.fraction.length)

/-- The number as a 64-bit integer, signed if it has a minus sign. `-0` is
no integer. -/
def toInteger? (n : Number) : Option Int :=
  if !n.isWhole then none
  else if n.negative then
    if 0 < n.digits ∧ n.digits ≤ 1 <<< 63 then some (-n.digits) else none
  else
    if n.digits < 1 <<< 64 then some n.digits else none

/-! ## How a number is written -/

def exponentText (exponent : Int) : List Char :=
  'e' :: (if exponent < 0 then '-' else '+') :: Nat.toDigits 10 exponent.natAbs

def text (n : Number) : List Char :=
  (if n.negative then ['-'] else []) ++ n.whole
    ++ (if n.fraction.isEmpty then [] else '.' :: n.fraction)
    ++ n.exponent.elim [] exponentText

/-- Digits on both sides of the point, zeros where there are none. -/
def positional (negative : Bool) (d : Decimal) : Number :=
  let ds := d.significant
  let point := d.point.toNat
  let whole := ds.take point ++ List.replicate (point - ds.length) '0'
  let fraction := List.replicate (-d.point).toNat '0' ++ ds.drop point
  { negative
    whole := if whole.isEmpty then ['0'] else whole
    fraction := if fraction.isEmpty then ['0'] else fraction
    exponent := none }

/-- One digit before the point. -/
def scientific (negative : Bool) (d : Decimal) : Number :=
  { negative
    whole := d.significant.take 1
    fraction := d.significant.drop 1
    exponent := some (d.point - 1) }

/-- The shortest decimal that reads back: with an exponent below `0.00001`
and from sixteen whole digits on, and otherwise always with a point. -/
def ofDecimal (negative : Bool) (d : Decimal) : Number :=
  if d.digits = 0 then ⟨negative, ['0'], ['0'], none⟩
  else if -5 < d.point ∧ d.point ≤ 16 then positional negative d
  else scientific negative d

/-- The text of a finite number; there is none for the others. -/
def ofBinary64? (x : Binary64) : Option Number :=
  match x with
  | .finite negative _ _ => some (ofDecimal negative (Decimal.shortest x))
  | _ => none

end Number

end Stride.Json
