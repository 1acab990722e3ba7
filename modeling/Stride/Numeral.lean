-- Numbers as a reader sees them: whole digits in groups of three, at most
-- three places after the point.
import Stride.Binary64

namespace Stride

/-- A comma before each group of three digits, counted from the end. -/
def groupThousands : List Char → List Char
  | [] => []
  | [digit] => [digit]
  | digit :: rest =>
    if rest.length % 3 = 0 then digit :: ',' :: groupThousands rest
    else digit :: groupThousands rest

/-- The number with three places, as a count of thousandths: the exact
value rounded, a half to the even one. -/
def thousandths (units : Nat) : Nat := divHalfEven (units * 1000) oneUnits

/-- The point and the places of a count of thousandths, without the zeros
that end them. -/
def fractionText (count : Nat) : List Char :=
  let places := (Nat.toDigits 10 (count % 1000 + 1000)).drop 1
  match (places.reverse.dropWhile (· == '0')).reverse with
  | [] => []
  | kept => '.' :: kept

/-- The number rounded to a thousandth, a half away from zero, unless it is
too large for that. -/
def roundThousandths (x : Binary64) : Binary64 :=
  let scaled := x * 1000
  if scaled.isFinite then scaled.round / 1000 else x

/-- A number in text: `1,234.5`, `-0.25`, `∞`, `NaN`. There is no `-0`. -/
def numeral (x : Binary64) : List Char :=
  match roundThousandths x with
  | .nan => ['N', 'a', 'N']
  | .infinite false => ['∞']
  | .infinite true => ['-', '∞']
  | .finite negative units _ =>
    let count := thousandths units
    let text := groupThousands (Nat.toDigits 10 (count / 1000)) ++ fractionText count
    if negative && count != 0 then '-' :: text else text

end Stride
