-- The decimal that stands for a double precision number in text: of all
-- decimals that read back as that number, one with the fewest digits, and
-- of those the nearest.
import Stride.Binary64

namespace Stride

/-- The number `digits · 10^exponent`. -/
structure Decimal where
  digits : Nat
  exponent : Int
deriving DecidableEq, Repr

/-- How many decimal digits a number is written with. -/
def decimalLength (n : Nat) : Nat := (Nat.toDigits 10 n).length

namespace Decimal

/-- The decimals of the exponent `exponent` on both sides of
`exact / grid`, those that read back as `x`, and of two the nearer; a tie
goes to the even digit. -/
def neighbour? (x : Binary64) (negative : Bool) (exact grid : Nat) (exponent : Int) :
    Option Decimal :=
  let low := exact / grid
  let reads := fun digits => decide (Binary64.ofDecimal negative digits exponent = x)
  if reads low then
    if reads (low + 1) then some ⟨divHalfEven exact grid, exponent⟩ else some ⟨low, exponent⟩
  else if reads (low + 1) then
    some ⟨low + 1, exponent⟩
  else
    none

/-- The first hit of the search with one digit, two digits, and so on.
All digits of `x` are a hit, so the search finds one. -/
def shortest (x : Binary64) : Decimal :=
  match x with
  | .finite negative units _ =>
    let exact := units * Nat.pow 5 1074
    let length := decimalLength exact
    let search := fun count =>
      let zeros := length - (count + 1)
      neighbour? x negative exact (Nat.pow 10 zeros) (zeros - 1074)
    ((List.range length).findSome? search).getD ⟨exact, -1074⟩
  | _ => ⟨0, 0⟩

/-- The digits without the zeros that end them, most significant first. -/
def significant (d : Decimal) : List Char :=
  (((Nat.toDigits 10 d.digits).reverse.dropWhile (· == '0')).reverse)

/-- Where the point stands, counted from before the first digit. -/
def point (d : Decimal) : Int := decimalLength d.digits + d.exponent

end Decimal

end Stride
