-- The 64 bits of a double precision number: sign, exponent and fraction.
-- A magnitude of `k` doublings above the least step is the bit pattern
-- `k · 2^52` plus its 53 leading digits.
import Stride.Binary64

namespace Stride.Binary64

/-- The exponent field of the infinities, in place. -/
def infinityBits : Nat := 2047 <<< 52

def signBit (negative : Bool) : Nat := if negative then 1 <<< 63 else 0

/-- NaN has one pattern, the positive quiet one. -/
def toBits : Binary64 → Nat
  | .nan => infinityBits + 1 <<< 51
  | .infinite negative => signBit negative + infinityBits
  | .finite negative u _ =>
    signBit negative + ((u.log2 - 52) <<< 52 + u / binaryStep u)

/-- Every NaN pattern reads as the one NaN. -/
def ofBits (bits : Nat) : Binary64 :=
  let negative := bits >>> 63 % 2 == 1
  let magnitude := bits % 1 <<< 63
  let field := magnitude >>> 52
  let fraction := magnitude % 1 <<< 52
  if infinityBits < magnitude then .nan
  else if magnitude = infinityBits then .infinite negative
  else if field = 0 then ofQuotient negative fraction 1
  else ofQuotient negative ((1 <<< 52 + fraction) <<< (field - 1)) 1

end Stride.Binary64
