-- Double precision numbers, computed exactly. Every finite one is a whole
-- number of units of 2^-1074, so its magnitude is a natural number here,
-- and every operation is the exact result on those counts, rounded once
-- to the nearest number that fits 53 binary digits, a tie to the even one.

namespace Stride

/-! ## Which magnitudes exist -/

/-- The gap between neighbours at magnitude `u`: the least power of two
that leaves at most 53 binary digits. -/
def binaryStep (u : Nat) : Nat := 1 <<< (u.log2 - 52)

/-- The units of the number one. -/
@[irreducible] def oneUnits : Nat := 1 <<< 1074

/-- The first magnitude too large for a finite number, 2^1024. -/
@[irreducible] def unitsLimit : Nat := 1 <<< 2098

/-- A magnitude that a finite number can have. -/
def Representable (u : Nat) : Prop := u < unitsLimit ∧ binaryStep u ∣ u

instance (u : Nat) : Decidable (Representable u) :=
  inferInstanceAs (Decidable (u < unitsLimit ∧ binaryStep u ∣ u))

/-- A double precision number. Equality is equality of every bit, with
one NaN: `0` and `-0` differ. -/
inductive Binary64 where
  | nan
  | infinite (negative : Bool)
  | finite (negative : Bool) (units : Nat) (fits : Representable units)
deriving DecidableEq

/-! ## Rounding a quotient -/

/-- The whole number nearest to `n / d`; a half goes to the even one. -/
def divHalfEven (n d : Nat) : Nat :=
  if 2 * (n % d) < d ∨ 2 * (n % d) = d ∧ n / d % 2 = 0 then n / d else n / d + 1

/-- The multiple of the step at `n / d` that is nearest to `n / d`. -/
def nearestUnits (n d : Nat) : Nat :=
  divHalfEven n (d * binaryStep (n / d)) * binaryStep (n / d)

theorem divHalfEven_le (n d : Nat) : divHalfEven n d ≤ n / d + 1 := by
  unfold divHalfEven; split <;> omega

theorem binaryStep_pos (u : Nat) : 0 < binaryStep u := by
  unfold binaryStep
  rw [Nat.one_shiftLeft]
  exact Nat.two_pow_pos _

theorem div_binaryStep_lt (u : Nat) : u / binaryStep u < 1 <<< 53 := by
  unfold binaryStep
  rw [Nat.one_shiftLeft, Nat.one_shiftLeft, Nat.div_lt_iff_lt_mul (Nat.two_pow_pos _),
    ← Nat.pow_add]
  exact Nat.lt_of_lt_of_le Nat.lt_log2_self (Nat.pow_le_pow_right (by decide) (by omega))

/-- At most 53 digits, or the power of two just after them, times a power
of two is a multiple of its own step. -/
theorem binaryStep_dvd_shiftLeft (x k : Nat) (h : x ≤ 1 <<< 53) :
    binaryStep (x <<< k) ∣ x <<< k := by
  unfold binaryStep
  rw [Nat.one_shiftLeft] at h
  rw [Nat.one_shiftLeft, Nat.shiftLeft_eq]
  by_cases hx : x = 0
  · simp [hx]
  by_cases htop : x = 2 ^ 53
  · subst htop
    rw [← Nat.pow_add, Nat.log2_two_pow]
    exact Nat.pow_dvd_pow 2 (by omega)
  · have hlt : x * 2 ^ k < 2 ^ (53 + k) := by
      rw [Nat.pow_add]
      exact Nat.mul_lt_mul_of_pos_right (by omega) (Nat.two_pow_pos k)
    have hlog : (x * 2 ^ k).log2 < 53 + k :=
      (Nat.log2_lt (Nat.mul_ne_zero hx (Nat.ne_of_gt (Nat.two_pow_pos k)))).2 hlt
    exact Nat.dvd_trans (Nat.pow_dvd_pow 2 (by omega)) (Nat.dvd_mul_left _ _)

theorem binaryStep_dvd_nearestUnits (n d : Nat) :
    binaryStep (nearestUnits n d) ∣ nearestUnits n d := by
  have hshift : nearestUnits n d =
      divHalfEven n (d * binaryStep (n / d)) <<< ((n / d).log2 - 52) := by
    rw [Nat.shiftLeft_eq, ← Nat.one_shiftLeft]
    rfl
  rw [hshift]
  apply binaryStep_dvd_shiftLeft
  have hle := divHalfEven_le n (d * binaryStep (n / d))
  have hlt := div_binaryStep_lt (n / d)
  rw [Nat.div_div_eq_div_mul] at hlt
  omega

namespace Binary64

/-! ## Building numbers -/

/-- The number nearest to `n / d` units, or infinity beyond the limit. -/
def ofQuotient (negative : Bool) (n d : Nat) : Binary64 :=
  if h : nearestUnits n d < unitsLimit then
    .finite negative (nearestUnits n d) ⟨h, binaryStep_dvd_nearestUnits n d⟩
  else
    .infinite negative

@[irreducible] def ofNat (n : Nat) : Binary64 := ofQuotient false (n * oneUnits) 1

/-- `digits · 10^exponent`, rounded once. The first cases only keep the
powers small: such a number rounds to zero, or is beyond the limit. -/
@[irreducible] def ofDecimal (negative : Bool) (digits : Nat) (exponent : Int) : Binary64 :=
  if digits = 0 ∨ digits.log2 + 1080 ≤ 3 * (-exponent).toNat then
    ofQuotient negative 0 1
  else if 309 < exponent then
    .infinite negative
  else
    ofQuotient negative (digits * Nat.pow 10 exponent.toNat * oneUnits)
      (Nat.pow 10 (-exponent).toNat)

instance (n : Nat) : OfNat Binary64 n := ⟨ofNat n⟩

instance : OfScientific Binary64 where
  ofScientific digits fractional places :=
    ofDecimal false digits (if fractional then -(places : Int) else places)

/-! ## Questions -/

def isFinite (x : Binary64) : Bool := x matches .finite ..

def isZero : Binary64 → Bool
  | .finite _ u _ => u == 0
  | _ => false

/-- The place of a number on the line, in units, with infinity at the
limit; NaN has none. -/
def place? : Binary64 → Option Int
  | .nan => none
  | .infinite negative => some (if negative then -unitsLimit else unitsLimit)
  | .finite negative u _ => some (if negative then -u else u)

/-- Strictly less; never true of NaN, nor of two zeros. -/
def lt (x y : Binary64) : Bool :=
  match x.place?, y.place? with
  | some a, some b => a < b
  | _, _ => false

/-! ## Arithmetic -/

/-- A sum of opposite numbers is `0`, never `-0`. -/
def add : Binary64 → Binary64 → Binary64
  | .nan, _ | _, .nan => .nan
  | .infinite m, .infinite n => if m = n then .infinite m else .nan
  | .infinite m, .finite .. => .infinite m
  | .finite .., .infinite n => .infinite n
  | .finite m u _, .finite n v _ =>
    if m = n then ofQuotient m (u + v) 1
    else if v < u then ofQuotient m (u - v) 1
    else if u < v then ofQuotient n (v - u) 1
    else ofQuotient false 0 1

def mul : Binary64 → Binary64 → Binary64
  | .nan, _ | _, .nan => .nan
  | .infinite m, .infinite n => .infinite (m ^^ n)
  | .infinite m, .finite n u _ | .finite m u _, .infinite n =>
    if u = 0 then .nan else .infinite (m ^^ n)
  | .finite m u _, .finite n v _ => ofQuotient (m ^^ n) (u * v) oneUnits

def div : Binary64 → Binary64 → Binary64
  | .nan, _ | _, .nan => .nan
  | .infinite _, .infinite _ => .nan
  | .infinite m, .finite n _ _ => .infinite (m ^^ n)
  | .finite m _ _, .infinite n => ofQuotient (m ^^ n) 0 1
  | .finite m u _, .finite n v _ =>
    if v ≠ 0 then ofQuotient (m ^^ n) (u * oneUnits) v
    else if u = 0 then .nan
    else .infinite (m ^^ n)

/-- The remainder of a division toward zero; it has the sign of `x`. -/
def rem : Binary64 → Binary64 → Binary64
  | .finite m u _, .finite _ v _ => if v = 0 then .nan else ofQuotient m (u % v) 1
  | .finite m u h, .infinite _ => .finite m u h
  | _, _ => .nan

instance : Add Binary64 := ⟨add⟩
instance : Mul Binary64 := ⟨mul⟩
instance : Div Binary64 := ⟨div⟩
instance : Mod Binary64 := ⟨rem⟩

/-! ## Whole numbers -/

/-- The nearest whole number; a half goes away from zero. -/
def round : Binary64 → Binary64
  | .finite n u _ => ofQuotient n ((2 * u + oneUnits) / (2 * oneUnits) * oneUnits) 1
  | x => x

/-- The greatest whole number that is not above. -/
def floor : Binary64 → Binary64
  | .finite false u _ => ofQuotient false (u / oneUnits * oneUnits) 1
  | .finite true u _ => ofQuotient true ((u + (oneUnits - 1)) / oneUnits * oneUnits) 1
  | x => x

/-- The whole part as a 64-bit integer, held at the ends of that range;
NaN counts as zero. -/
def toInteger : Binary64 → Int
  | .nan => 0
  | .infinite false => (1 <<< 63 - 1 : Nat)
  | .infinite true => -(1 <<< 63 : Nat)
  | .finite false u _ => (min (u / oneUnits) (1 <<< 63 - 1) : Nat)
  | .finite true u _ => -(min (u / oneUnits) (1 <<< 63) : Nat)

end Binary64

end Stride
