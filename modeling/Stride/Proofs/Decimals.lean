-- What a decimal counts as depends on its value alone: zeros at its end and
-- the shortcuts of `ofDecimal` change nothing. So the decimal that is written
-- for a number reads back as that number.
import Mathlib.Algebra.Group.Nat.Defs
import Stride.Binary64.Shortest
import Stride.Proofs.Rounding

namespace Stride

/-! ## Quotients -/

theorem divHalfEven_mul_right (n d : Nat) {k : Nat} (hk : 0 < k) :
    divHalfEven (n * k) (d * k) = divHalfEven n d := by
  have hdiv : n * k / (d * k) = n / d := Nat.mul_div_mul_right n d hk
  have hmod : n * k % (d * k) = n % d * k := Nat.mul_mod_mul_right k n d
  have hlt : 2 * (n % d * k) < d * k ↔ 2 * (n % d) < d := by
    rw [← Nat.mul_assoc]
    exact Nat.mul_lt_mul_right hk
  have heq : 2 * (n % d * k) = d * k ↔ 2 * (n % d) = d := by
    rw [← Nat.mul_assoc]
    exact Nat.mul_left_inj (Nat.ne_of_gt hk)
  unfold divHalfEven
  rw [hdiv, hmod]
  simp only [hlt, heq]

theorem nearestUnits_mul_right (n d : Nat) {k : Nat} (hk : 0 < k) :
    nearestUnits (n * k) (d * k) = nearestUnits n d := by
  unfold nearestUnits
  rw [Nat.mul_div_mul_right n d hk, Nat.mul_right_comm, divHalfEven_mul_right _ _ hk]

theorem nearestUnits_of_small {n d : Nat} (h : 2 * n < d) : nearestUnits n d = 0 := by
  have hdiv : n / d = 0 := Nat.div_eq_of_lt (by omega)
  have hstep : binaryStep 0 = 1 := by decide
  unfold nearestUnits divHalfEven
  rw [hdiv, hstep, Nat.mul_one, Nat.mul_one, hdiv, Nat.mod_eq_of_lt (by omega), if_pos (Or.inl h)]

/-- Rounding does not go below a power of two. -/
theorem two_pow_le_nearestUnits {n d k : Nat} (h : 2 ^ k ≤ n / d) : 2 ^ k ≤ nearestUnits n d := by
  have hne : n / d ≠ 0 := Nat.ne_of_gt (Nat.lt_of_lt_of_le (Nat.two_pow_pos k) h)
  have hle : n / d / binaryStep (n / d) ≤ divHalfEven n (d * binaryStep (n / d)) := by
    rw [Nat.div_div_eq_div_mul]
    unfold divHalfEven
    split <;> omega
  have hstep : binaryStep (n / d) ∣ 2 ^ (n / d).log2 := by
    unfold binaryStep
    rw [Nat.one_shiftLeft]
    exact Nat.pow_dvd_pow 2 (by omega)
  calc 2 ^ k
      ≤ 2 ^ (n / d).log2 := Nat.pow_le_pow_right (by decide) ((Nat.le_log2 hne).2 h)
    _ = 2 ^ (n / d).log2 / binaryStep (n / d) * binaryStep (n / d) :=
        (Nat.div_mul_cancel hstep).symm
    _ ≤ n / d / binaryStep (n / d) * binaryStep (n / d) :=
        Nat.mul_le_mul_right _ (Nat.div_le_div_right (Nat.log2_self_le hne))
    _ ≤ nearestUnits n d := Nat.mul_le_mul_right _ hle

namespace Binary64

theorem ofQuotient_congr {negative : Bool} {n d m e : Nat}
    (h : nearestUnits n d = nearestUnits m e) :
    ofQuotient negative n d = ofQuotient negative m e := by
  unfold ofQuotient
  simp only [h]

theorem ofQuotient_mul_right (negative : Bool) (n d : Nat) {k : Nat} (hk : 0 < k) :
    ofQuotient negative (n * k) (d * k) = ofQuotient negative n d :=
  ofQuotient_congr (nearestUnits_mul_right n d hk)

theorem ofQuotient_of_small (negative : Bool) {n d : Nat} (h : 2 * n < d) :
    ofQuotient negative n d = ofQuotient negative 0 1 :=
  ofQuotient_congr ((nearestUnits_of_small h).trans (nearestUnits_of_small (by decide)).symm)

/-- The exponents of two, as a variable that no tactic multiplies out. -/
theorem exists_powers : ∃ k, oneUnits = 2 ^ k ∧ unitsLimit = 2 ^ (1024 + k) ∧ k = 1074 := by
  obtain ⟨k, hk⟩ : ∃ k, k = 1074 := ⟨1074, rfl⟩
  refine ⟨k, ?_, ?_, hk⟩
  · unfold oneUnits
    rw [← Nat.one_shiftLeft, hk]
  · unfold unitsLimit
    rw [← Nat.one_shiftLeft, hk]

theorem oneUnits_pos : 0 < oneUnits := by
  obtain ⟨k, hone, _⟩ := exists_powers
  rw [hone]
  exact Nat.two_pow_pos k

theorem ofQuotient_of_large (negative : Bool) {n d : Nat} (h : unitsLimit ≤ n / d) :
    ofQuotient negative n d = .infinite negative := by
  obtain ⟨k, _, hlimit, _⟩ := exists_powers
  have hunits : unitsLimit ≤ nearestUnits n d := by
    rw [hlimit] at h ⊢
    exact two_pow_le_nearestUnits h
  unfold ofQuotient
  rw [dif_neg (Nat.not_lt.2 hunits)]

/-! ## Decimals -/

/-- So few digits so far behind the point come to less than half a unit. -/
theorem two_mul_lt_pow_ten {digits places k : Nat} (h : digits.log2 + (k + 6) ≤ 3 * places) :
    2 * (digits * 2 ^ k) < 10 ^ places := by
  have hdigits : digits < 2 ^ (digits.log2 + 1) := Nat.lt_log2_self
  calc 2 * (digits * 2 ^ k)
      < 2 * (2 ^ (digits.log2 + 1) * 2 ^ k) :=
        Nat.mul_lt_mul_of_pos_left
          (Nat.mul_lt_mul_of_pos_right hdigits (Nat.two_pow_pos k)) (by decide)
    _ = 2 ^ (digits.log2 + 1 + k + 1) := by rw [← Nat.pow_add, Nat.mul_comm, ← Nat.pow_succ]
    _ ≤ 2 ^ (3 * places) := Nat.pow_le_pow_right (by decide) (by omega)
    _ = (2 ^ 3) ^ places := Nat.pow_mul ..
    _ ≤ 10 ^ places := Nat.pow_le_pow_left (by decide) places

/-- So many places before the point come to more than a finite number has. -/
theorem two_pow_le_pow_ten {digits exponent j k m : Nat} (hdigits : digits ≠ 0)
    (hpow : 2 ^ j ≤ 10 ^ k) (h : k ≤ exponent) :
    2 ^ (j + m) ≤ digits * 10 ^ exponent * 2 ^ m := by
  have hten : 10 ^ k ≤ 10 ^ exponent := Nat.pow_le_pow_right (by decide) h
  have hmul : 10 ^ exponent ≤ digits * 10 ^ exponent := Nat.le_mul_of_pos_left _ (by omega)
  rw [Nat.pow_add]
  exact Nat.mul_le_mul_right _ (Nat.le_trans hpow (Nat.le_trans hten hmul))

theorem pow_five_mul_pow_two (k : Nat) : Nat.pow 5 k * 2 ^ k = 10 ^ k := (Nat.mul_pow 5 2 k).symm

/-- The shortcuts for zeros and infinities give what the quotient gives. -/
theorem ofDecimal_eq (negative : Bool) (digits : Nat) (exponent : Int) :
    ofDecimal negative digits exponent =
      ofQuotient negative (digits * 10 ^ exponent.toNat * oneUnits)
        (10 ^ (-exponent).toNat) := by
  obtain ⟨k, hone, hlimit, hk⟩ := exists_powers
  unfold ofDecimal
  split
  next hzero =>
    rcases hzero with rfl | hsmall
    · have hpos : 0 < 10 ^ (-exponent).toNat := Nat.pow_pos (by decide)
      exact (ofQuotient_of_small negative (by omega)).symm
    · have hexponent : exponent.toNat = 0 := by omega
      rw [hexponent, Nat.pow_zero, Nat.mul_one, hone]
      exact (ofQuotient_of_small negative (two_mul_lt_pow_ten (by omega))).symm
  next hzero =>
    split
    next hlarge =>
      have hplaces : (-exponent).toNat = 0 := by omega
      have hdigits : digits ≠ 0 := fun h => hzero (Or.inl h)
      have hpow : 2 ^ 1024 ≤ 10 ^ 310 := by decide +kernel
      rw [hplaces, Nat.pow_zero, hone]
      apply (ofQuotient_of_large negative _).symm
      rw [Nat.div_one, hlimit]
      exact two_pow_le_pow_ten hdigits hpow (by omega)
    next => rfl

theorem ofDecimal_zero (negative : Bool) (exponent : Int) :
    ofDecimal negative 0 exponent = ofQuotient negative 0 1 := by
  unfold ofDecimal
  rw [if_pos (Or.inl rfl)]

/-- Zeros at the end of the digits can be counted by the exponent. -/
theorem ofDecimal_mul_pow (negative : Bool) (digits k : Nat) (exponent : Int) :
    ofDecimal negative (digits * 10 ^ k) exponent = ofDecimal negative digits (exponent + k) := by
  rw [ofDecimal_eq, ofDecimal_eq]
  -- The exponents on both sides differ by a power of ten that cancels.
  obtain ⟨m, hm, hn⟩ : ∃ m, k + exponent.toNat = (exponent + k).toNat + m ∧
      (-exponent).toNat = (-(exponent + k)).toNat + m :=
    ⟨(-exponent).toNat - (-(exponent + k)).toNat, by omega, by omega⟩
  have hnum : digits * 10 ^ k * 10 ^ exponent.toNat * oneUnits =
      digits * 10 ^ (exponent + k).toNat * oneUnits * 10 ^ m := by
    rw [Nat.mul_assoc digits, ← Nat.pow_add, hm, Nat.pow_add, ← Nat.mul_assoc, Nat.mul_right_comm]
  rw [hnum, hn, Nat.pow_add]
  exact ofQuotient_mul_right _ _ _ (Nat.pow_pos (by decide))

/-- A number is a decimal: with all of its digits it reads back. -/
theorem ofDecimal_exact (negative : Bool) {u k : Nat} (h : Representable u) (hk : k = 1074) :
    ofDecimal negative (u * Nat.pow 5 k) (-1074) = .finite negative u h := by
  obtain ⟨j, hone, _, hj⟩ := exists_powers
  obtain rfl : j = k := hj.trans hk.symm
  have hscale := ofQuotient_mul_right negative u 1 (k := 10 ^ j) (Nat.pow_pos (by decide))
  have hwhole : (-1074 : Int).toNat = 0 := rfl
  have hplaces : (-(-1074) : Int).toNat = j := hj.symm
  rw [Nat.one_mul, ofQuotient_self negative h] at hscale
  rw [ofDecimal_eq, hwhole, hplaces, Nat.pow_zero, Nat.mul_one, hone, Nat.mul_assoc,
    pow_five_mul_pow_two, hscale]

end Binary64

/-! ## The shortest decimal -/

namespace Decimal

theorem divHalfEven_eq (n d : Nat) : divHalfEven n d = n / d ∨ divHalfEven n d = n / d + 1 := by
  unfold divHalfEven
  split
  · exact Or.inl rfl
  · exact Or.inr rfl

/-- A neighbour that is given reads back. -/
theorem ofDecimal_of_neighbour? {x : Binary64} {negative : Bool} {exact grid : Nat}
    {exponent : Int} {d : Decimal} (h : neighbour? x negative exact grid exponent = some d) :
    Binary64.ofDecimal negative d.digits d.exponent = x := by
  unfold neighbour? at h
  simp only [decide_eq_true_eq] at h
  split at h
  next hlow =>
    split at h
    next hhigh =>
      cases h
      rcases divHalfEven_eq exact grid with hd | hd <;> rw [hd] <;> assumption
    next =>
      cases h
      exact hlow
  next =>
    split at h
    next hhigh =>
      cases h
      exact hhigh
    next => cases h

/-- The decimal that is chosen for a finite number reads back as it. -/
theorem ofDecimal_shortest (negative : Bool) {u : Nat} (h : Representable u) :
    Binary64.ofDecimal negative (shortest (.finite negative u h)).digits
      (shortest (.finite negative u h)).exponent = .finite negative u h := by
  obtain ⟨k, hk⟩ : ∃ k, k = 1074 := ⟨1074, rfl⟩
  unfold shortest
  rw [← hk]
  dsimp only
  generalize hsearch : List.findSome? _ _ = found
  cases found with
  | none => exact Binary64.ofDecimal_exact negative h hk
  | some d =>
    obtain ⟨_, _, hd⟩ := List.exists_of_findSome?_eq_some hsearch
    exact ofDecimal_of_neighbour? hd

end Decimal

end Stride
