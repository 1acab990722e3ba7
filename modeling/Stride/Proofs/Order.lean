-- Rounding keeps the order. What is not above a number that exists is not
-- rounded above it, and the operations keep which of two numbers is above.
import Stride.Proofs.Decimals
import Stride.Proofs.Magnitudes

namespace Stride

/-! ## The nearest whole number -/

theorem div_le_divHalfEven (n d : Nat) : n / d ≤ divHalfEven n d := by
  unfold divHalfEven
  split <;> omega

theorem divHalfEven_mono {n m : Nat} (d : Nat) (h : n ≤ m) : divHalfEven n d ≤ divHalfEven m d := by
  have hdiv : n / d ≤ m / d := Nat.div_le_div_right h
  by_cases heq : n / d = m / d
  · -- The whole parts are the same, so the rests decide.
    have hmod : n % d ≤ m % d := by
      have hn := Nat.div_add_mod n d
      have hm := Nat.div_add_mod m d
      rw [heq] at hn
      omega
    unfold divHalfEven
    rw [heq]
    split <;> split <;> omega
  · calc divHalfEven n d
        ≤ n / d + 1 := divHalfEven_le n d
      _ ≤ m / d := by omega
      _ ≤ divHalfEven m d := div_le_divHalfEven m d

/-- Less than half a step above a whole number nothing is rounded up. -/
theorem divHalfEven_le_of_lt {n d k : Nat} (h : 2 * n < (2 * k + 1) * d) : divHalfEven n d ≤ k := by
  have hd : 0 < d := Nat.pos_of_mul_pos_left (Nat.zero_lt_of_lt h)
  have hsplit := Nat.div_add_mod n d
  have hmod := Nat.mod_lt n hd
  rw [Nat.add_mul, Nat.one_mul, Nat.mul_assoc] at h
  have hle : n / d ≤ k := by
    rcases Nat.lt_or_ge k (n / d) with hgt | hle
    · have hmul : (k + 1) * d ≤ n / d * d := Nat.mul_le_mul_right d hgt
      rw [Nat.add_mul, Nat.one_mul, Nat.mul_comm (n / d)] at hmul
      omega
    · exact hle
  by_cases heq : n / d = k
  · have hlow : 2 * (n % d) < d := by
      rw [heq, Nat.mul_comm] at hsplit
      omega
    unfold divHalfEven
    rw [if_pos (Or.inl hlow)]
    exact hle
  · have := divHalfEven_le n d
    omega

/-! ## The nearest magnitude -/

theorem log2_mono {u v : Nat} (h : u ≤ v) : u.log2 ≤ v.log2 := by
  by_cases hzero : u = 0
  · rw [hzero, Nat.log2_zero]
    exact Nat.zero_le _
  · exact (Nat.le_log2 (by omega)).2 (Nat.le_trans (Nat.log2_self_le hzero) h)

theorem binaryStep_eq (u : Nat) : binaryStep u = 2 ^ (u.log2 - 52) := Nat.one_shiftLeft _

/-- Rounding does not go past the next power of two. -/
theorem nearestUnits_le_two_pow (n d : Nat) : nearestUnits n d ≤ 2 ^ ((n / d).log2 + 1) := by
  have hstep : binaryStep (n / d) ∣ 2 ^ ((n / d).log2 + 1) := by
    rw [binaryStep_eq]
    exact Nat.pow_dvd_pow 2 (by omega)
  have hlt : n / d / binaryStep (n / d) < 2 ^ ((n / d).log2 + 1) / binaryStep (n / d) := by
    rw [Nat.div_lt_iff_lt_mul (binaryStep_pos _), Nat.div_mul_cancel hstep]
    exact Nat.lt_log2_self
  have hround := divHalfEven_le n (d * binaryStep (n / d))
  rw [← Nat.div_div_eq_div_mul] at hround
  calc nearestUnits n d
      ≤ 2 ^ ((n / d).log2 + 1) / binaryStep (n / d) * binaryStep (n / d) :=
        Nat.mul_le_mul_right _ (by omega)
    _ = 2 ^ ((n / d).log2 + 1) := Nat.div_mul_cancel hstep

theorem nearestUnits_mono {n m : Nat} (d : Nat) (h : n ≤ m) :
    nearestUnits n d ≤ nearestUnits m d := by
  have hdiv : n / d ≤ m / d := Nat.div_le_div_right h
  by_cases hlog : (n / d).log2 < (m / d).log2
  · -- A power of two is between the quotients.
    have hne : m / d ≠ 0 := by
      intro hzero
      rw [hzero, Nat.log2_zero] at hlog
      omega
    calc nearestUnits n d
        ≤ 2 ^ ((n / d).log2 + 1) := nearestUnits_le_two_pow n d
      _ ≤ 2 ^ (m / d).log2 := Nat.pow_le_pow_right (by decide) hlog
      _ ≤ nearestUnits m d := two_pow_le_nearestUnits (Nat.log2_self_le hne)
  · have hle := log2_mono hdiv
    have hstep : binaryStep (n / d) = binaryStep (m / d) := by
      rw [binaryStep_eq, binaryStep_eq, Nat.le_antisymm hle (by omega)]
    unfold nearestUnits
    rw [hstep]
    exact Nat.mul_le_mul_right _ (divHalfEven_mono _ h)

section Bounds

variable {n d v : Nat}

theorem nearestUnits_mul_self (hv : binaryStep v ∣ v) (hd : 0 < d) :
    nearestUnits (v * d) d = v := by
  have hscale := nearestUnits_mul_right v 1 hd
  rwa [Nat.one_mul, nearestUnits_self hv] at hscale

/-- What is not above a magnitude that a number can have is not rounded above it. -/
theorem nearestUnits_le (hv : binaryStep v ∣ v) (hd : 0 < d) (h : n ≤ v * d) :
    nearestUnits n d ≤ v := by
  rw [← nearestUnits_mul_self hv hd]
  exact nearestUnits_mono d h

theorem le_nearestUnits (hv : binaryStep v ∣ v) (hd : 0 < d) (h : v * d ≤ n) :
    v ≤ nearestUnits n d := by
  rw [← nearestUnits_mul_self hv hd]
  exact nearestUnits_mono d h

end Bounds

/-- Of two magnitudes that numbers can have, the greater is a step above. -/
theorem add_binaryStep_le {u v : Nat} (hu : binaryStep u ∣ u) (hv : binaryStep v ∣ v) (h : u < v) :
    u + binaryStep u ≤ v := by
  -- The next multiple of the step is not above any other.
  have hnext : ∀ w, u < w → binaryStep u ∣ w → u + binaryStep u ≤ w := by
    rintro w hlt ⟨k, rfl⟩
    have hself := Nat.mul_div_cancel' hu
    have hless : u / binaryStep u < k := Nat.div_lt_of_lt_mul hlt
    calc u + binaryStep u
        = binaryStep u * (u / binaryStep u + 1) := by rw [Nat.mul_succ, hself]
      _ ≤ binaryStep u * k := Nat.mul_le_mul_left _ hless
  by_cases hlog : u.log2 < v.log2
  · have hpow : u + binaryStep u ≤ 2 ^ (u.log2 + 1) := by
      apply hnext _ Nat.lt_log2_self
      rw [binaryStep_eq]
      exact Nat.pow_dvd_pow 2 (by omega)
    calc u + binaryStep u
        ≤ 2 ^ (u.log2 + 1) := hpow
      _ ≤ 2 ^ v.log2 := Nat.pow_le_pow_right (by decide) hlog
      _ ≤ v := Nat.log2_self_le (by omega)
  · have hstep : binaryStep u ∣ binaryStep v := by
      have hle := log2_mono (Nat.le_of_lt h)
      rw [binaryStep_eq, binaryStep_eq]
      exact Nat.pow_dvd_pow 2 (by omega)
    exact hnext v h (Nat.dvd_trans hstep hv)

namespace Binary64

/-! ## The order of numbers without a sign -/

theorem NonNegative.exists_units {x : Binary64} (hx : NonNegative x) (hfinite : x.isFinite = true) :
    ∃ u h, x = .finite false u h := by
  cases x with
  | nan => cases hfinite
  | infinite negative => cases hfinite
  | finite negative u h => cases hx; exact ⟨u, h, rfl⟩

/-- Finite numbers without a sign, the first not above the second. -/
def AtMost (x y : Binary64) : Prop :=
  ∃ u v hu hv, x = .finite false u hu ∧ y = .finite false v hv ∧ u ≤ v

theorem AtMost.isFinite {x y : Binary64} (h : AtMost x y) : x.isFinite = true := by
  obtain ⟨_, _, _, _, rfl, _⟩ := h
  rfl

theorem lt_finite {u v : Nat} (hu : Representable u) (hv : Representable v) :
    lt (.finite false u hu) (.finite false v hv) = decide (u < v) := by
  simp [lt, place?]

theorem AtMost.of_lt {x y : Binary64} (hx : NonNegative x) (hy : Positive y) (h : x.lt y = true) :
    AtMost x y := by
  obtain ⟨v, hv, rfl, _⟩ := hy.exists_units
  cases x with
  | nan => exact hx.elim
  | infinite negative =>
    cases hx
    have habove := hv.1
    simp only [lt, place?, Bool.false_eq_true, if_false, decide_eq_true_eq] at h
    omega
  | finite negative u hu =>
    cases hx
    rw [lt_finite, decide_eq_true_eq] at h
    exact ⟨u, v, hu, hv, rfl, rfl, Nat.le_of_lt h⟩

theorem AtMost.of_not_lt {x y : Binary64} (hx : NonNegative x) (hfinite : x.isFinite = true)
    (hy : Positive y) (h : x.lt y = false) : AtMost y x := by
  obtain ⟨u, hu, rfl⟩ := hx.exists_units hfinite
  obtain ⟨v, hv, rfl, _⟩ := hy.exists_units
  rw [lt_finite, decide_eq_false_iff_not] at h
  exact ⟨v, u, hv, hu, rfl, rfl, Nat.le_of_not_lt h⟩

/-- A number that is not below zero, but below another, has no sign, unless it
is the zero that has one. -/
theorem nonNegative_or_zero {x y : Binary64} (h : x.lt 0 = false) (hlt : x.lt y = true) :
    NonNegative x ∨ x = ofQuotient true 0 1 := by
  obtain ⟨hfits, hzero⟩ := exists_zero
  have hlimit := hfits.1
  rw [hzero] at h
  cases x with
  | nan => cases hlt
  | infinite negative =>
    cases negative with
    | false => exact Or.inl rfl
    | true =>
      simp only [lt, place?, if_true, if_false, Bool.false_eq_true, decide_eq_false_iff_not] at h
      omega
  | finite negative u hu =>
    cases negative with
    | false => exact Or.inl rfl
    | true =>
      simp only [lt, place?, if_true, if_false, Bool.false_eq_true, decide_eq_false_iff_not] at h
      obtain rfl : u = 0 := by omega
      exact Or.inr (ofQuotient_self true hu).symm

/-- No number is between the two. -/
def Next : Binary64 → Binary64 → Prop
  | .finite false u _, .finite false v _ => u + binaryStep u = v
  | _, _ => False

instance : DecidableRel Next
  | .finite false u _, .finite false v _ => inferInstanceAs (Decidable (u + binaryStep u = v))
  | .nan, _ | .infinite _, _ | .finite true _ _, _ => .isFalse not_false
  | .finite false _ _, .nan | .finite false _ _, .infinite _
  | .finite false _ _, .finite true _ _ => .isFalse not_false

theorem Next.exists_units {x y : Binary64} (h : Next x y) :
    ∃ u v hu hv, x = .finite false u hu ∧ y = .finite false v hv ∧ u + binaryStep u = v := by
  unfold Next at h
  split at h
  next u hu v hv => exact ⟨u, v, hu, hv, rfl, rfl, h⟩
  next => exact h.elim

/-- What is below a number is not above the number before it. -/
theorem Next.atMost_of_lt {x y z : Binary64} (h : Next x y) (hz : NonNegative z)
    (hlt : z.lt y = true) : AtMost z x := by
  obtain ⟨u, v, hu, hv, rfl, rfl, hnext⟩ := h.exists_units
  have hstep := binaryStep_pos u
  have hpositive : Positive (.finite false v hv) := by
    change v ≠ 0
    omega
  obtain ⟨w, v', hw, hv', rfl, heq, _⟩ := AtMost.of_lt hz hpositive hlt
  rw [lt_finite, decide_eq_true_eq] at hlt
  refine ⟨w, u, hw, hu, rfl, rfl, ?_⟩
  rcases Nat.lt_or_ge u w with hgt | hle
  · have := add_binaryStep_le hu.2 hw.2 hgt
    omega
  · exact hle

/-! ## Operations on magnitudes -/

section Finite

variable {u v : Nat} (hu : Representable u) (hv : Representable v)

theorem add_finite :
    (finite false u hu : Binary64) + finite false v hv = ofQuotient false (u + v) 1 := rfl

theorem mul_finite :
    (finite false u hu : Binary64) * finite false v hv = ofQuotient false (u * v) oneUnits := rfl

theorem div_finite (hne : v ≠ 0) :
    (finite false u hu : Binary64) / finite false v hv = ofQuotient false (u * oneUnits) v :=
  if_pos hne

theorem mod_finite (hne : v ≠ 0) :
    (finite false u hu : Binary64) % finite false v hv = ofQuotient false (u % v) 1 :=
  if_neg hne

theorem round_finite (negative : Bool) : (finite negative u hu).round =
    ofQuotient negative ((2 * u + oneUnits) / (2 * oneUnits) * oneUnits) 1 := rfl

theorem floor_finite :
    (finite false u hu).floor = ofQuotient false (u / oneUnits * oneUnits) 1 := rfl

theorem toInteger_finite :
    (finite false u hu).toInteger = (min (u / oneUnits) (1 <<< 63 - 1) : Nat) := rfl

end Finite

theorem exists_ofQuotient (negative : Bool) {n d : Nat} (h : nearestUnits n d < unitsLimit) :
    ∃ hfits, ofQuotient negative n d = .finite negative (nearestUnits n d) hfits :=
  ⟨_, dif_pos h⟩

/-- A quotient that is not above a finite number is finite. -/
theorem isFinite_ofQuotient (negative : Bool) {n d v : Nat} (hv : Representable v) (hd : 0 < d)
    (h : n ≤ v * d) : (ofQuotient negative n d).isFinite = true := by
  have hle := nearestUnits_le hv.2 hd h
  obtain ⟨_, hrounded⟩ := exists_ofQuotient negative (Nat.lt_of_le_of_lt hle hv.1)
  rw [hrounded]
  rfl

/-! ## Operations in order -/

theorem atMost_ofQuotient {n m d : Nat} (h : n ≤ m)
    (hfinite : (ofQuotient false m d).isFinite = true) :
    AtMost (ofQuotient false n d) (ofQuotient false m d) := by
  have hle := nearestUnits_mono d h
  by_cases hm : nearestUnits m d < unitsLimit
  · obtain ⟨hv, hmax⟩ := exists_ofQuotient false hm
    obtain ⟨hu, hmin⟩ := exists_ofQuotient false (Nat.lt_of_le_of_lt hle hm)
    exact ⟨_, _, hu, hv, hmin, hmax, hle⟩
  · rw [ofQuotient, dif_neg hm] at hfinite
    cases hfinite

section Operations

variable {x y z : Binary64}

theorem AtMost.mul (h : AtMost x y) (hz : Positive z) (hfinite : (y * z).isFinite = true) :
    AtMost (x * z) (y * z) := by
  obtain ⟨u, v, hu, hv, rfl, rfl, hle⟩ := h
  obtain ⟨w, hw, rfl, _⟩ := hz.exists_units
  rw [mul_finite] at hfinite
  rw [mul_finite, mul_finite]
  exact atMost_ofQuotient (Nat.mul_le_mul_right w hle) hfinite

theorem AtMost.div (h : AtMost x y) (hz : Positive z) (hfinite : (y / z).isFinite = true) :
    AtMost (x / z) (y / z) := by
  obtain ⟨u, v, hu, hv, rfl, rfl, hle⟩ := h
  obtain ⟨w, hw, rfl, hne⟩ := hz.exists_units
  rw [div_finite _ _ hne] at hfinite
  rw [div_finite _ _ hne, div_finite _ _ hne]
  exact atMost_ofQuotient (Nat.mul_le_mul_right oneUnits hle) hfinite

theorem AtMost.round (h : AtMost x y) (hfinite : y.round.isFinite = true) :
    AtMost x.round y.round := by
  obtain ⟨u, v, hu, hv, rfl, rfl, hle⟩ := h
  rw [round_finite] at hfinite
  rw [round_finite, round_finite]
  exact atMost_ofQuotient (Nat.mul_le_mul_right _ (Nat.div_le_div_right (by omega))) hfinite

end Operations

end Binary64

end Stride
