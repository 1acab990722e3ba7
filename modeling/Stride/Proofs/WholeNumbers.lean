-- Whole numbers below 2^53 are counted exactly: sums, products, remainders
-- and the whole parts of quotients are those of the natural numbers.
import Stride.Proofs.Order

namespace Stride.Binary64

/-! ## The numbers -/

theorem representable_whole {n : Nat} (h : n ≤ 2 ^ 53) : Representable (n * oneUnits) := by
  obtain ⟨k, hone, hlimit, _⟩ := exists_powers
  rw [Representable, hone, hlimit]
  constructor
  · calc n * 2 ^ k
        ≤ 2 ^ 53 * 2 ^ k := Nat.mul_le_mul_right _ h
      _ = 2 ^ (53 + k) := (Nat.pow_add ..).symm
      _ < 2 ^ (1024 + k) := Nat.pow_lt_pow_right (by decide) (by omega)
  · rw [← Nat.shiftLeft_eq]
    exact binaryStep_dvd_shiftLeft n k (by rwa [Nat.one_shiftLeft])

theorem ofNat_eq {n : Nat} (h : n ≤ 2 ^ 53) :
    ofNat n = .finite false (n * oneUnits) (representable_whole h) := by
  unfold ofNat
  exact ofQuotient_self false (representable_whole h)

section Whole

variable {n m : Nat}

theorem isFinite_ofNat (h : n ≤ 2 ^ 53) : (ofNat n).isFinite = true := by
  rw [ofNat_eq h]
  rfl

theorem toInteger_ofNat (h : n ≤ 2 ^ 53) : (ofNat n).toInteger = n := by
  have hlimit : n ≤ 1 <<< 63 - 1 := Nat.le_trans h (by decide)
  rw [ofNat_eq h, toInteger_finite, Nat.mul_div_cancel _ oneUnits_pos, Nat.min_eq_left hlimit]

theorem zero_lt_ofNat (h : n ≤ 2 ^ 53) : lt 0 (ofNat n) = decide (0 < n) := by
  have hzero : (0 : Binary64) = .finite false (0 * oneUnits) _ := ofNat_eq (Nat.zero_le _)
  rw [hzero, ofNat_eq h, lt_finite, decide_eq_decide]
  exact Nat.mul_lt_mul_right oneUnits_pos

theorem ofNat_add (h : n + m ≤ 2 ^ 53) : ofNat n + ofNat m = ofNat (n + m) := by
  have hn : n ≤ 2 ^ 53 := by omega
  have hm : m ≤ 2 ^ 53 := by omega
  rw [ofNat_eq hn, ofNat_eq hm, add_finite, ← Nat.add_mul, ofNat]

theorem ofNat_mul (hn : n ≤ 2 ^ 53) (hm : m ≤ 2 ^ 53) : ofNat n * ofNat m = ofNat (n * m) := by
  have hscale := ofQuotient_mul_right false (n * m * oneUnits) 1 oneUnits_pos
  have hproduct : n * oneUnits * (m * oneUnits) = n * m * oneUnits * oneUnits := by ac_rfl
  rw [Nat.one_mul] at hscale
  rw [ofNat_eq hn, ofNat_eq hm, mul_finite, hproduct, hscale, ofNat]

theorem ofNat_mod (hn : n ≤ 2 ^ 53) (hm : m ≤ 2 ^ 53) (hpos : 0 < m) :
    ofNat n % ofNat m = ofNat (n % m) := by
  have hne : m * oneUnits ≠ 0 := Nat.mul_ne_zero (by omega) (Nat.ne_of_gt oneUnits_pos)
  rw [ofNat_eq hn, ofNat_eq hm, mod_finite _ _ hne, Nat.mul_mod_mul_right, ofNat]

end Whole

/-! ## The nearest whole number -/

theorem roundUnits_whole (n : Nat) : (2 * (n * oneUnits) + oneUnits) / (2 * oneUnits) = n := by
  have hpos := oneUnits_pos
  rw [← Nat.mul_assoc, Nat.mul_right_comm, Nat.mul_comm (2 * oneUnits) n, Nat.add_comm,
    Nat.add_mul_div_right _ _ (by omega), Nat.div_eq_of_lt (by omega), Nat.zero_add]

theorem round_ofNat {n : Nat} (h : n ≤ 2 ^ 53) : (ofNat n).round = ofNat n := by
  rw [ofNat_eq h, round_finite, roundUnits_whole, ofQuotient_self]

/-- All numbers from 2^53 on are whole. -/
theorem oneUnits_dvd {u : Nat} (hu : Representable u) (h : 2 ^ 53 * oneUnits ≤ u) :
    oneUnits ∣ u := by
  obtain ⟨k, hone, _, _⟩ := exists_powers
  rw [hone] at h ⊢
  rw [← Nat.pow_add] at h
  have hlog : 53 + k ≤ u.log2 := by
    have hne : u ≠ 0 := Nat.ne_of_gt (Nat.lt_of_lt_of_le (Nat.two_pow_pos _) h)
    exact (Nat.le_log2 hne).2 h
  have hstep : 2 ^ k ∣ binaryStep u := by
    rw [binaryStep_eq]
    exact Nat.pow_dvd_pow 2 (by omega)
  exact Nat.dvd_trans hstep hu.2

theorem isFinite_round {x : Binary64} (hx : x.isFinite = true) : x.round.isFinite = true := by
  cases x with
  | nan => cases hx
  | infinite negative => cases hx
  | finite negative u hu =>
    rw [round_finite]
    by_cases hlarge : 2 ^ 53 * oneUnits ≤ u
    · obtain ⟨n, rfl⟩ := oneUnits_dvd hu hlarge
      rw [Nat.mul_comm oneUnits, roundUnits_whole, Nat.mul_comm]
      exact isFinite_ofQuotient negative hu Nat.one_pos (by omega)
    · apply isFinite_ofQuotient negative (representable_whole (Nat.le_refl _)) Nat.one_pos
      rw [Nat.mul_one, ← roundUnits_whole (2 ^ 53)]
      exact Nat.mul_le_mul_right _ (Nat.div_le_div_right (by omega))

/-- Division by a whole number makes no number larger. -/
theorem isFinite_div_ofNat {x : Binary64} {n : Nat} (hx : x.isFinite = true) (hpos : 0 < n)
    (hn : n ≤ 2 ^ 53) : (x / ofNat n).isFinite = true := by
  have hone := oneUnits_pos
  have hne : n * oneUnits ≠ 0 := Nat.mul_ne_zero (by omega) (by omega)
  cases x with
  | nan => cases hx
  | infinite negative => cases hx
  | finite negative u hu =>
    rw [ofNat_eq hn]
    change (if n * oneUnits ≠ 0 then ofQuotient (negative ^^ false) (u * oneUnits) (n * oneUnits)
      else _).isFinite = true
    rw [if_pos hne]
    exact isFinite_ofQuotient _ hu (by omega)
      (Nat.mul_le_mul_left u (Nat.le_mul_of_pos_left _ hpos))

/-! ## The whole part of a quotient -/

section Quotient

variable {n d : Nat}

/-- The step at a quotient is so small that half of it does not fill the gap
below the next whole number, which is one part in `d` at least. -/
theorem mul_binaryStep_lt (hn : n < 2 ^ 53) (hd : d ≤ 2 ^ 53) :
    d * binaryStep (n * oneUnits / d) < 2 * oneUnits := by
  obtain ⟨k, hone, _, hk⟩ := exists_powers
  rw [hone, binaryStep_eq]
  have hle : d * (n * 2 ^ k / d) ≤ n * 2 ^ k := Nat.mul_div_le _ _
  have hlt : n * 2 ^ k < 2 ^ 53 * 2 ^ k := Nat.mul_lt_mul_of_pos_right hn (Nat.two_pow_pos k)
  generalize n * 2 ^ k / d = a at hle ⊢
  by_cases hlog : a.log2 < 52
  · have hstep : a.log2 - 52 = 0 := by omega
    rw [hstep, Nat.pow_zero, Nat.mul_one]
    calc d
        ≤ 2 ^ 53 := hd
      _ < 2 ^ (k + 1) := Nat.pow_lt_pow_right (by decide) (by omega)
      _ = 2 * 2 ^ k := by rw [Nat.pow_succ, Nat.mul_comm]
  · have hne : a ≠ 0 := by
      rintro rfl
      exact hlog (by decide)
    have hpow : 2 ^ a.log2 = 2 ^ (a.log2 - 52) * 2 ^ 52 := by
      rw [← Nat.pow_add]
      congr 1
      omega
    apply Nat.lt_of_mul_lt_mul_right (a := 2 ^ 52)
    calc d * 2 ^ (a.log2 - 52) * 2 ^ 52
        = d * 2 ^ a.log2 := by rw [Nat.mul_assoc, ← hpow]
      _ ≤ d * a := Nat.mul_le_mul_left d (Nat.log2_self_le hne)
      _ < 2 ^ 53 * 2 ^ k := Nat.lt_of_le_of_lt hle hlt
      _ = 2 * 2 ^ k * 2 ^ 52 := by rw [Nat.mul_right_comm, ← Nat.pow_succ']

theorem binaryStep_dvd_oneUnits (hn : n < 2 ^ 53) :
    binaryStep (n * oneUnits / d) ∣ oneUnits := by
  obtain ⟨k, hone, _, _⟩ := exists_powers
  rw [hone, binaryStep_eq]
  apply Nat.pow_dvd_pow 2
  have hlt : n * 2 ^ k < 2 ^ (53 + k) := by
    rw [Nat.pow_add]
    exact Nat.mul_lt_mul_of_pos_right hn (Nat.two_pow_pos k)
  have hlog : (n * 2 ^ k).log2 < 53 + k := by
    by_cases hzero : n * 2 ^ k = 0
    · rw [hzero, Nat.log2_zero]
      omega
    · exact (Nat.log2_lt hzero).2 hlt
  have hle := log2_mono (Nat.div_le_self (n * 2 ^ k) d)
  omega

/-- A quotient is not rounded up to the next whole number. -/
theorem nearestUnits_whole_lt (hn : n < 2 ^ 53) (hpos : 0 < d) (hd : d ≤ 2 ^ 53) :
    nearestUnits (n * oneUnits) d < (n / d + 1) * oneUnits := by
  have hgap := mul_binaryStep_lt hn hd
  have hstep := binaryStep_pos (n * oneUnits / d)
  obtain ⟨e, he⟩ := binaryStep_dvd_oneUnits (d := d) hn
  unfold nearestUnits
  generalize binaryStep (n * oneUnits / d) = step at hgap hstep he ⊢
  have he0 : e ≠ 0 := by
    rintro rfl
    exact Nat.ne_of_gt oneUnits_pos he
  obtain ⟨m, hm⟩ : ∃ m, m + 1 = (n / d + 1) * e :=
    ⟨(n / d + 1) * e - 1, Nat.succ_pred (Nat.mul_ne_zero (Nat.succ_ne_zero _) he0)⟩
  have hbelow : 2 * (n * oneUnits) < (2 * m + 1) * (d * step) := by
    have hnext : (n + 1) * oneUnits ≤ d * (n / d + 1) * oneUnits :=
      Nat.mul_le_mul_right _ (Nat.lt_mul_div_succ n hpos)
    have hsame : (m + 1) * (d * step) = d * (n / d + 1) * oneUnits := by
      rw [hm, he]
      ac_rfl
    rw [Nat.add_mul, Nat.one_mul] at hnext hsame ⊢
    rw [Nat.mul_assoc]
    omega
  have hround := divHalfEven_le_of_lt hbelow
  calc divHalfEven (n * oneUnits) (d * step) * step
      ≤ m * step := Nat.mul_le_mul_right _ hround
    _ < (m + 1) * step := Nat.mul_lt_mul_of_pos_right (Nat.lt_succ_self m) hstep
    _ = (n / d + 1) * oneUnits := by rw [hm, Nat.mul_assoc, Nat.mul_comm e, ← he]

theorem le_nearestUnits_whole (hn : n < 2 ^ 53) (hpos : 0 < d) :
    n / d * oneUnits ≤ nearestUnits (n * oneUnits) d := by
  have hle := Nat.div_le_self n d
  apply le_nearestUnits (representable_whole (by omega)).2 hpos
  rw [Nat.mul_right_comm]
  exact Nat.mul_le_mul_right _ (Nat.div_mul_le_self n d)

/-- The whole part of a quotient of whole numbers is that of the exact one. -/
theorem floor_div_ofNat (hn : n < 2 ^ 53) (hpos : 0 < d) (hd : d ≤ 2 ^ 53) :
    (ofNat n / ofNat d).floor = ofNat (n / d) := by
  have hone := oneUnits_pos
  have hlow := le_nearestUnits_whole hn hpos
  have hhigh := nearestUnits_whole_lt hn hpos hd
  have hquotient : nearestUnits (n * oneUnits) d / oneUnits = n / d := by
    apply Nat.le_antisymm
    · exact Nat.le_of_lt_succ ((Nat.div_lt_iff_lt_mul hone).2 hhigh)
    · exact (Nat.le_div_iff_mul_le hone).2 hlow
  have hfits : nearestUnits (n * oneUnits) d < unitsLimit := by
    apply Nat.lt_of_lt_of_le hhigh
    have hle : n / d + 1 ≤ 2 ^ 53 := by
      have := Nat.div_le_self n d
      omega
    exact Nat.le_of_lt (representable_whole hle).1
  have hdiv : ofNat n / ofNat d = ofQuotient false (n * oneUnits) d := by
    rw [ofNat_eq (Nat.le_of_lt hn), ofNat_eq hd,
      div_finite _ _ (Nat.mul_ne_zero (by omega) (Nat.ne_of_gt oneUnits_pos))]
    exact ofQuotient_mul_right false _ _ hone
  obtain ⟨_, hrounded⟩ := exists_ofQuotient false hfits
  rw [hdiv, hrounded, floor_finite, hquotient, ofNat]

end Quotient

end Stride.Binary64
