-- Rounding leaves a number that exists as it is, so adding zero to a number
-- without a sign changes nothing.
import Stride.Text.Scan
import Stride.Unit

namespace Stride

theorem nearestUnits_self {u : Nat} (h : binaryStep u ∣ u) : nearestUnits u 1 = u := by
  have hstep := binaryStep_pos u
  unfold nearestUnits divHalfEven
  rw [Nat.div_one, Nat.one_mul, Nat.mod_eq_zero_of_dvd h, if_pos (Or.inl (by omega))]
  exact Nat.div_mul_cancel h

namespace Binary64

/-- A magnitude that a number can have is rounded to itself. -/
theorem ofQuotient_self (negative : Bool) {u : Nat} (h : Representable u) :
    ofQuotient negative u 1 = .finite negative u h := by
  have hself := nearestUnits_self h.2
  unfold ofQuotient
  rw [dif_pos (by rw [hself]; exact h.1)]
  congr 1

/-- Zero, a positive number or infinity. -/
def NonNegative : Binary64 → Prop
  | .nan => False
  | .infinite negative => negative = false
  | .finite negative _ _ => negative = false

theorem nonNegative_ofQuotient (n d : Nat) : NonNegative (ofQuotient false n d) := by
  unfold ofQuotient
  split <;> rfl

theorem nonNegative_ofDecimal (digits : Nat) (exponent : Int) :
    NonNegative (ofDecimal false digits exponent) := by
  unfold ofDecimal
  split
  · exact nonNegative_ofQuotient _ _
  · split
    · rfl
    · exact nonNegative_ofQuotient _ _

/-- A product with a positive finite number. -/
theorem NonNegative.mul_finite {x : Binary64} {u : Nat} {h : Representable u}
    (hx : NonNegative x) (hu : u ≠ 0) : NonNegative (x * .finite false u h) := by
  cases x with
  | nan => exact hx
  | infinite negative =>
    cases hx
    change NonNegative (if u = 0 then .nan else .infinite (false ^^ false))
    rw [if_neg hu]
    rfl
  | finite negative v hv =>
    cases hx
    exact nonNegative_ofQuotient _ _

theorem exists_zero : ∃ h, (0 : Binary64) = .finite false 0 h := by
  refine ⟨?_, ?_⟩
  · decide +kernel
  · decide +kernel

theorem NonNegative.add_zero {x : Binary64} (hx : NonNegative x) : x + 0 = x := by
  obtain ⟨hzero, h0⟩ := exists_zero
  rw [h0]
  cases x with
  | nan => rfl
  | infinite negative => rfl
  | finite negative u hu =>
    cases hx
    exact ofQuotient_self false hu

end Binary64

theorem nonNegative_digitsNumber (digits : List Char) (places : Nat) :
    (digitsNumber digits places).NonNegative := Binary64.nonNegative_ofDecimal _ _

theorem exists_minuteSeconds : ∃ u h, minuteSeconds = .finite false u h ∧ u ≠ 0 := by
  refine ⟨60 * oneUnits, ?_, ?_, ?_⟩
  · decide +kernel
  · decide +kernel
  · decide +kernel

end Stride
