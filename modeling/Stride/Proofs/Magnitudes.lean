-- No token stands for less than nothing. Sums, products and quotients of
-- numbers without a sign have none, and an expression has no other numbers.
import Stride.Proofs.Slices

namespace Stride

namespace Binary64

/-! ## Numbers without a sign -/

/-- A finite number above zero. -/
def Positive : Binary64 → Prop
  | .finite false u _ => u ≠ 0
  | _ => False

instance : DecidablePred Positive
  | .nan => .isFalse not_false
  | .infinite _ => .isFalse not_false
  | .finite true _ _ => .isFalse not_false
  | .finite false u _ => inferInstanceAs (Decidable (u ≠ 0))

theorem Positive.exists_units {x : Binary64} (hx : Positive x) :
    ∃ u h, x = .finite false u h ∧ u ≠ 0 := by
  cases x with
  | nan => exact hx.elim
  | infinite negative => exact hx.elim
  | finite negative u h =>
    cases negative with
    | true => exact hx.elim
    | false => exact ⟨u, h, rfl, hx⟩

theorem Positive.nonNegative {x : Binary64} (hx : Positive x) : NonNegative x := by
  obtain ⟨u, h, rfl, _⟩ := hx.exists_units
  rfl

theorem NonNegative.add {x y : Binary64} (hx : NonNegative x) (hy : NonNegative y) :
    NonNegative (x + y) := by
  change NonNegative (Binary64.add x y)
  cases x with
  | nan => exact hx
  | infinite m =>
    cases hx
    cases y with
    | nan => exact hy
    | infinite n => cases hy; rfl
    | finite n v h => rfl
  | finite m u h =>
    cases hx
    cases y with
    | nan => exact hy
    | infinite n => exact hy
    | finite n v h => cases hy; exact nonNegative_ofQuotient _ _

theorem NonNegative.mul {x y : Binary64} (hx : NonNegative x) (hy : Positive y) :
    NonNegative (x * y) := by
  obtain ⟨u, h, rfl, hu⟩ := hy.exists_units
  exact hx.mul_finite hu

theorem NonNegative.div {x y : Binary64} (hx : NonNegative x) (hy : Positive y) :
    NonNegative (x / y) := by
  obtain ⟨v, h, rfl, hv⟩ := hy.exists_units
  change NonNegative (Binary64.div x (.finite false v h))
  cases x with
  | nan => exact hx
  | infinite m => cases hx; rfl
  | finite m u h =>
    cases hx
    change NonNegative (if v ≠ 0 then _ else _)
    rw [if_pos hv]
    exact nonNegative_ofQuotient _ _

/-- A positive number over nothing is infinite, and over infinity nothing. -/
theorem Positive.div {x y : Binary64} (hx : Positive x) (hy : NonNegative y) :
    NonNegative (x / y) := by
  obtain ⟨u, h, rfl, hu⟩ := hx.exists_units
  change NonNegative (Binary64.div (.finite false u h) y)
  cases y with
  | nan => exact hy
  | infinite n => cases hy; exact nonNegative_ofQuotient _ _
  | finite n v h =>
    cases hy
    change NonNegative (if v ≠ 0 then _ else if u = 0 then _ else _)
    split
    · exact nonNegative_ofQuotient _ _
    · rfl

theorem NonNegative.round {x : Binary64} (hx : NonNegative x) : NonNegative x.round := by
  cases x with
  | nan => exact hx
  | infinite m => exact hx
  | finite m u h => cases hx; exact nonNegative_ofQuotient _ _

theorem NonNegative.eq_infinite {x : Binary64} (hx : NonNegative x) (h : x.isFinite = false) :
    x = .infinite false := by
  cases x with
  | nan => exact hx.elim
  | infinite m => cases hx; rfl
  | finite m u hu => cases h

theorem nonNegative_zero : NonNegative 0 := by
  obtain ⟨h, hzero⟩ := exists_zero
  rw [hzero]
  rfl

/-- The whole part of such a number is no negative integer. -/
theorem NonNegative.toInteger_nonneg {x : Binary64} (hx : NonNegative x) : 0 ≤ x.toInteger := by
  cases x with
  | nan => exact hx.elim
  | infinite m => cases hx; exact Int.natCast_nonneg _
  | finite m u h => cases hx; exact Int.natCast_nonneg _

/-- What is above zero has no sign. -/
theorem nonNegative_of_zero_lt {x : Binary64} (h : Binary64.lt 0 x = true) : NonNegative x := by
  obtain ⟨_, hzero⟩ := exists_zero
  rw [hzero] at h
  cases x with
  | nan => cases h
  | infinite m =>
    cases m with
    | false => rfl
    | true =>
      simp only [lt, place?, decide_eq_true_eq, if_true, if_false, Bool.false_eq_true] at h
      omega
  | finite m u hu =>
    cases m with
    | false => rfl
    | true =>
      simp only [lt, place?, decide_eq_true_eq, if_true, if_false, Bool.false_eq_true] at h
      omega

end Binary64

/-! ## Units -/

open Binary64

theorem positive_units : ∀ x ∈ [1, 1000, minuteSeconds, hourSeconds, kilometerMeters, mileMeters,
    yardMeters, kilometersPerMile, milesPerKilometer, marathonMeters, halfMarathonMeters],
    Positive x := by decide +kernel

theorem positive_one : Positive 1 := positive_units _ (by simp)
theorem positive_thousand : Positive 1000 := positive_units _ (by simp)
theorem positive_minuteSeconds : Positive minuteSeconds := positive_units _ (by simp)
theorem positive_hourSeconds : Positive hourSeconds := positive_units _ (by simp)
theorem positive_kilometerMeters : Positive kilometerMeters := positive_units _ (by simp)
theorem positive_mileMeters : Positive mileMeters := positive_units _ (by simp)
theorem positive_yardMeters : Positive yardMeters := positive_units _ (by simp)
theorem positive_kilometersPerMile : Positive kilometersPerMile := positive_units _ (by simp)
theorem positive_milesPerKilometer : Positive milesPerKilometer := positive_units _ (by simp)
theorem positive_marathonMeters : Positive marathonMeters := positive_units _ (by simp)
theorem positive_halfMarathonMeters : Positive halfMarathonMeters := positive_units _ (by simp)

theorem TimeUnit.positive_inSeconds (u : TimeUnit) : Positive u.inSeconds := by
  cases u with
  | second => exact positive_one
  | minute => exact positive_minuteSeconds
  | hour => exact positive_hourSeconds

theorem LengthUnit.nonNegative_toMeters (u : LengthUnit) {x : Binary64} (hx : NonNegative x) :
    NonNegative (u.toMeters x) := by
  cases u with
  | meter => exact hx
  | kilometer => exact hx.mul positive_kilometerMeters
  | mile => exact hx.mul positive_mileMeters
  | yard => exact hx.mul positive_yardMeters

theorem TimeUnit.nonNegative_toSeconds (u : TimeUnit) {first second third : Binary64}
    (hfirst : NonNegative first) (hsecond : NonNegative second) (hthird : NonNegative third) :
    NonNegative (u.toSeconds first second third) := by
  cases u with
  | second => exact hfirst
  | minute => exact (hfirst.mul positive_minuteSeconds).add hsecond
  | hour =>
    exact ((hfirst.mul positive_hourSeconds).add (hsecond.mul positive_minuteSeconds)).add hthird

theorem PaceUnit.nonNegative_perKilometer (u : PaceUnit) {x : Binary64} (hx : NonNegative x) :
    NonNegative (u.perKilometer x) := by
  cases u with
  | minutesPerKilometer => exact hx
  | minutesPerMile => exact hx.div positive_kilometersPerMile

theorem SpeedUnit.nonNegative_perKilometer (u : SpeedUnit) {x : Binary64} (hx : NonNegative x) :
    NonNegative (u.perKilometer x) := by
  have hminutes := (positive_minuteSeconds.div hx).mul positive_minuteSeconds
  cases u with
  | kilometersPerHour => exact hminutes
  | milesPerHour => exact hminutes.div positive_kilometersPerMile

theorem Components.nonNegative_seconds (run : Components) : NonNegative run.seconds := by
  have hfold : ∀ total, NonNegative total → NonNegative (run.foldl
      (fun total c => total + digitsNumber c.1 0 * c.2.inSeconds) total) := by
    induction run with
    | nil => exact fun _ htotal => htotal
    | cons c run ih =>
      intro total htotal
      exact ih _ (htotal.add ((nonNegative_digitsNumber c.1 0).mul c.2.positive_inSeconds))
  exact hfold 0 nonNegative_zero

theorem NumberText.nonNegative {n : List Char} {x : Binary64} (h : NumberText n x) :
    NonNegative x := by
  cases h <;> exact nonNegative_digitsNumber _ _

/-! ## Tokens -/

/-- The quantity of a value, if it has one, has no sign and is no NaN. -/
def Value.NonNegative (v : Value) : Prop := ∀ x ∈ v.quantity?, Binary64.NonNegative x

theorem Reads.nonNegative {units : UnitSystem} {s rest : List Char} {v : Value}
    (h : Reads units s v rest) : v.NonNegative := by
  have hclock : ∀ d e : List Char, Binary64.NonNegative
      (digitsNumber d 0 * minuteSeconds + digitsNumber e 0) := fun d e =>
    ((nonNegative_digitsNumber d 0).mul positive_minuteSeconds).add (nonNegative_digitsNumber e 0)
  rintro x hx
  cases h with
  | operator op => cases hx
  | marathon _ _ => cases hx; exact positive_marathonMeters.nonNegative
  | halfMarathon _ _ _ => cases hx; exact positive_halfMarathonMeters.nonNegative
  | clockPace unit _ _ _ => cases hx; exact unit.nonNegative_perKilometer (hclock _ _)
  | clock unit _ _ _ _ =>
    cases hx
    exact unit.nonNegative_toSeconds (nonNegative_digitsNumber _ _) (nonNegative_digitsNumber _ _)
      nonNegative_zero
  | barePace _ _ _ _ _ _ => cases hx; exact PaceUnit.nonNegative_perKilometer _ (hclock _ _)
  | wholePace unit _ _ =>
    cases hx
    exact unit.nonNegative_perKilometer ((nonNegative_digitsNumber _ _).mul positive_minuteSeconds)
  | components _ _ _ _ => cases hx; exact Components.nonNegative_seconds _
  | speed unit _ hn => cases hx; exact unit.nonNegative_perKilometer hn.nonNegative
  | distance unit _ hn _ _ _ => cases hx; exact unit.nonNegative_toMeters hn.nonNegative
  | constant _ hn _ => cases hx; exact hn.nonNegative

theorem Slices.nonNegative {units : UnitSystem} {s left : List Char}
    {tokens : List (List Char × Value)} (h : Slices units s tokens left) :
    ∀ token ∈ tokens, token.2.NonNegative := by
  intro token htoken
  obtain ⟨_, rest, hmatch⟩ := h.exists_match token htoken
  exact (reads_of_matchToken hmatch).nonNegative

end Stride
