-- A length is compared with a kilometer or a mile before its number is
-- rounded. So the number can come to a full larger unit: for the lengths just
-- below one, and for no others.
import Stride.Proofs.Numerals

namespace Stride

open Binary64

/-! ## The two units of a system -/

namespace UnitSystem

/-- The unit for what is shorter than the system's length. -/
def shortUnit : UnitSystem → LengthUnit
  | .metric => .meter
  | .imperial => .yard

/-- So many of them are the system's length. -/
def shortUnits : UnitSystem → Nat
  | .metric => 1000
  | .imperial => 1760

def lengthMeters : UnitSystem → Binary64
  | .metric => kilometerMeters
  | .imperial => mileMeters

/-- The first length whose number is rounded up to a full larger unit. -/
def fullMeters : UnitSystem → Binary64
  | .metric => 999.9995
  | .imperial => 1608.8868

/-- The last length before that one. -/
def partMeters : UnitSystem → Binary64
  | .metric => 999.9994999999999
  | .imperial => 1608.8867999999998

theorem lengthUnit_ne_shortUnit (units : UnitSystem) :
    units.lengthUnit.symbol ≠ units.shortUnit.symbol := by
  cases units <;> decide

theorem partMeters_next_fullMeters (units : UnitSystem) :
    Next units.partMeters units.fullMeters := by
  cases units <;> decide +kernel

theorem positive_fullMeters (units : UnitSystem) : Positive units.fullMeters := by
  cases units <;> decide +kernel

theorem positive_lengthMeters (units : UnitSystem) : Positive units.lengthMeters := by
  cases units <;> decide +kernel

end UnitSystem

/-- The number of the smaller unit, as it is shown. -/
def shortAmount (meters : Binary64) : UnitSystem → Binary64
  | .metric => meters
  | .imperial => (meters / yardMeters).round

/-- The same number, read from its text in thousandths. -/
def shortShown (meters : Binary64) (units : UnitSystem) : Nat :=
  shownThousandths (numeral (shortAmount meters units))

theorem Distance.piece_plain (meters : Binary64) (units : UnitSystem) :
    (Distance.plain meters).piece units =
      if meters.lt units.lengthMeters then
        ⟨String.ofList (numeral (shortAmount meters units)), units.shortUnit.symbol⟩
      else ⟨String.ofList (numeral (meters / units.lengthMeters)), units.lengthUnit.symbol⟩ := by
  cases units <;> rfl

/-! ## Numbers in order are shown in order -/

namespace Binary64

section Shown

variable {x y : Binary64}

theorem AtMost.roundThousandths (h : AtMost x y) (hscaled : (y * 1000).isFinite = true) :
    AtMost (roundThousandths x) (roundThousandths y) := by
  have hmul := h.mul positive_thousand hscaled
  have hround := hmul.round (isFinite_round hscaled)
  unfold Stride.roundThousandths
  dsimp only
  rw [if_pos hmul.isFinite, if_pos hscaled]
  exact hround.div positive_thousand (isFinite_round_div_thousand hscaled)

theorem AtMost.shownThousandths (h : AtMost x y) (hscaled : (y * 1000).isFinite = true) :
    shownThousandths (numeral x) ≤ shownThousandths (numeral y) := by
  obtain ⟨u, v, hu, hv, hx, hy, hle⟩ := h.roundThousandths hscaled
  rw [shownThousandths_numeral hx, shownThousandths_numeral hy]
  exact divHalfEven_mono _ (Nat.mul_le_mul_right _ hle)

/-- The number of the length in the smaller unit is not too large to be rounded. -/
def Scalable (units : UnitSystem) (meters : Binary64) : Prop :=
  (meters / yardMeters).isFinite = true ∧ (shortAmount meters units * 1000).isFinite = true

instance (units : UnitSystem) (meters : Binary64) : Decidable (Scalable units meters) :=
  inferInstanceAs (Decidable (_ ∧ _))

variable {units : UnitSystem}

theorem AtMost.shortAmount (h : AtMost x y) (hy : Scalable units y) :
    AtMost (shortAmount x units) (shortAmount y units) := by
  cases units with
  | metric => exact h
  | imperial => exact (h.div positive_yardMeters hy.1).round (isFinite_round hy.1)

theorem AtMost.scalable (h : AtMost x y) (hy : Scalable units y) : Scalable units x :=
  ⟨(h.div positive_yardMeters hy.1).isFinite,
    ((h.shortAmount hy).mul positive_thousand hy.2).isFinite⟩

theorem AtMost.shortShown (h : AtMost x y) (hy : Scalable units y) :
    shortShown x units ≤ shortShown y units :=
  (h.shortAmount hy).shownThousandths hy.2

end Shown

end Binary64

/-! ## Below a full unit -/

section Below

variable (units : UnitSystem)

theorem scalable_bounds : Scalable units units.partMeters ∧ Scalable units units.lengthMeters := by
  cases units <;> decide +kernel

theorem shortShown_bounds :
    shortShown units.partMeters units < units.shortUnits * 1000 ∧
    shortShown units.fullMeters units = units.shortUnits * 1000 ∧
    shortShown units.lengthMeters units = units.shortUnits * 1000 := by
  cases units <;> decide +kernel

theorem shortShown_zero : shortShown (ofQuotient true 0 1) units < units.shortUnits * 1000 ∧
    lt (ofQuotient true 0 1) units.fullMeters = true := by
  cases units <;> decide +kernel

/-- Below the system's length the number is a full unit at most, and a full
unit from the first such length on. -/
theorem shortShown_spec {meters : Binary64} (hmeters : meters.lt 0 = false)
    (h : meters.lt units.lengthMeters = true) :
    shortShown meters units ≤ units.shortUnits * 1000 ∧
      (shortShown meters units < units.shortUnits * 1000 ↔ meters.lt units.fullMeters = true) := by
  obtain ⟨hpart, hfull, hlength⟩ := shortShown_bounds units
  obtain ⟨hscalable, hscalable'⟩ := scalable_bounds units
  rcases nonNegative_or_zero hmeters h with hsign | rfl
  · have hle := AtMost.of_lt hsign units.positive_lengthMeters h
    have hmost := hle.shortShown hscalable'
    rw [hlength] at hmost
    refine ⟨hmost, ?_⟩
    cases hlt : meters.lt units.fullMeters with
    | true =>
      have hbelow := units.partMeters_next_fullMeters.atMost_of_lt hsign hlt
      have hshown := hbelow.shortShown hscalable
      exact iff_of_true (by omega) rfl
    | false =>
      have habove := AtMost.of_not_lt hsign hle.isFinite units.positive_fullMeters hlt
      have hshown := habove.shortShown (hle.scalable hscalable')
      exact iff_of_false (by omega) Bool.false_ne_true
  · obtain ⟨hshown, hlt⟩ := shortShown_zero units
    exact ⟨Nat.le_of_lt hshown, iff_of_true hshown hlt⟩

end Below

/-- A length that is shown in meters is shown as at most 1,000 of them, and one
in yards as at most 1,760. It is shown as less than that exactly below 999.9995
and 1608.8868 meters: from there on the number is rounded up to a full unit. -/
theorem short_lengths_come_to_a_full_unit_at_most (units : UnitSystem) {meters : Binary64}
    (hmeters : meters.lt 0 = false) {p : Piece}
    (hp : p ∈ Value.pieces units (.distance (.plain meters)))
    (hunit : p.unit = units.shortUnit.symbol) :
    shownThousandths p.value.toList ≤ units.shortUnits * 1000 ∧
      (shownThousandths p.value.toList < units.shortUnits * 1000 ↔
        meters.lt units.fullMeters = true) := by
  obtain rfl : p = (Distance.plain meters).piece units := List.mem_singleton.1 hp
  rw [Distance.piece_plain] at hunit ⊢
  cases hshort : meters.lt units.lengthMeters with
  | true =>
    rw [if_pos rfl]
    dsimp only
    rw [String.toList_ofList]
    exact shortShown_spec units hmeters hshort
  | false =>
    rw [hshort, if_neg Bool.false_ne_true] at hunit
    exact absurd hunit units.lengthUnit_ne_shortUnit

/-- A meter is a yard and more: the last two whole meters below a mile. -/
theorem the_last_meters_of_a_mile_in_yards :
    Value.pieces .imperial (.distance (.plain 1608)) = [⟨"1,759", "yd"⟩] ∧
      lt 1608 0 = false ∧ lt 1608 1608.8868 = true ∧
      shownThousandths "1,759".toList < 1760 * 1000 ∧
      Value.pieces .imperial (.distance (.plain 1609)) = [⟨"1,760", "yd"⟩] ∧
      lt 1609 0 = false ∧ lt 1609 1608.8868 = false ∧
      shownThousandths "1,760".toList ≤ 1760 * 1000 ∧
      ¬ shownThousandths "1,760".toList < 1760 * 1000 := by
  have hpart : Value.pieces .imperial (.distance (.plain 1608)) = [⟨"1,759", "yd"⟩] := by
    decide +kernel
  have hfull : Value.pieces .imperial (.distance (.plain 1609)) = [⟨"1,760", "yd"⟩] := by
    decide +kernel
  have hsign : lt 1608 0 = false ∧ lt 1609 0 = false := by decide +kernel
  have hbounds : lt 1608 1608.8868 = true ∧ lt 1609 1608.8868 = false := by decide +kernel
  have hless := short_lengths_come_to_a_full_unit_at_most .imperial hsign.1
    (p := ⟨"1,759", "yd"⟩) (by rw [hpart]; exact List.mem_singleton_self _) rfl
  have hmost := short_lengths_come_to_a_full_unit_at_most .imperial hsign.2
    (p := ⟨"1,760", "yd"⟩) (by rw [hfull]; exact List.mem_singleton_self _) rfl
  refine ⟨hpart, hsign.1, hbounds.1, hless.2.2 hbounds.1, hfull, hsign.2, hbounds.2, hmost.1, ?_⟩
  intro hlt
  exact Bool.false_ne_true (hbounds.2.symm.trans (hmost.2.1 hlt))

/-- A full kilometer in meters, and a full mile in yards. -/
theorem a_full_unit_is_shown_in_the_smaller_one :
    Value.pieces .metric (.distance (.plain 999.9996)) = [⟨"1,000", "m"⟩] ∧
      ¬ shownThousandths "1,000".toList < 1000 * 1000 ∧
      Value.pieces .imperial (.distance (.plain 1609)) = [⟨"1,760", "yd"⟩] ∧
      ¬ shownThousandths "1,760".toList < 1760 * 1000 := by
  decide +kernel

end Stride
