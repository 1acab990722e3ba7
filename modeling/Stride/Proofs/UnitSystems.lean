-- One expression read under two unit systems. Both read the same slices, and
-- each slice means the same to both, but for a pace without a unit: that is a
-- pace per kilometer to the one and a pace per mile to the other.
import Stride.Proofs.Slices

namespace Stride

/-! ## Paces without a unit -/

/-- Digits, a colon, digits, and nothing behind them. -/
def BarePace (t : List Char) : Prop := ∃ d e, Digits d ∧ Digits e ∧ t = d ++ ':' :: e

theorem BarePace.colon_mem {t : List Char} (h : BarePace t) : ':' ∈ t := by
  obtain ⟨d, e, _, _, rfl⟩ := h
  simp

theorem BarePace.digit_last {t : List Char} (h : BarePace t) :
    t.getLast?.all Char.isDigit = true := by
  obtain ⟨d, e, _, ⟨hne, he⟩, rfl⟩ := h
  rw [List.append_cons, List.getLast?_append, List.getLast?_eq_some_getLast hne, Option.some_or,
    Option.all_some]
  exact he _ (List.getLast_mem hne)

/-- What has a unit at its end does not end in a digit. -/
theorem not_barePace_of_unit {t w : List Char} (hw : w.getLast?.all Char.isDigit = false) :
    ¬ BarePace (t ++ w) := by
  intro h
  have hlast := h.digit_last
  rw [List.getLast?_append] at hlast
  cases hunit : w.getLast? with
  | none =>
    rw [hunit] at hw
    cases hw
  | some c =>
    rw [hunit] at hw hlast
    rw [Option.some_or, hw] at hlast
    cases hlast

theorem Digits.no_colon {d : List Char} (h : Digits d) : ':' ∉ d := by
  intro hmem
  exact absurd (h.2 _ hmem) (by decide)

theorem NumberText.no_colon {n : List Char} {x : Binary64} (h : NumberText n x) : ':' ∉ n := by
  cases h with
  | whole hd => exact hd.no_colon
  | decimal hd hf => simp [hd.no_colon, hf.no_colon]

theorem Components.no_colon {run : Components} (h : ∀ c ∈ run, Digits c.1) : ':' ∉ run.text := by
  unfold Components.text
  rw [List.mem_flatMap]
  rintro ⟨⟨d, unit⟩, hc, hmem⟩
  rcases List.mem_append.1 hmem with hd | hunit
  · exact (h _ hc).no_colon hd
  · exact absurd hunit (by cases unit <;> decide)

/-! ## A token in two systems -/

/-- What a slice is to each of two unit systems. -/
inductive Counterparts (units other : UnitSystem) (t : List Char) : Value → Value → Prop
  | same (v : Value) : ¬ BarePace t → Counterparts units other t v v
  | bare (seconds : Binary64) : BarePace t → Counterparts units other t
      (.pace ⟨units.paceUnit.perKilometer seconds, .pace⟩)
      (.pace ⟨other.paceUnit.perKilometer seconds, .pace⟩)

theorem Counterparts.kind_eq {units other : UnitSystem} {t : List Char} {v w : Value}
    (h : Counterparts units other t v w) : v.kind = w.kind := by
  cases h <;> rfl

theorem Counterparts.eq_of_not_barePace {units other : UnitSystem} {t : List Char} {v w : Value}
    (h : Counterparts units other t v w) (ht : ¬ BarePace t) : v = w := by
  cases h with
  | same _ _ => rfl
  | bare _ hbare => exact absurd hbare ht

/-- Each rule reads the same text under any system, and only the rule of the
bare pace looks at the system for the value. -/
theorem Reads.exists_counterpart {units : UnitSystem} {s rest : List Char} {v : Value}
    (h : Reads units s v rest) (other : UnitSystem) :
    ∃ t w, s = t ++ rest ∧ Reads other s w rest ∧ Counterparts units other t v w := by
  cases h with
  | operator op =>
    refine ⟨_, _, rfl, .operator op rest, .same _ fun hbare => ?_⟩
    exact absurd hbare.colon_mem (by cases op <;> decide)
  | @marathon c _ hc =>
    refine ⟨[c], _, rfl, .marathon rest hc, .same _ fun hbare => ?_⟩
    rcases hc with rfl | rfl <;> simpa using hbare.colon_mem
  | @halfMarathon c d _ hc hd =>
    refine ⟨[c, d], _, rfl, .halfMarathon rest hc hd, .same _ fun hbare => ?_⟩
    rcases hc with rfl | rfl <;> rcases hd with rfl | rfl <;> simpa using hbare.colon_mem
  | @clockPace d e unit _ hd he =>
    refine ⟨(d ++ ':' :: e) ++ unit.symbol.toList, _, by simp, .clockPace unit rest hd he,
      .same _ ?_⟩
    exact not_barePace_of_unit (by cases unit <;> decide)
  | @clock d e unit _ hd he hpace =>
    refine ⟨(d ++ ':' :: e) ++ unit.symbol.toList, _, by simp, .clock unit rest hd he hpace,
      .same _ ?_⟩
    exact not_barePace_of_unit (by cases unit <;> decide)
  | @barePace d e _ hd he hrest hpace htime =>
    exact ⟨d ++ ':' :: e, _, by simp, .barePace rest hd he hrest hpace htime,
      .bare _ ⟨d, e, hd, he, rfl⟩⟩
  | @wholePace d unit _ hd =>
    refine ⟨d ++ unit.symbol.toList, _, by simp, .wholePace unit rest hd, .same _ ?_⟩
    exact not_barePace_of_unit (by cases unit <;> decide)
  | components _ hrun hpace hlongest =>
    refine ⟨_, _, rfl, .components rest hrun hpace hlongest, .same _ fun hbare => ?_⟩
    exact Components.no_colon hrun.digits hbare.colon_mem
  | @speed n _ unit _ hn =>
    refine ⟨n ++ unit.symbol.toList, _, by simp, .speed unit rest hn, .same _ ?_⟩
    exact not_barePace_of_unit (by cases unit <;> decide)
  | @distance n _ unit _ hn hspeed htime hmile =>
    refine ⟨n ++ unit.symbol.toList, _, by simp, .distance unit rest hn hspeed htime hmile,
      .same _ ?_⟩
    exact not_barePace_of_unit (by cases unit <;> decide)
  | constant _ hn hends =>
    refine ⟨_, _, rfl, .constant rest hn hends, .same _ fun hbare => ?_⟩
    exact hn.no_colon hbare.colon_mem

/-- Where no token starts under one system, none does under another. -/
theorem matchToken_eq_none_of {units : UnitSystem} (other : UnitSystem) {s : List Char}
    (h : matchToken units s = none) : matchToken other s = none := by
  cases hmatch : matchToken other s with
  | none => rfl
  | some found =>
    obtain ⟨v, rest⟩ := found
    obtain ⟨_, _, _, hreads, _⟩ := (reads_of_matchToken hmatch).exists_counterpart units
    rw [matchToken_of_reads hreads] at h
    cases h

/-! ## An expression in two systems -/

/-- A slice with its value under each of two systems. -/
structure TwoReadings where
  text : List Char
  first : Value
  second : Value

/-- Both systems cut a text at the same places, and leave the same text. -/
theorem Slices.exists_twoReadings {units : UnitSystem} {s left : List Char}
    {tokens : List (List Char × Value)} (h : Slices units s tokens left) (other : UnitSystem) :
    ∃ readings : List TwoReadings, tokens = readings.map (fun r => (r.text, r.first)) ∧
      Slices other s (readings.map fun r => (r.text, r.second)) left ∧
      ∀ r ∈ readings, Counterparts units other r.text r.first r.second := by
  induction h with
  | stop hnone => exact ⟨[], rfl, .stop (matchToken_eq_none_of other hnone), by simp⟩
  | @token t s v _ _ ht hmatch _ ih =>
    obtain ⟨u, w, hu, hreads, hcounterparts⟩ :=
      (reads_of_matchToken hmatch).exists_counterpart other
    obtain rfl := List.append_cancel_right hu
    obtain ⟨readings, rfl, hslices, hreadings⟩ := ih
    refine ⟨⟨t, v, w⟩ :: readings, rfl, .token ht (matchToken_of_reads hreads) hslices, ?_⟩
    intro r hr
    rcases List.mem_cons.1 hr with rfl | hr
    · exact hcounterparts
    · exact hreadings r hr

/-- The error of the text that no token starts, if there is such text. -/
def leftover (left : List Char) : List Value :=
  if left = [] then [] else [.error (String.ofList left)]

theorem Slices.parts {units : UnitSystem} {input : String} {left : List Char}
    {tokens : List (List Char × Value)}
    (h : Slices units (withoutBlanks input.toList) tokens left) :
    (Calculation.ofExpression units input).parts = tokens.map Prod.snd ++ leftover left := by
  unfold leftover
  by_cases hleft : left = []
  · subst hleft
    rw [Calculation.ofExpression_of_readTokens h.readTokens, if_pos rfl, List.append_nil]
  · rw [Calculation.ofExpression_of_left h.readTokens hleft, if_neg hleft]

/-- An expression is the tokens that are read of it. -/
theorem Calculation.ofExpression_congr {units other : UnitSystem} {input : String}
    (h : readTokens units (withoutBlanks input.toList) =
      readTokens other (withoutBlanks input.toList)) :
    ofExpression units input = ofExpression other input := by
  unfold ofExpression
  rw [h]

/-! ## The law -/

/-- An expression is the same slices and the same text left over under both
systems. A slice has one value under both, unless it is a pace without a unit:
then it is a pace under both, and the pace under the imperial system is the
other one divided by the kilometers of a mile. An expression without such a
pace is one calculation under both. -/
theorem systems_differ_in_bare_paces_alone (input : String) :
    ∃ (readings : List TwoReadings) (left : List Char),
      Slices .metric (withoutBlanks input.toList) (readings.map fun r => (r.text, r.first)) left ∧
      Slices .imperial (withoutBlanks input.toList) (readings.map fun r => (r.text, r.second))
        left ∧
      (∀ r ∈ readings,
        (¬ BarePace r.text → r.first = r.second) ∧
        (BarePace r.text → ∃ seconds, r.first = .pace ⟨seconds, .pace⟩ ∧
          r.second = .pace ⟨seconds / kilometersPerMile, .pace⟩)) ∧
      (Calculation.ofExpression .metric input).parts =
        readings.map TwoReadings.first ++ leftover left ∧
      (Calculation.ofExpression .imperial input).parts =
        readings.map TwoReadings.second ++ leftover left ∧
      (Calculation.ofExpression .metric input).parts.map Value.kind =
        (Calculation.ofExpression .imperial input).parts.map Value.kind ∧
      ((∀ r ∈ readings, ¬ BarePace r.text) →
        Calculation.ofExpression .metric input = Calculation.ofExpression .imperial input) := by
  obtain ⟨tokens, left, hmetric⟩ := exists_slices .metric (withoutBlanks input.toList)
  obtain ⟨readings, rfl, himperial, hreadings⟩ := hmetric.exists_twoReadings .imperial
  have hfirst := hmetric.parts
  have hsecond := himperial.parts
  rw [List.map_map] at hfirst hsecond
  refine ⟨readings, left, hmetric, himperial, ?_, hfirst, hsecond, ?_, ?_⟩
  · rintro ⟨t, v, w⟩ hr
    cases hreadings _ hr with
    | same _ hbare => exact ⟨fun _ => rfl, fun h => absurd h hbare⟩
    | bare seconds hbare => exact ⟨fun h => absurd hbare h, fun _ => ⟨seconds, rfl, rfl⟩⟩
  · rw [hfirst, hsecond, List.map_append, List.map_append, List.map_map, List.map_map]
    congr 1
    apply List.map_congr_left
    intro r hr
    exact (hreadings r hr).kind_eq
  · intro hnone
    apply Calculation.ofExpression_congr
    rw [hmetric.readTokens, himperial.readTokens, List.map_map, List.map_map]
    congr 1
    apply List.map_congr_left
    intro r hr
    exact (hreadings r hr).eq_of_not_barePace (hnone r hr)

theorem a_race_in_hours_and_minutes_is_one_calculation :
    Calculation.ofExpression .metric "HM in 1h 30min" =
      Calculation.ofExpression .imperial "HM in 1h 30min" := by
  obtain ⟨readings, left, hmetric, _, _, _, _, _, hsame⟩ :=
    systems_differ_in_bare_paces_alone "HM in 1h 30min"
  apply hsame
  intro r hr hbare
  have hcolon : ':' ∈ withoutBlanks "HM in 1h 30min".toList := by
    rw [hmetric.text, sliceText, List.map_map]
    apply List.mem_append_left
    exact List.mem_flatten.2 ⟨r.text, List.mem_map.2 ⟨r, hr, rfl⟩, hbare.colon_mem⟩
  exact absurd hcolon (by decide +kernel)

end Stride
