-- Durations that can be written in two ways: `4:30min` or `4min30s`, `1:30h`
-- or `1h30min`. Each is one token of the same value. Of three numbers between
-- colons the first two are a pace, and a duration is only what has units.
import Stride.Proofs.Decimals
import Stride.Proofs.Rendering

namespace Stride

namespace Binary64

/-! ## Zero and one -/

theorem NonNegative.zero_add {x : Binary64} (hx : NonNegative x) : 0 + x = x := by
  obtain ⟨hzero, h0⟩ := exists_zero
  rw [h0]
  cases x with
  | nan => rfl
  | infinite negative => rfl
  | finite negative u hu =>
    cases hx
    change ofQuotient false (0 + u) 1 = _
    rw [Nat.zero_add, ofQuotient_self false hu]

theorem exists_one : ∃ h, (1 : Binary64) = .finite false oneUnits h := by
  refine ⟨?_, ?_⟩
  · decide +kernel
  · decide +kernel

protected theorem mul_one (x : Binary64) : x * 1 = x := by
  obtain ⟨hone, h1⟩ := exists_one
  rw [h1]
  cases x with
  | nan => rfl
  | infinite negative =>
    change (if oneUnits = 0 then Binary64.nan else .infinite (negative ^^ false)) = _
    rw [if_neg (Nat.ne_of_gt oneUnits_pos), Bool.xor_false]
  | finite negative u hu =>
    change ofQuotient (negative ^^ false) (u * oneUnits) oneUnits = _
    have hscale := ofQuotient_mul_right negative u 1 oneUnits_pos
    rw [Nat.one_mul] at hscale
    rw [Bool.xor_false, hscale, ofQuotient_self negative hu]

end Binary64

/-! ## Texts of one token -/

section Texts

variable {units : UnitSystem} {t left : List Char} {v : Value}

theorem matchToken_nil (units : UnitSystem) : matchToken units [] = none := by
  rw [matchToken_of_noDigit (by simp [NoDigit])]
  rfl

/-- No token begins with a colon. -/
theorem matchToken_colon (units : UnitSystem) (rest : List Char) :
    matchToken units (':' :: rest) = none := by
  have hm : ¬ (':' = 'm' ∨ ':' = 'M') := by decide
  have hh : ¬ (':' = 'h' ∨ ':' = 'H') := by decide
  rw [matchToken_of_noDigit (noDigit_colon rest),
    matchOperator_of_not_beginsWith (Operator.words.not_beginsWith_colon rest),
    matchMarathon_cons, if_neg hm, matchHalfMarathon_of_other hh rest]
  rfl

/-- A text that is one token, and then perhaps one that no token begins. -/
theorem readTokens_of_reads (h : Reads units t v left) (hleft : matchToken units left = none) :
    readTokens units t = ([v], left) := by
  rw [readTokens_of_some (matchToken_of_reads h), readTokens_of_none hleft]

theorem Calculation.ofExpression_of_reads (h : Reads units t v []) :
    ofExpression units (String.ofList t) = ⟨[v], calculate [v]⟩ := by
  apply ofExpression_of_readTokens
  rw [String.toList_ofList, (solid_of_reads h).withoutBlanks]
  exact readTokens_of_reads h (matchToken_nil units)

end Texts

/-! ## Durations -/

/-- `4:30min`, where the unit is that of the first number. -/
def clockText (first second : List Char) (unit : TimeUnit) : List Char :=
  first ++ ':' :: (second ++ unit.symbol.toList)

theorem reads_clock (units : UnitSystem) {a b : List Char} (ha : Digits a) (hb : Digits b)
    (unit : TimeUnit) : Reads units (clockText a b unit)
      (.duration (unit.toSeconds (digitsNumber a 0) (digitsNumber b 0) 0)) [] := by
  have hpace : ¬ BeginsWith PaceUnit.symbol (unit.symbol.toList ++ []) := by
    rintro ⟨pace, hpace⟩
    revert hpace
    cases unit <;> cases pace <;> decide
  have hreads : Reads units _ _ [] := .clock unit [] ha hb hpace
  rwa [List.append_nil] at hreads

theorem Calculation.ofExpression_clock (units : UnitSystem) {a b : List Char} (ha : Digits a)
    (hb : Digits b) (unit : TimeUnit) : ofExpression units (String.ofList (clockText a b unit)) =
      ⟨[.duration (unit.toSeconds (digitsNumber a 0) (digitsNumber b 0) 0)], none⟩ :=
  ofExpression_of_reads (reads_clock units ha hb unit)

/-- Of three numbers between colons the first two are read as a pace, and no
token begins with the colon behind them. -/
theorem Calculation.ofExpression_two_colons (units : UnitSystem) {a b c : List Char}
    (ha : Digits a) (hb : Digits b) (hc : Digits c) (unit : TimeUnit) :
    ofExpression units (String.ofList (a ++ ':' :: clockText b c unit)) =
      ⟨[.pace ⟨units.paceUnit.perKilometer (digitsNumber a 0 * minuteSeconds + digitsNumber b 0),
        .pace⟩, .error (String.ofList (':' :: (c ++ unit.symbol.toList)))], none⟩ := by
  have hsolid : Solid (a ++ ':' :: clockText b c unit) := by
    unfold clockText
    simp only [solid_append, solid_cons]
    exact ⟨ha.solid, by decide, hb.solid, by decide, hc.solid, unit.solid⟩
  have hreads : Reads units (a ++ ':' :: clockText b c unit) _ (':' :: (c ++ unit.symbol.toList)) :=
    .barePace _ ha hb (noDigit_colon _) (PaceUnit.words.not_beginsWith_colon _)
      (TimeUnit.words.not_beginsWith_colon _)
  have htokens := readTokens_of_reads hreads (matchToken_colon units _)
  rw [← hsolid.withoutBlanks,
    ← String.toList_ofList (l := a ++ ':' :: clockText b c unit)] at htokens
  exact ofExpression_of_left htokens (List.cons_ne_nil _ _)

/-- Digits with units that go down, and perhaps with none between them. -/
theorem Calculation.ofExpression_components (units : UnitSystem) {run : Components} (hne : run ≠ [])
    (hunits : (run.map Prod.snd).Sublist TimeUnit.all) (hdigits : ∀ c ∈ run, Digits c.1) :
    ofExpression units (String.ofList run.text) = ⟨[.duration run.seconds], none⟩ :=
  ofExpression_of_reads (reads_components units hne ⟨hunits, hdigits⟩)

/-- Nothing is added to the first component. -/
theorem Components.seconds_cons (d : List Char) (unit : TimeUnit) (run : Components) :
    Components.seconds ((d, unit) :: run) =
      run.foldl (fun total (digits, unit) => total + digitsNumber digits 0 * unit.inSeconds)
        (digitsNumber d 0 * unit.inSeconds) := by
  have hfirst := (nonNegative_digitsNumber d 0).mul unit.positive_inSeconds
  change run.foldl _ (0 + digitsNumber d 0 * unit.inSeconds) = _
  rw [hfirst.zero_add]

section Values

variable (a b c : List Char)

theorem Components.seconds_minutes : Components.seconds [(a, .minute), (b, .second)] =
    digitsNumber a 0 * minuteSeconds + digitsNumber b 0 := by
  rw [Components.seconds_cons]
  change _ + digitsNumber b 0 * 1 = _
  rw [Binary64.mul_one]
  rfl

theorem Components.seconds_hours : Components.seconds [(a, .hour), (b, .minute)] =
    digitsNumber a 0 * hourSeconds + digitsNumber b 0 * minuteSeconds := by
  rw [Components.seconds_cons]
  rfl

theorem Components.seconds_hours_minutes :
    Components.seconds [(a, .hour), (b, .minute), (c, .second)] =
      digitsNumber a 0 * hourSeconds + digitsNumber b 0 * minuteSeconds + digitsNumber c 0 := by
  rw [Components.seconds_cons]
  change _ + digitsNumber c 0 * 1 = _
  rw [Binary64.mul_one]
  rfl

theorem TimeUnit.toSeconds_hour : TimeUnit.hour.toSeconds (digitsNumber a 0) (digitsNumber b 0) 0 =
    digitsNumber a 0 * hourSeconds + digitsNumber b 0 * minuteSeconds := by
  have hours := (nonNegative_digitsNumber a 0).mul positive_hourSeconds
  have minutes := (nonNegative_digitsNumber b 0).mul positive_minuteSeconds
  rw [TimeUnit.toSeconds, (hours.add minutes).add_zero]

end Values

/-! ## The law -/

/-- Minutes and seconds, or hours and minutes, are one duration of the same
value with a colon and with two units. Hours, minutes and seconds are one
duration with three units; with two colons they are never one, but a pace and
an error. -/
theorem two_numbers_of_time_have_two_spellings (units : UnitSystem) {a b c : List Char}
    (ha : Digits a) (hb : Digits b) (hc : Digits c) :
    (Calculation.ofExpression units (String.ofList (a ++ ':' :: (b ++ "min".toList))) =
        ⟨[.duration (digitsNumber a 0 * minuteSeconds + digitsNumber b 0)], none⟩ ∧
      Calculation.ofExpression units
          (String.ofList (a ++ "min".toList ++ (b ++ "s".toList))) =
        ⟨[.duration (digitsNumber a 0 * minuteSeconds + digitsNumber b 0)], none⟩) ∧
    (Calculation.ofExpression units (String.ofList (a ++ ':' :: (b ++ "h".toList))) =
        ⟨[.duration (digitsNumber a 0 * hourSeconds + digitsNumber b 0 * minuteSeconds)], none⟩ ∧
      Calculation.ofExpression units
          (String.ofList (a ++ "h".toList ++ (b ++ "min".toList))) =
        ⟨[.duration (digitsNumber a 0 * hourSeconds + digitsNumber b 0 * minuteSeconds)], none⟩) ∧
    Calculation.ofExpression units
        (String.ofList (a ++ "h".toList ++ (b ++ "min".toList ++ (c ++ "s".toList)))) =
      ⟨[.duration (digitsNumber a 0 * hourSeconds + digitsNumber b 0 * minuteSeconds +
        digitsNumber c 0)], none⟩ ∧
    Calculation.ofExpression units
        (String.ofList (a ++ ':' :: (b ++ ':' :: (c ++ "h".toList)))) =
      ⟨[.pace ⟨units.paceUnit.perKilometer (digitsNumber a 0 * minuteSeconds + digitsNumber b 0),
        .pace⟩, .error (String.ofList (':' :: (c ++ "h".toList)))], none⟩ := by
  have hminutes : Components.text [(a, .minute), (b, .second)] =
      a ++ "min".toList ++ (b ++ "s".toList) := by simp [Components.text, TimeUnit.symbol]
  have hhours : Components.text [(a, .hour), (b, .minute)] =
      a ++ "h".toList ++ (b ++ "min".toList) := by simp [Components.text, TimeUnit.symbol]
  have hall : Components.text [(a, .hour), (b, .minute), (c, .second)] =
      a ++ "h".toList ++ (b ++ "min".toList ++ (c ++ "s".toList)) := by
    simp [Components.text, TimeUnit.symbol]
  refine ⟨⟨?_, ?_⟩, ⟨?_, ?_⟩, ?_, ?_⟩
  · exact Calculation.ofExpression_clock units ha hb .minute
  · rw [← hminutes, ← Components.seconds_minutes]
    exact Calculation.ofExpression_components units (by simp)
      (show [TimeUnit.minute, .second].Sublist _ by decide) (by simp [ha, hb])
  · rw [← TimeUnit.toSeconds_hour]
    exact Calculation.ofExpression_clock units ha hb .hour
  · rw [← hhours, ← Components.seconds_hours]
    exact Calculation.ofExpression_components units (by simp)
      (show [TimeUnit.hour, .minute].Sublist _ by decide) (by simp [ha, hb])
  · rw [← hall, ← Components.seconds_hours_minutes]
    exact Calculation.ofExpression_components units (by simp)
      (show [TimeUnit.hour, .minute, .second].Sublist _ by decide) (by simp [ha, hb, hc])
  · exact Calculation.ofExpression_two_colons units ha hb hc .hour

theorem half_past_one_has_two_spellings :
    Calculation.ofExpression .metric "1:30h" = ⟨[.duration 5400], none⟩ ∧
    Calculation.ofExpression .metric "1h30min" = ⟨[.duration 5400], none⟩ ∧
    Calculation.ofExpression .metric "1h30min15s" = ⟨[.duration 5415], none⟩ := by
  have hdigits : Digits ['1'] ∧ Digits ['3', '0'] ∧ Digits ['1', '5'] := by decide
  obtain ⟨_, ⟨hclock, hcomponents⟩, hall, _⟩ :=
    two_numbers_of_time_have_two_spellings .metric hdigits.1 hdigits.2.1 hdigits.2.2
  have hhours : digitsNumber ['1'] 0 * hourSeconds + digitsNumber ['3', '0'] 0 * minuteSeconds =
      5400 := by decide +kernel
  have hseconds : (5400 : Binary64) + digitsNumber ['1', '5'] 0 = 5415 := by decide +kernel
  rw [hhours] at hclock hcomponents hall
  rw [hseconds] at hall
  exact ⟨hclock, hcomponents, hall⟩

/-- A second colon makes a pace of the hours and the minutes. -/
theorem two_colons_are_no_duration :
    Calculation.ofExpression .metric "1:30:15h" =
      ⟨[.pace ⟨90, .pace⟩, .error ":15h"], none⟩ ∧
    Calculation.ofExpression .metric "1h30min15s" = ⟨[.duration 5415], none⟩ ∧
    Calculation.ofExpression .metric "1:30:15h" ≠
      Calculation.ofExpression .metric "1h30min15s" := by
  have hclock : Calculation.ofExpression .metric "1:30:15h" =
      ⟨[.pace ⟨90, .pace⟩, .error ":15h"], none⟩ := by decide +kernel
  have hcomponents : Calculation.ofExpression .metric "1h30min15s" =
      ⟨[.duration 5415], none⟩ := by decide +kernel
  refine ⟨hclock, hcomponents, ?_⟩
  rw [hclock, hcomponents]
  simp

end Stride
