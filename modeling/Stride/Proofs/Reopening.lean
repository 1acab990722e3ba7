-- What comes back of an expression that was saved. The result of an operation
-- is always a finite number, but a part can be out of range: a speed of zero,
-- or a number of too many digits. Such a part comes back as an error.
import Stride.Proofs.Requests
import Stride.Proofs.Results

namespace Stride

/-! ## Calculations in range -/

/-- A result that is no error is out of range only where the one part is. -/
theorem isInRange_of_calculate {parts : List Value} {v : Value} (h : calculate parts = some v)
    (hok : v.isError = false) (hparts : ∀ w ∈ parts, w.isInRange = true) : v.isInRange = true := by
  rcases calculate_cases h hok with ⟨p, rfl, rfl⟩ | ⟨_, _, _, _, happly⟩
  · exact hparts (.pace p) (by simp)
  · exact isInRange_of_apply happly

theorem Calculation.finite_iff_of_isOk {units : UnitSystem} {input : String}
    (h : (ofExpression units input).isOk = true) : (ofExpression units input).Finite ↔
      ∀ v ∈ (ofExpression units input).parts, v.isInRange = true := by
  obtain ⟨v, hv, hok⟩ := exists_result h
  constructor
  · exact fun hfinite w hw => hfinite w (List.mem_append_left _ hw)
  · intro hparts w hw
    rcases List.mem_append.1 hw with hw | hw
    · exact hparts w hw
    · rw [hv, Option.toList_some, List.mem_singleton] at hw
      rw [hw]
      exact isInRange_of_calculate ((readTokens_of_isOk h).2.symm.trans hv) hok hparts

/-! ## Values out of range -/

/-- A value out of range has lost its one field. -/
theorem Value.isError_of_kept {v : Value} (h : v.isInRange = false) :
    v.toRecord.kept.toValue.isError = true := by
  have hlost : ∀ x, v.quantity? = some x → (some x).filter Binary64.isFinite = none := by
    intro x hx
    rw [isInRange, hx, Option.all_some] at h
    exact Option.filter_some_neg h
  unfold toRecord ValueRecord.kept ValueRecord.toValue
  cases v with
  | error message => cases h
  | operator op => cases h
  | pace p =>
    obtain ⟨x, _ | _⟩ := p <;>
      simp only [hlost x rfl, kind, Option.elim_none, isError]
  | duration x => simp only [hlost x rfl, kind, Option.elim_none, isError]
  | distance d =>
    cases d with
    | plain x => simp only [hlost x rfl, kind, Distance.meters, Option.elim_none, isError]
    | marathon => exact absurd h (by decide +kernel)
    | halfMarathon => exact absurd h (by decide +kernel)
  | constant x => simp only [hlost x rfl, kind, Option.elim_none, isError]

/-- What comes back of a calculation is the calculation, or an error stands in
it. -/
theorem Calculation.kept_cases (c : Calculation) :
    c.Finite ∧ c.toRecord.kept.toCalculation = c ∨
      ¬ c.Finite ∧ c.toRecord.kept.toCalculation.isError = true := by
  by_cases hfinite : c.Finite
  · exact Or.inl ⟨hfinite, by rw [hfinite.toRecord.kept_eq, toCalculation_toRecord]⟩
  · refine Or.inr ⟨hfinite, ?_⟩
    obtain ⟨v, hv, hrange⟩ : ∃ v ∈ c.parts ++ c.result.toList, v.isInRange = false := by
      simpa [Finite] using hfinite
    have hlost := Value.isError_of_kept hrange
    simp only [isError, CalculationRecord.toCalculation, CalculationRecord.kept, toRecord,
      List.map_map, Option.map_map, List.any_map, Option.any_map, Bool.or_eq_true,
      List.any_eq_true, Option.any_eq_true]
    rcases List.mem_append.1 hv with hpart | hresult
    · exact Or.inl ⟨v, hpart, hlost⟩
    · exact Or.inr ⟨v, Option.mem_toList.1 hresult, hlost⟩

/-! ## The law -/

/-- Saving accepts any successful calculation. What the file gives back when it
is read is that calculation, again successful, exactly where every part is in
range; where one is not, it is a calculation with an error in it. -/
theorem a_saved_expression_comes_back_in_range (units : UnitSystem) (input : String) (s : Store)
    (path : String) (hok : (Calculation.ofExpression units input).isOk = true) :
    ∃ pushed saved c, s.push (Calculation.ofExpression units input) = .ok pushed ∧
      pushed.save path true = .ok saved ∧ saved.reload.history.calculations.head? = some c ∧
      (c = Calculation.ofExpression units input ↔
        ∀ v ∈ (Calculation.ofExpression units input).parts, v.isInRange = true) ∧
      (c = Calculation.ofExpression units input → (saved.reload.push c).isOk = true) ∧
      (c ≠ Calculation.ofExpression units input → c.isError = true) := by
  let c := Calculation.ofExpression units input
  let h : History := { s.history with records := c.toRecord :: s.history.records }
  have hreload := Store.load_toContent h
  refine ⟨{ s with history := h }, ⟨h, some h.toContent⟩, c.toRecord.kept.toCalculation,
    s.push_of_isOk hok, rfl, ?_, ?_, ?_, ?_⟩
  · simp only [Store.reload, hreload, History.calculations, History.kept, h, List.map_cons,
      List.head?_cons]
  · rw [← Calculation.finite_iff_of_isOk hok]
    constructor
    · intro hsame
      rw [← hsame]
      exact Calculation.finite_toCalculation (CalculationRecord.finite_kept _)
    · intro hfinite
      rcases Calculation.kept_cases c with ⟨_, hsame⟩ | ⟨hlost, _⟩
      · exact hsame
      · exact absurd hfinite hlost
  · intro hsame
    rw [hsame, Store.push_of_isOk _ hok]
    rfl
  · intro hother
    rcases Calculation.kept_cases c with ⟨_, hsame⟩ | ⟨_, herror⟩
    · exact absurd hsame hother
    · exact herror

theorem five_kilometers_come_back :
    ∃ pushed saved, (Store.load none).push (Calculation.ofExpression .metric "5km in 25min") =
        .ok pushed ∧
      pushed.save ".pacecalc.json" true = .ok saved ∧
      saved.reload.history.calculations.head? =
        some ⟨[.distance (.plain 5000), .operator .inWord, .duration 1500],
          some (.pace ⟨300, .pace⟩)⟩ := by
  have hread : Calculation.ofExpression .metric "5km in 25min" =
      ⟨[.distance (.plain 5000), .operator .inWord, .duration 1500],
        some (.pace ⟨300, .pace⟩)⟩ := by decide +kernel
  obtain ⟨pushed, saved, c, hpush, hsave, hhead, hsame, _⟩ :=
    a_saved_expression_comes_back_in_range .metric "5km in 25min" (Store.load none)
      ".pacecalc.json" (by rw [hread]; rfl)
  refine ⟨pushed, saved, hpush, hsave, ?_⟩
  rw [hhead, hsame.2 (by rw [hread]; decide +kernel), hread]

/-- A speed of zero is successful on its own, and lost when it is saved. -/
theorem a_standstill_does_not_come_back :
    (Calculation.ofExpression .metric "0km/h").isOk = true ∧
    ∃ pushed saved c, (Store.load none).push (Calculation.ofExpression .metric "0km/h") =
        .ok pushed ∧
      pushed.save ".pacecalc.json" true = .ok saved ∧
      saved.reload.history.calculations.head? = some c ∧
      c.parts = [.error "Missing field 'SecondsPerKm' for Speed"] ∧
      c ≠ Calculation.ofExpression .metric "0km/h" ∧ c.isOk = false ∧
      saved.reload.push c = .error .notSuccessful := by
  have hread : Calculation.ofExpression .metric "0km/h" =
      ⟨[.pace ⟨.infinite false, .speed⟩], some (.pace ⟨.infinite false, .pace⟩)⟩ := by
    decide +kernel
  rw [hread]
  let h : History := ⟨.metric, [⟨[Value.toRecord (.pace ⟨.infinite false, .speed⟩)],
    some (Value.toRecord (.pace ⟨.infinite false, .pace⟩))⟩]⟩
  let c : Calculation := ⟨[.error "Missing field 'SecondsPerKm' for Speed"],
    some (.error "Missing field 'SecondsPerKm' for Pace")⟩
  refine ⟨rfl, ⟨h, none⟩, ⟨h, some h.toContent⟩, c, rfl, rfl, ?_, rfl, by decide, rfl, rfl⟩
  rw [Store.reload, Store.load_toContent]
  decide

end Stride
