-- Whether a calculation is ok or in error. Of an expression it is never both.
-- A calculation that is restored can be both: its result is kept as it was
-- saved, also where a part next to it can no longer be made out.
import Stride.Proofs.Requests
import Stride.Proofs.Rereading

namespace Stride

/-! ## Damaged records -/

/-- No value can be made out of the record: it is that of an error, it lacks
the field of its kind, or there is no operator of its symbol. -/
def ValueRecord.Damaged (r : ValueRecord) : Prop :=
  match r.kind with
  | .error => True
  | .pace | .speed => r.secondsPerKilometer = none
  | .duration => r.seconds = none
  | .distance => r.meters = none
  | .constant => r.amount = none
  | .marathon | .halfMarathon => False
  | .operator => ∀ op : Operator, r.operator ≠ some op.symbol

/-- The result is sound and some part is not. -/
def CalculationRecord.DamagedInPart (r : CalculationRecord) : Prop :=
  (∃ v ∈ r.parts, v.Damaged) ∧ ∃ v ∈ r.result, ¬ v.Damaged

theorem Operator.ofSymbol?_eq_none_iff (symbol : String) :
    ofSymbol? symbol = none ↔ ∀ op : Operator, some symbol ≠ some op.symbol := by
  unfold ofSymbol?
  rw [List.find?_eq_none]
  constructor
  · intro h op hop
    exact h op op.mem_all (by simpa using (Option.some.inj hop).symm)
  · intro h op _ hop
    exact h op (by simpa using (beq_iff_eq.1 hop).symm)

namespace ValueRecord

theorem isError_elim_iff {field : Option Binary64} {message : String} {build : Binary64 → Value}
    (hbuild : ∀ x, (build x).isError = false) :
    (field.elim (.error message) build).isError = true ↔ field = none := by
  cases field with
  | none => simp [Value.isError]
  | some x => simp [hbuild x]

/-- Errors are restored of damaged records and of no others. -/
theorem isError_toValue_iff (r : ValueRecord) : r.toValue.isError = true ↔ r.Damaged := by
  unfold toValue Damaged
  cases r.kind with
  | error => simp [Value.isError]
  | pace => exact isError_elim_iff fun _ => rfl
  | speed => exact isError_elim_iff fun _ => rfl
  | duration => exact isError_elim_iff fun _ => rfl
  | distance => exact isError_elim_iff fun _ => rfl
  | constant => exact isError_elim_iff fun _ => rfl
  | marathon => simp [Value.isError]
  | halfMarathon => simp [Value.isError]
  | operator =>
    cases r.operator with
    | none => simp [Value.isError]
    | some symbol =>
      simp only
      rw [← Operator.ofSymbol?_eq_none_iff]
      cases Operator.ofSymbol? symbol <;> simp [Value.isError]

end ValueRecord

/-! ## Restored calculations -/

namespace CalculationRecord

theorem isOk_toCalculation_iff (r : CalculationRecord) :
    r.toCalculation.isOk = true ↔ ∃ v ∈ r.result, ¬ v.Damaged := by
  unfold toCalculation Calculation.isOk
  cases r.result with
  | none => simp
  | some v => simp [← v.isError_toValue_iff]

theorem isError_toCalculation_iff (r : CalculationRecord) :
    r.toCalculation.isError = true ↔ (∃ v ∈ r.parts, v.Damaged) ∨ ∃ v ∈ r.result, v.Damaged := by
  unfold toCalculation Calculation.isError
  cases r.result with
  | none => simp [ValueRecord.isError_toValue_iff]
  | some v => simp [ValueRecord.isError_toValue_iff]

/-- The flags look at different things: one at the result, the other at the
parts too. -/
theorem isOk_and_isError_iff (r : CalculationRecord) :
    (r.toCalculation.isOk = true ∧ r.toCalculation.isError = true) ↔ r.DamagedInPart := by
  rw [isOk_toCalculation_iff, isError_toCalculation_iff]
  unfold DamagedInPart
  constructor
  · rintro ⟨⟨v, hv, hsound⟩, hpart | ⟨w, hw, hdamaged⟩⟩
    · exact ⟨hpart, v, hv, hsound⟩
    · obtain rfl : v = w := Option.mem_unique hv hw
      exact absurd hdamaged hsound
  · rintro ⟨hpart, hresult⟩
    exact ⟨hresult, Or.inl hpart⟩

end CalculationRecord

/-! ## Expressions -/

/-- No token is an error, so an expression that is read to its end has none
among its parts. -/
theorem Calculation.isError_of_isOk {units : UnitSystem} {input : String}
    (h : (ofExpression units input).isOk = true) : (ofExpression units input).isError = false := by
  obtain ⟨v, hv, hok⟩ := exists_result h
  obtain ⟨_, hparts⟩ := readTokens_spec (readTokens_of_isOk h).1
  unfold isError
  rw [List.any_eq_false.2 fun w hw => by simp [(hparts w hw).2], hv, Option.any_some, hok]
  rfl

theorem Store.exists_push_iff (s : Store) (c : Calculation) :
    (∃ next, s.push c = .ok next) ↔ c.isOk = true := by
  by_cases hok : c.isOk = true
  · simp [s.push_of_isOk hok, hok]
  · simp [s.push_of_not_isOk hok, hok]

/-! ## The law -/

/-- An expression is never ok and in error, so one in error is never put into a
store. A calculation that is restored, from a text or in a store, is both
exactly where its result is sound and a part of it is damaged. A store takes
whatever is ok. -/
theorem ok_and_in_error_only_where_a_part_is_damaged :
    (∀ units input, (Calculation.ofExpression units input).isOk = true →
      (Calculation.ofExpression units input).isError = false) ∧
    (∀ text c, Calculation.ofJsonText text = .ok c →
      ∃ r, Json.decodeText CalculationRecord.decode text = .ok r ∧ c = r.toCalculation ∧
        (c.isOk = true ∧ c.isError = true ↔ r.DamagedInPart)) ∧
    (∀ (s : Store) c, c ∈ s.history.calculations →
      ∃ r ∈ s.history.records, c = r.toCalculation ∧
        (c.isOk = true ∧ c.isError = true ↔ r.DamagedInPart)) ∧
    (∀ (s : Store) c, (∃ next, s.push c = .ok next) ↔ c.isOk = true) ∧
    (∀ (s : Store) units input, (Calculation.ofExpression units input).isError = true →
      s.push (Calculation.ofExpression units input) = .error .notSuccessful) := by
  refine ⟨fun _ _ => Calculation.isError_of_isOk, ?_, ?_, Store.exists_push_iff, ?_⟩
  · intro text c h
    obtain ⟨r, hr, rfl⟩ := Json.map_eq_ok h
    exact ⟨r, hr, rfl, r.isOk_and_isError_iff⟩
  · intro s c h
    obtain ⟨r, hr, rfl⟩ := List.mem_map.1 h
    exact ⟨r, hr, rfl, r.isOk_and_isError_iff⟩
  · intro s units input herror
    apply s.push_of_not_isOk
    intro hok
    rw [Calculation.isError_of_isOk hok] at herror
    cases herror

/-- A duration without its seconds, as it is read and as it stands in a store,
and two expressions. -/
theorem a_lost_duration_is_damaged_in_part :
    (Calculation.ofExpression .metric "2 * 5min").isError = false ∧
    (∃ r, Json.decodeText CalculationRecord.decode
        "\x7b\"Parts\":[\x7b\"Type\":4\x7d],\"Result\":\x7b\"Type\":8,\"Value\":2\x7d\x7d" = .ok r ∧
      r.DamagedInPart) ∧
    (∃ r ∈ [CalculationRecord.mk [{ kind := .duration }] (some { kind := .marathon })],
      r.DamagedInPart) ∧
    (Store.load none).push (Calculation.ofExpression .metric "2 weeks") =
      .error .notSuccessful := by
  obtain ⟨hexpression, htext, hstore, _, hpush⟩ := ok_and_in_error_only_where_a_part_is_damaged
  refine ⟨hexpression _ _ (by decide +kernel), ?_, ?_, hpush _ _ _ (by decide +kernel)⟩
  · obtain ⟨r, hr, hc, hboth⟩ := htext
      "\x7b\"Parts\":[\x7b\"Type\":4\x7d],\"Result\":\x7b\"Type\":8,\"Value\":2\x7d\x7d"
      ⟨[.error "Missing field 'Seconds' for Duration"], some (.constant 2)⟩ (by decide +kernel)
    exact ⟨r, hr, hboth.1 ⟨rfl, rfl⟩⟩
  · let s : Store := ⟨⟨.metric, [⟨[{ kind := .duration }], some { kind := .marathon }⟩]⟩, none⟩
    obtain ⟨r, hr, hc, hboth⟩ := hstore s
      ⟨[.error "Missing field 'Seconds' for Duration"], some (.distance .marathon)⟩ (by decide)
    exact ⟨r, hr, hboth.1 ⟨rfl, rfl⟩⟩

/-- The result is sound, and the duration that it was taken from is lost. -/
theorem a_lost_duration_is_both_ok_and_in_error :
    let text := "\x7b\"Parts\":[\x7b\"Type\":4\x7d,\x7b\"Type\":3,\"Operator\":\"*\"\x7d,"
      ++ "\x7b\"Type\":8,\"Value\":2\x7d],\"Result\":\x7b\"Type\":4,\"Seconds\":600\x7d\x7d"
    let c : Calculation := ⟨[.error "Missing field 'Seconds' for Duration", .operator .multiply,
      .constant 2], some (.duration 600)⟩
    Calculation.ofJsonText text = .ok c ∧ c.isOk = true ∧ c.isError = true ∧
      ∃ next, (Store.load none).push c = .ok next ∧ c ∈ next.history.calculations := by
  intro text c
  have hread : Calculation.ofJsonText text = .ok c := by decide +kernel
  refine ⟨hread, rfl, rfl, _, Store.push_of_isOk _ rfl, ?_⟩
  simp [History.calculations, Calculation.toCalculation_toRecord]

end Stride
