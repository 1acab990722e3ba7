-- What a list of tokens must be to have a result: operands with an operator
-- between any two. The result is then what some operation comes to, so it is
-- in range and no operator; only a pace alone is its own result.
import Stride.Proofs.Passes
import Stride.Calculation

namespace Stride

/-! ## Operations -/

theorem isInRange_of_apply {op : Operator} {left right v : Value}
    (h : op.apply left right = .ok v) : v.isInRange = true := by
  unfold Operator.apply at h
  split at h
  next =>
    split at h
    next hrange => cases h; exact hrange
    next => cases h
  next => cases h

/-- No rule takes an operator for an operand. -/
theorem operands_of_apply {op : Operator} {left right v : Value}
    (h : op.apply left right = .ok v) :
    left.isOperator = false ∧ right.isOperator = false ∧ v.isOperator = false := by
  have hresult : v.isOperator = false := by
    have hnone := operator?_of_apply h
    cases v <;> first | rfl | cases hnone
  have hrule : applyRule left op right ≠ .error .unknownOperation := by
    intro hunknown
    unfold Operator.apply at h
    rw [hunknown] at h
    cases h
  refine ⟨?_, ?_, hresult⟩
  · cases left with
    | operator other => exact absurd (by cases right <;> rfl) hrule
    | _ => rfl
  · cases right with
    | operator other => exact absurd (by cases left <;> cases op <;> rfl) hrule
    | _ => rfl

/-- A step puts the result of an operation in the place of three values. -/
theorem exists_apply_of_reduceOnce {parts next : List Value} (h : reduceOnce parts = .ok next) :
    ∃ before left op right after v, parts = before ++ left :: .operator op :: right :: after ∧
      op.apply left right = .ok v ∧ next = before ++ v :: after := by
  rcases reduceOnce_cases parts with ⟨_, hstop⟩ | ⟨_, _, _, _, _, hstop⟩ |
    ⟨before, left, op, right, after, hnext, hstep⟩
  · rw [hstop] at h
    cases h
  · rw [hstop] at h
    cases h
  · rw [hstep] at h
    cases hv : op.apply left right with
    | error failure => rw [hv] at h; cases h
    | ok v =>
      rw [hv] at h
      cases h
      have hparts := nextOperator?_append hnext
      rw [List.append_assoc, List.singleton_append] at hparts
      exact ⟨before, left, op, right, after, v, hparts, hv, rfl⟩

/-- Where anything was reduced at all, the last operation gave the result. -/
theorem exists_apply_of_reduce {parts : List Value} {v : Value} (h : reduce parts = .ok v)
    (hlone : parts ≠ [v]) : ∃ op left right, Operator.apply op left right = .ok v := by
  fun_induction reduce parts with
  | case1 w => exact absurd (by rw [Except.ok.inj h]) hlone
  | case2 parts _ next hnext ih =>
    by_cases hnextLone : next = [v]
    · obtain ⟨before, left, op, right, after, w, _, hw, hnext⟩ := exists_apply_of_reduceOnce hnext
      rw [hnextLone] at hnext
      obtain ⟨rfl, rfl⟩ : before = [] ∧ v = w := by
        cases before with
        | nil => exact ⟨rfl, (List.cons.inj hnext).1⟩
        | cons _ before => cases before <;> cases hnext
      exact ⟨op, left, right, hw⟩
    · exact ih h hnextLone
  | case3 => cases h

/-! ## Operands and operators in turn -/

/-- Operands, with an operator between any two. -/
inductive Alternates : List Value → Prop
  | single {v : Value} : v.isOperator = false → Alternates [v]
  | cons {v : Value} (op : Operator) {rest : List Value} : v.isOperator = false →
      Alternates rest → Alternates (v :: .operator op :: rest)

/-- An operand may be made of two operands and an operator. -/
theorem Alternates.split {before after : List Value} {v left right : Value} (op : Operator)
    (h : Alternates (before ++ v :: after)) (hv : v.isOperator = false)
    (hleft : left.isOperator = false) (hright : right.isOperator = false) :
    Alternates (before ++ left :: .operator op :: right :: after) := by
  generalize hparts : before ++ v :: after = parts at h
  induction h generalizing before with
  | @single w hw =>
    cases before with
    | nil =>
      cases hparts
      exact .cons op hleft (.single hright)
    | cons _ before => cases before <;> cases hparts
  | @cons w other rest hw hrest ih =>
    cases before with
    | nil =>
      cases hparts
      exact .cons op hleft (.cons other hright hrest)
    | cons first before =>
      cases before with
      | nil =>
        cases hparts
        cases hv
      | cons second before =>
        simp only [List.cons_append, List.cons.injEq] at hparts
        obtain ⟨rfl, rfl, hparts⟩ := hparts
        exact .cons other hw (ih hparts)

theorem alternates_of_reduce {parts : List Value} {v : Value} (h : reduce parts = .ok v)
    (hv : v.isOperator = false) : Alternates parts := by
  fun_induction reduce parts with
  | case1 w =>
    cases h
    exact .single hv
  | case2 parts _ next hnext ih =>
    obtain ⟨before, left, op, right, after, w, rfl, hw, rfl⟩ := exists_apply_of_reduceOnce hnext
    obtain ⟨hleft, hright, hresult⟩ := operands_of_apply hw
    exact (ih h).split op hresult hleft hright
  | case3 => cases h

/-! ## Calculations -/

/-- The result is that of the one pace or of an operation. -/
theorem calculate_cases {parts : List Value} {v : Value} (h : calculate parts = some v)
    (hok : v.isError = false) :
    (∃ p, parts = [.pace p] ∧ v = .pace p.swapView) ∨
      (reduce parts = .ok v ∧ ∃ op left right, Operator.apply op left right = .ok v) := by
  unfold calculate at h
  split at h
  next p =>
    cases h
    exact Or.inl ⟨p, rfl, rfl⟩
  next =>
    split at h
    next => cases h
    next hlength =>
      cases hreduce : reduce parts with
      | error failure =>
        rw [hreduce] at h
        cases h
        cases hok
      | ok w =>
        rw [hreduce] at h
        cases h
        refine Or.inr ⟨rfl, exists_apply_of_reduce hreduce ?_⟩
        rintro rfl
        simp at hlength

namespace Calculation

theorem exists_result {c : Calculation} (h : c.isOk = true) :
    ∃ v, c.result = some v ∧ v.isError = false := by
  unfold isOk at h
  cases hresult : c.result with
  | none => rw [hresult] at h; cases h
  | some v => exact ⟨v, rfl, by simpa [hresult] using h⟩

variable {units : UnitSystem} {input : String}

/-- An expression with a result was read to its end. -/
theorem readTokens_of_isOk (h : (ofExpression units input).isOk = true) :
    readTokens units (withoutBlanks input.toList) = ((ofExpression units input).parts, []) ∧
      (ofExpression units input).result = calculate (ofExpression units input).parts := by
  unfold ofExpression at h ⊢
  split at h
  next parts hread => exact ⟨hread, rfl⟩
  next => cases h

theorem alternates_of_isOk (h : (ofExpression units input).isOk = true) :
    Alternates (ofExpression units input).parts := by
  obtain ⟨v, hv, hok⟩ := exists_result h
  rw [(readTokens_of_isOk h).2] at hv
  rcases calculate_cases hv hok with ⟨p, hparts, _⟩ | ⟨hreduce, _, _, _, happly⟩
  · rw [hparts]
    exact .single rfl
  · exact alternates_of_reduce hreduce (operands_of_apply happly).2.2

end Calculation

end Stride
