-- The value of a list of tokens: one operator after the other is taken
-- together with its neighbours and gives way to its result.
import Stride.Operation

namespace Stride

/-! ## The next operator -/

/-- A list taken apart at an operator. -/
structure Cut where
  before : List Value
  operator : Operator
  after : List Value

/-- The cut at the first operator that `wanted` accepts. -/
def firstOperator? (wanted : Operator → Bool) : List Value → Option Cut
  | [] => none
  | v :: rest =>
    match v.operator? with
    | some op =>
      if wanted op then some ⟨[], op, rest⟩
      else (firstOperator? wanted rest).map fun cut => { cut with before := v :: cut.before }
    | none => (firstOperator? wanted rest).map fun cut => { cut with before := v :: cut.before }

/-- The words bind first, then `*`, then whatever stands first. -/
def nextOperator? (parts : List Value) : Option Cut :=
  (firstOperator? Operator.isRelational parts).or
    ((firstOperator? (· == .multiply) parts).or (firstOperator? (fun _ => true) parts))

/-! ## Evaluation -/

/-- The list after its next operation. An operator needs a neighbour on
each side. -/
def reduceOnce (parts : List Value) : Except Failure (List Value) :=
  match nextOperator? parts with
  | none => .error .invalidOperation
  | some cut =>
    match cut.before.getLast?, cut.after with
    | some left, right :: rest =>
      match cut.operator.apply left right with
      | .ok v => .ok (cut.before.dropLast ++ v :: rest)
      | .error failure => .error failure
    | _, _ => .error .invalidOperation

theorem firstOperator?_append {wanted : Operator → Bool} {parts : List Value} {cut : Cut}
    (h : firstOperator? wanted parts = some cut) :
    parts = cut.before ++ .operator cut.operator :: cut.after := by
  induction parts generalizing cut with
  | nil => cases h
  | cons v rest ih =>
    have hskip : ∀ {cut}, (firstOperator? wanted rest).map
        (fun cut => { cut with before := v :: cut.before }) = some cut →
        v :: rest = cut.before ++ .operator cut.operator :: cut.after := by
      intro cut h
      obtain ⟨c, hc, rfl⟩ := Option.map_eq_some_iff.1 h
      rw [ih hc]; rfl
    unfold firstOperator? at h
    split at h
    next op hop =>
      split at h
      · cases h
        cases v <;> simp_all [Value.operator?]
      · exact hskip h
    next => exact hskip h

theorem nextOperator?_append {parts : List Value} {cut : Cut} (h : nextOperator? parts = some cut) :
    parts = cut.before ++ .operator cut.operator :: cut.after := by
  rcases Option.or_eq_some_iff.1 h with h | ⟨_, h⟩
  · exact firstOperator?_append h
  · rcases Option.or_eq_some_iff.1 h with h | ⟨_, h⟩ <;> exact firstOperator?_append h

theorem length_reduceOnce {parts next : List Value} (h : reduceOnce parts = .ok next) :
    next.length + 2 = parts.length := by
  unfold reduceOnce at h
  split at h
  · cases h
  next cut hcut =>
    have hparts := congrArg List.length (nextOperator?_append hcut)
    split at h
    next left right rest hleft hafter =>
      have : cut.before ≠ [] := by rintro he; simp [he] at hleft
      have := List.length_pos_iff.2 this
      split at h
      · cases h
        simp only [hafter, List.length_append, List.length_cons, List.length_dropLast] at hparts ⊢
        omega
      · cases h
    next => cases h

/-- The one value that a list comes to. The first failure ends it. -/
def reduce (parts : List Value) : Except Failure Value :=
  match parts with
  | [v] => .ok v
  | parts =>
    match _h : reduceOnce parts with
    | .ok next => reduce next
    | .error failure => .error failure
termination_by parts.length
decreasing_by have := length_reduceOnce _h; omega

/-- A pace alone is shown the other way. All else needs three tokens. -/
def calculate (parts : List Value) : Option Value :=
  match parts with
  | [.pace p] => some (.pace p.swapView)
  | _ =>
    if parts.length < 3 then none
    else some (Value.ofOutcome (reduce parts))

end Stride
