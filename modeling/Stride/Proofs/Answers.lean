-- What the numbers of a calculation can be. None that is typed is below zero,
-- and no operation makes one that is. What an operation comes to is finite:
-- where it would not be, the evaluation ends there with the failure that says
-- so. Only a pace alone is shown the other way without such a look at it.
import Stride.Proofs.Magnitudes
import Stride.Proofs.Operands
import Stride.Proofs.UnitSystems

namespace Stride

namespace Binary64

/-! ## Arithmetic without signs -/

/-- A number without a sign, or none at all: zero times infinity is NaN, and
so are the quotients of two zeros and of two infinities. -/
def Unsigned (x : Binary64) : Prop := x = .nan ∨ NonNegative x

theorem Unsigned.nonNegative {x : Binary64} (hx : Unsigned x) (hfinite : x.isFinite = true) :
    NonNegative x := by
  rcases hx with rfl | hx
  · cases hfinite
  · exact hx

theorem Unsigned.mul {x y : Binary64} (hx : Unsigned x) (hy : Positive y) : Unsigned (x * y) := by
  rcases hx with rfl | hx
  · exact Or.inl rfl
  · exact Or.inr (hx.mul hy)

theorem Unsigned.round {x : Binary64} (hx : Unsigned x) : Unsigned x.round := by
  rcases hx with rfl | hx
  · exact Or.inl rfl
  · exact Or.inr hx.round

theorem NonNegative.unsigned_mul {x y : Binary64} (hx : NonNegative x) (hy : NonNegative y) :
    Unsigned (x * y) := by
  have hzero : ∀ u : Nat, Unsigned (if u = 0 then .nan else .infinite (false ^^ false)) := by
    intro u
    split
    · exact Or.inl rfl
    · exact Or.inr rfl
  change Unsigned (Binary64.mul x y)
  cases x with
  | nan => exact hx.elim
  | infinite m =>
    cases hx
    cases y with
    | nan => exact hy.elim
    | infinite n => cases hy; exact Or.inr rfl
    | finite n v h => cases hy; exact hzero v
  | finite m u h =>
    cases hx
    cases y with
    | nan => exact hy.elim
    | infinite n => cases hy; exact hzero u
    | finite n v h => cases hy; exact Or.inr (nonNegative_ofQuotient _ _)

theorem NonNegative.unsigned_div {x y : Binary64} (hx : NonNegative x) (hy : NonNegative y) :
    Unsigned (x / y) := by
  change Unsigned (Binary64.div x y)
  cases x with
  | nan => exact hx.elim
  | infinite m =>
    cases hx
    cases y with
    | nan => exact hy.elim
    | infinite n => exact Or.inl rfl
    | finite n v h => cases hy; exact Or.inr rfl
  | finite m u h =>
    cases hx
    cases y with
    | nan => exact hy.elim
    | infinite n => cases hy; exact Or.inr (nonNegative_ofQuotient _ _)
    | finite n v h =>
      cases hy
      change Unsigned (if v ≠ 0 then _ else if u = 0 then _ else _)
      split
      · exact Or.inr (nonNegative_ofQuotient _ _)
      · split
        · exact Or.inl rfl
        · exact Or.inr rfl

end Binary64

open Binary64

/-! ## What an operation comes to -/

def Value.Unsigned (v : Value) : Prop := ∀ x ∈ v.quantity?, Binary64.Unsigned x

theorem applyRule_of_apply {op : Operator} {left right v : Value}
    (h : op.apply left right = .ok v) :
    applyRule left op right = .ok v ∧ v.isInRange = true := by
  unfold Operator.apply at h
  split at h
  next hrule =>
    split at h
    next hrange => cases h; exact ⟨hrule, hrange⟩
    next => cases h
  next => cases h

theorem unsigned_timeFor {d : Distance} {p : Pace} (hd : Binary64.NonNegative d.meters)
    (hp : Binary64.NonNegative p.secondsPerKilometer) : Binary64.Unsigned (timeFor d p) :=
  (hp.unsigned_mul (hd.div positive_kilometerMeters)).round

theorem unsigned_of_distanceIn {seconds : Binary64} {p : Pace} {v : Value}
    (h : distanceIn seconds p = .ok v) (hseconds : Binary64.NonNegative seconds)
    (hp : Binary64.NonNegative p.secondsPerKilometer) : v.Unsigned := by
  unfold distanceIn at h
  split at h
  · cases h
  · cases h
    rintro x hx
    cases hx
    exact (hseconds.unsigned_div hp).mul positive_kilometerMeters

theorem unsigned_of_paceFor {d : Distance} {seconds : Binary64} {v : Value}
    (h : paceFor d seconds = .ok v) (hd : Binary64.NonNegative d.meters)
    (hseconds : Binary64.NonNegative seconds) : v.Unsigned := by
  unfold paceFor at h
  split at h
  · cases h
  · cases h
    rintro x hx
    cases hx
    exact hseconds.unsigned_div (hd.div positive_kilometerMeters)

theorem unsigned_of_applyRule {op : Operator} {left right v : Value}
    (h : applyRule left op right = .ok v) (hleft : left.NonNegative) (hright : right.NonNegative) :
    v.Unsigned := by
  unfold applyRule at h
  split at h
  -- The rules that can fail come first, and then the times, products and sums.
  case h_1 => exact unsigned_of_distanceIn h (hright _ rfl) (hleft _ rfl)
  case h_2 => exact unsigned_of_distanceIn h (hleft _ rfl) (hright _ rfl)
  case h_6 => exact unsigned_of_paceFor h (hleft _ rfl) (hright _ rfl)
  case h_15 => cases h
  all_goals
    cases h
    rintro x hx
    cases hx
  case h_3 => exact unsigned_timeFor (hright _ rfl) (hleft _ rfl)
  case h_4 | h_5 => exact unsigned_timeFor (hleft _ rfl) (hright _ rfl)
  case h_8 | h_10 => exact NonNegative.unsigned_mul (hright _ rfl) (hleft _ rfl)
  case h_7 | h_9 | h_11 => exact NonNegative.unsigned_mul (hleft _ rfl) (hright _ rfl)
  case h_12 | h_13 | h_14 => exact Or.inr (NonNegative.add (hleft _ rfl) (hright _ rfl))

theorem nonNegative_of_apply {op : Operator} {left right v : Value}
    (h : op.apply left right = .ok v) (hleft : left.NonNegative) (hright : right.NonNegative) :
    v.NonNegative := by
  obtain ⟨hrule, hrange⟩ := applyRule_of_apply h
  rintro x hx
  have hfinite : x.isFinite = true := by
    rw [Value.isInRange, Option.mem_def.1 hx, Option.all_some] at hrange
    exact hrange
  exact (unsigned_of_applyRule hrule hleft hright x hx).nonNegative hfinite

/-! ## Why an operation fails -/

/-- The number that an operation divides by, if it divides. -/
def divisor? : Value → Operator → Value → Option Binary64
  | .pace p, .forWord, .duration _ => some p.secondsPerKilometer
  | .duration _, .atWord, .pace p => some p.secondsPerKilometer
  | .distance d, .inWord, .duration _ => some d.meters
  | _, _, _ => none

theorem distanceIn_eq_error {seconds : Binary64} {p : Pace} {failure : Failure}
    (h : distanceIn seconds p = .error failure) :
    failure = .divisionByZero ∧ p.secondsPerKilometer.isZero = true := by
  unfold distanceIn at h
  split at h
  next hzero => cases h; exact ⟨rfl, hzero⟩
  next => cases h

theorem paceFor_eq_error {d : Distance} {seconds : Binary64} {failure : Failure}
    (h : paceFor d seconds = .error failure) :
    failure = .divisionByZero ∧ d.meters.isZero = true := by
  unfold paceFor at h
  split at h
  next hzero => cases h; exact ⟨rfl, hzero⟩
  next => cases h

/-- A rule fails where it divides by zero, and otherwise there is no rule. -/
theorem failure_of_applyRule {op : Operator} {left right : Value} {failure : Failure}
    (h : applyRule left op right = .error failure) :
    (failure = .divisionByZero ∧ ∃ x, divisor? left op right = some x ∧ x.isZero = true) ∨
      failure = .unknownOperation := by
  unfold applyRule at h
  split at h
  case h_1 => exact Or.inl ⟨(distanceIn_eq_error h).1, _, rfl, (distanceIn_eq_error h).2⟩
  case h_2 => exact Or.inl ⟨(distanceIn_eq_error h).1, _, rfl, (distanceIn_eq_error h).2⟩
  case h_6 => exact Or.inl ⟨(paceFor_eq_error h).1, _, rfl, (paceFor_eq_error h).2⟩
  case h_15 => cases h; exact Or.inr rfl
  all_goals cases h

theorem applyRule_of_divisor {op : Operator} {left right : Value} {x : Binary64}
    (h : divisor? left op right = some x) (hx : x.isZero = true) :
    applyRule left op right = .error .divisionByZero := by
  unfold divisor? at h
  split at h
  · cases h
    exact if_pos hx
  · cases h
    exact if_pos hx
  · cases h
    exact if_pos hx
  · cases h

theorem Operator.apply_divisionByZero_iff {op : Operator} {left right : Value} :
    op.apply left right = .error .divisionByZero ↔
      ∃ x, divisor? left op right = some x ∧ x.isZero = true := by
  unfold Operator.apply
  constructor
  · intro h
    split at h
    next =>
      split at h <;> cases h
    next failure hrule =>
      cases h
      rcases failure_of_applyRule hrule with ⟨_, hzero⟩ | hunknown
      · exact hzero
      · cases hunknown
  · rintro ⟨x, hdivisor, hx⟩
    rw [applyRule_of_divisor hdivisor hx]

theorem Operator.apply_outOfRange_iff {op : Operator} {left right : Value} :
    op.apply left right = .error .outOfRange ↔
      ∃ v, applyRule left op right = .ok v ∧ v.isInRange = false := by
  unfold Operator.apply
  constructor
  · intro h
    split at h
    next v hrule =>
      split at h
      next => cases h
      next hrange => exact ⟨v, hrule, by simpa using hrange⟩
    next failure hrule =>
      cases h
      rcases failure_of_applyRule hrule with ⟨hzero, _⟩ | hunknown
      · cases hzero
      · cases hunknown
  · rintro ⟨v, hrule, hrange⟩
    rw [hrule]
    simp [hrange]

/-! ## The operations of an evaluation -/

/-- The evaluation of a list comes to this operation: it is the next one, or
is met after it. -/
inductive Meets (left : Value) (op : Operator) (right : Value) : List Value → Prop
  | next {parts before after : List Value} :
      nextOperator? parts = some ⟨before ++ [left], op, right :: after⟩ → Meets left op right parts
  | later {parts next : List Value} :
      reduceOnce parts = .ok next → Meets left op right next → Meets left op right parts

section Evaluation

variable {parts : List Value} {left right : Value} {op : Operator} {failure : Failure}

theorem ne_singleton_of_three (h : 3 ≤ parts.length) (v : Value) : parts ≠ [v] := by
  rintro rfl
  simp at h

/-- An operation takes three values. -/
theorem Meets.length_ge (h : Meets left op right parts) : 3 ≤ parts.length := by
  induction h with
  | next hnext =>
    have hlength := congrArg List.length (nextOperator?_append hnext)
    simp only [List.length_append, List.length_cons, List.length_nil] at hlength
    omega
  | later hstep _ ih =>
    have hlength := length_reduceOnce hstep
    omega

/-- The evaluation ends where an operation fails. -/
theorem Meets.reduce_eq_error (h : Meets left op right parts)
    (hfailure : op.apply left right = .error failure) : reduce parts = .error failure := by
  have hlone := ne_singleton_of_three h.length_ge
  induction h with
  | next hnext =>
    rw [reduce_of_reduceOnce hlone, reduceOnce_of_neighbours hnext, hfailure]
    rfl
  | later hstep hmeets ih =>
    rw [reduce_of_reduceOnce hlone, hstep]
    exact ih (ne_singleton_of_three hmeets.length_ge)

/-- An evaluation that fails has come to an operation that fails, or to a list
whose next operator lacks a neighbour. -/
theorem exists_meets_of_reduce (h : reduce parts = .error failure) :
    failure = .invalidOperation ∨
      ∃ left op right, Meets left op right parts ∧ op.apply left right = .error failure := by
  fun_induction reduce parts with
  | case1 v => cases h
  | case2 parts _ next hstep ih =>
    rcases ih h with hinvalid | ⟨left, op, right, hmeets, hfailure⟩
    · exact Or.inl hinvalid
    · exact Or.inr ⟨left, op, right, .later hstep hmeets, hfailure⟩
  | case3 parts _ other hstep =>
    cases h
    rcases reduceOnce_cases parts with ⟨_, hstop⟩ | ⟨_, _, _, _, _, hstop⟩ |
      ⟨before, left, op, right, after, hnext, hresult⟩
    · rw [hstop] at hstep
      cases hstep
      exact Or.inl rfl
    · rw [hstop] at hstep
      cases hstep
      exact Or.inl rfl
    · rw [hresult] at hstep
      cases happly : op.apply left right with
      | ok v => rw [happly] at hstep; cases hstep
      | error reason =>
        rw [happly] at hstep
        cases hstep
        exact Or.inr ⟨left, op, right, .next hnext, happly⟩

theorem Failure.message_injective {f g : Failure} (h : f.message = g.message) : f = g := by
  revert h
  cases f <;> cases g <;> decide

/-- An error that three values or more come to is the message of a failure. -/
theorem calculate_eq_error_iff (h : 3 ≤ parts.length) :
    calculate parts = some (.error failure.message) ↔ reduce parts = .error failure := by
  rw [calculate_of_length h]
  cases hreduce : reduce parts with
  | error other =>
    simp only [Value.ofOutcome, Option.some.injEq, Value.error.injEq, Except.error.injEq]
    exact ⟨Failure.message_injective, congrArg Failure.message⟩
  | ok v =>
    have hlone := ne_singleton_of_three h v
    obtain ⟨op, left, right, happly⟩ := exists_apply_of_reduce hreduce hlone
    have hkind := (usable_of_apply happly).2.2.2
    simp only [Value.ofOutcome, Option.some.injEq, reduceCtorEq, iff_false]
    rintro rfl
    exact absurd hkind (by simp [Value.kind, Kind.results])

/-- The failure of an operation is the answer exactly where the evaluation
comes to such an operation. -/
theorem calculate_eq_failure_iff (failure : Failure) (h : 3 ≤ parts.length)
    (hfailure : failure ≠ .invalidOperation) :
    calculate parts = some (.error failure.message) ↔
      ∃ left op right, Meets left op right parts ∧ op.apply left right = .error failure := by
  rw [calculate_eq_error_iff h]
  constructor
  · intro hreduce
    exact (exists_meets_of_reduce hreduce).resolve_left hfailure
  · rintro ⟨left, op, right, hmeets, happly⟩
    exact hmeets.reduce_eq_error happly

/-! ## Numbers along an evaluation -/

theorem nonNegative_of_reduceOnce {next : List Value} (h : reduceOnce parts = .ok next)
    (hparts : ∀ v ∈ parts, v.NonNegative) : ∀ v ∈ next, v.NonNegative := by
  obtain ⟨before, left, op, right, after, result, rfl, happly, rfl⟩ :=
    exists_apply_of_reduceOnce h
  intro v hv
  simp only [List.mem_append, List.mem_cons] at hv
  rcases hv with hv | rfl | hv
  · exact hparts v (by simp [hv])
  · exact nonNegative_of_apply happly (hparts left (by simp)) (hparts right (by simp))
  · exact hparts v (by simp [hv])

theorem nonNegative_of_reduce {v : Value} (h : reduce parts = .ok v)
    (hparts : ∀ w ∈ parts, w.NonNegative) : v.NonNegative := by
  fun_induction reduce parts with
  | case1 w =>
    cases h
    exact hparts v (by simp)
  | case2 parts _ next hstep ih => exact ih h (nonNegative_of_reduceOnce hstep hparts)
  | case3 => cases h

theorem exists_quantity_of_kind {v : Value} (h : v.kind ∈ Kind.results) :
    ∃ x, v.quantity? = some x := by
  cases v with
  | error message => exact absurd h (by simp [Value.kind, Kind.results])
  | operator op => exact absurd h (by simp [Value.kind, Kind.results])
  | _ => exact ⟨_, rfl⟩

/-- Fewer than three values have an answer where they are one pace. -/
theorem calculate_of_short {v : Value} (h : ¬ 3 ≤ parts.length) (hv : calculate parts = some v) :
    ∃ p, parts = [.pace p] ∧ v = .pace p.swapView := by
  unfold calculate at hv
  split at hv
  next p =>
    cases hv
    exact ⟨p, rfl, rfl⟩
  next =>
    rw [if_pos (by omega)] at hv
    cases hv

end Evaluation

/-! ## Calculations -/

namespace Calculation

variable {units : UnitSystem} {input : String}

/-- A part is a token, or the text that is left over, and that is no number. -/
theorem nonNegative_parts {v : Value} (hv : v ∈ (ofExpression units input).parts) :
    v.NonNegative := by
  obtain ⟨tokens, left, hslices⟩ := exists_slices units (withoutBlanks input.toList)
  rw [hslices.parts] at hv
  rcases List.mem_append.1 hv with hread | hleft
  · obtain ⟨token, htoken, rfl⟩ := List.mem_map.1 hread
    exact hslices.nonNegative token htoken
  · unfold leftover at hleft
    split at hleft
    · cases hleft
    · rw [List.mem_singleton.1 hleft]
      rintro x hx
      cases hx

/-- An answer is a number without a sign: that of the one pace, or a finite one
that three parts or more come to. -/
theorem exists_quantity (hok : (ofExpression units input).isOk = true) :
    ∃ v x, (ofExpression units input).result = some v ∧ v.quantity? = some x ∧ x.NonNegative ∧
      ((∃ p, (ofExpression units input).parts = [.pace p] ∧ x = p.secondsPerKilometer) ∨
        3 ≤ (ofExpression units input).parts.length ∧ x.isFinite = true) := by
  obtain ⟨v, hv, herror⟩ := exists_result hok
  have hcalculate := (readTokens_of_isOk hok).2.symm.trans hv
  have hparts : ∀ w ∈ (ofExpression units input).parts, w.NonNegative := fun _ => nonNegative_parts
  by_cases hlength : 3 ≤ (ofExpression units input).parts.length
  · rcases calculate_cases hcalculate herror with ⟨p, hpace, _⟩ | ⟨hreduce, _, _, _, happly⟩
    · exact absurd hpace (ne_singleton_of_three hlength _)
    · obtain ⟨x, hx⟩ := exists_quantity_of_kind (usable_of_apply happly).2.2.2
      have hrange := isInRange_of_apply happly
      rw [Value.isInRange, hx, Option.all_some] at hrange
      exact ⟨v, x, hv, hx, nonNegative_of_reduce hreduce hparts x hx, Or.inr ⟨hlength, hrange⟩⟩
  · obtain ⟨p, hpace, rfl⟩ := calculate_of_short hlength hcalculate
    have hp := hparts (.pace p) (by rw [hpace]; simp)
    exact ⟨_, _, hv, rfl, hp _ rfl, Or.inl ⟨p, hpace, rfl⟩⟩

end Calculation

/-! ## The laws -/

/-- An answer is a finite number, unless the expression is one pace and that is
infinite, as a speed of zero is; it is never NaN. Three values or more come to
"Result out of range" exactly where the evaluation comes to a quantity that is
not finite, and to "Division by zero" exactly where it comes to such a division. -/
theorem an_answer_is_finite_but_for_one_infinite_pace (units : UnitSystem) (input : String) :
    ((Calculation.ofExpression units input).isOk = true →
      ∃ v x, (Calculation.ofExpression units input).result = some v ∧ v.quantity? = some x ∧
        x ≠ .nan ∧
        (x.isFinite = false ↔
          ∃ view, (Calculation.ofExpression units input).parts =
            [.pace ⟨.infinite false, view⟩])) ∧
    ∀ parts : List Value, 3 ≤ parts.length →
      (calculate parts = some (.error "Result out of range") ↔
        ∃ left op right, Meets left op right parts ∧
          ∃ v, applyRule left op right = .ok v ∧ v.isInRange = false) ∧
      (calculate parts = some (.error "Division by zero") ↔
        ∃ left op right, Meets left op right parts ∧
          ∃ x, divisor? left op right = some x ∧ x.isZero = true) := by
  refine ⟨?_, ?_⟩
  · intro hok
    obtain ⟨v, x, hv, hx, hsign, hcases⟩ := Calculation.exists_quantity hok
    refine ⟨v, x, hv, hx, ?_, ?_⟩
    · rintro rfl
      exact hsign
    rcases hcases with ⟨⟨_, view⟩, hparts, rfl⟩ | ⟨hlength, hfinite⟩
    · rw [hparts]
      constructor
      · intro hinfinite
        obtain rfl : x = .infinite false := hsign.eq_infinite hinfinite
        exact ⟨view, rfl⟩
      · rintro ⟨other, hother⟩
        cases hother
        rfl
    · rw [hfinite]
      constructor
      · intro h
        cases h
      · rintro ⟨view, hparts⟩
        exact absurd hparts (ne_singleton_of_three hlength _)
  · intro parts hlength
    have hrange := calculate_eq_failure_iff .outOfRange hlength (by decide)
    have hzero := calculate_eq_failure_iff .divisionByZero hlength (by decide)
    simp only [Operator.apply_outOfRange_iff] at hrange
    simp only [Operator.apply_divisionByZero_iff] at hzero
    exact ⟨hrange, hzero⟩

theorem a_standstill_and_two_failures :
    (∃ v x, (Calculation.ofExpression .metric "0km/h").result = some v ∧ v.quantity? = some x ∧
      x.isFinite = false) ∧
    calculate [.constant 1e200, .operator .multiply, .constant 1e200] =
      some (.error "Result out of range") ∧
    calculate [.distance (.plain 0), .operator .inWord, .duration 1200] =
      some (.error "Division by zero") := by
  obtain ⟨hanswer, hfailures⟩ := an_answer_is_finite_but_for_one_infinite_pace .metric "0km/h"
  refine ⟨?_, ?_, ?_⟩
  · obtain ⟨v, x, hv, hx, _, hfinite⟩ := hanswer (by decide +kernel)
    exact ⟨v, x, hv, hx, hfinite.2 ⟨.speed, by decide +kernel⟩⟩
  · have hnext : nextOperator? [.constant 1e200, .operator .multiply, .constant 1e200] =
        some ⟨[] ++ [.constant 1e200], .multiply, [.constant 1e200]⟩ := rfl
    have hmeets := Meets.next hnext
    exact (hfailures _ hmeets.length_ge).1.2 ⟨_, _, _, hmeets, _, rfl, by decide +kernel⟩
  · have hnext : nextOperator? [.distance (.plain 0), .operator .inWord, .duration 1200] =
        some ⟨[] ++ [.distance (.plain 0)], .inWord, [.duration 1200]⟩ := rfl
    have hmeets := Meets.next hnext
    exact (hfailures _ hmeets.length_ge).2.2 ⟨_, _, _, hmeets, _, rfl, by decide +kernel⟩

/-- The swap of one pace makes no check. -/
theorem the_pace_of_a_standstill_is_infinite :
    (Calculation.ofExpression .metric "0km/h").isOk = true ∧
    (Calculation.ofExpression .metric "0km/h").result = some (.pace ⟨.infinite false, .pace⟩) ∧
    (Value.pace ⟨.infinite false, .pace⟩).isInRange = false := by
  refine ⟨?_, ?_, ?_⟩
  · decide +kernel
  · decide +kernel
  · rfl

/-- No number that is typed has a sign or is NaN, whatever it is written with,
and what three parts or more come to has none either, and is finite. -/
theorem nothing_typed_is_below_zero (units : UnitSystem) (input : String) :
    (∀ v ∈ (Calculation.ofExpression units input).parts, ∀ x, v.quantity? = some x →
      x.NonNegative) ∧
    (3 ≤ (Calculation.ofExpression units input).parts.length →
      ∀ v, (Calculation.ofExpression units input).result = some v → v.isError = false →
        ∃ x, v.quantity? = some x ∧ x.isFinite = true ∧ x.NonNegative) := by
  refine ⟨fun v hv x hx => Calculation.nonNegative_parts hv x hx, ?_⟩
  intro hlength v hv herror
  have hok : (Calculation.ofExpression units input).isOk = true := by
    unfold Calculation.isOk
    rw [hv, Option.any_some, herror]
    rfl
  obtain ⟨w, x, hw, hx, hsign, hcases⟩ := Calculation.exists_quantity hok
  obtain rfl : v = w := Option.some.inj (hv.symm.trans hw)
  rcases hcases with ⟨p, hparts, _⟩ | ⟨_, hfinite⟩
  · exact absurd hparts (ne_singleton_of_three hlength _)
  · exact ⟨x, hx, hfinite, hsign⟩

/-- Infinity among the parts, and nothing covered at a standstill. -/
theorem a_standstill_covers_nothing :
    Binary64.NonNegative (.infinite false) ∧
    (Calculation.ofExpression .metric "0km/h for 10min").result = some (.distance (.plain 0)) ∧
    ∃ x, (Value.distance (.plain 0)).quantity? = some x ∧ x.isFinite = true ∧ x.NonNegative := by
  have hread : Calculation.ofExpression .metric "0km/h for 10min" =
      ⟨[.pace ⟨.infinite false, .speed⟩, .operator .forWord, .duration 600],
        some (.distance (.plain 0))⟩ := by decide +kernel
  obtain ⟨hparts, hresult⟩ := nothing_typed_is_below_zero .metric "0km/h for 10min"
  rw [hread] at hparts hresult ⊢
  exact ⟨hparts (.pace ⟨.infinite false, .speed⟩) (by simp) _ rfl, rfl,
    hresult (Nat.le_refl 3) _ rfl rfl⟩

end Stride
