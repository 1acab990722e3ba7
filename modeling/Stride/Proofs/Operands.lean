-- Which lists come to a value at all. Nothing looks at a list as a whole, but
-- each operation takes two operands and an operator that it has a rule for,
-- and what it puts in their place is an operand again. Read backwards, the
-- list was operands with such operators between them from the start.
import Stride.Proofs.Results

namespace Stride

/-! ## Rules -/

/-- The operators that there are rules for, so neither `@` nor `-`. -/
def Operator.ruled : List Operator := [.inWord, .forWord, .atWord, .multiply, .add]

/-- What an operation can come to: no speed and no race. -/
def Kind.results : List Kind := [.pace, .duration, .distance, .constant]

/-- What can stand in a list that comes to a value. -/
def Value.Usable : Value → Prop
  | .error _ => False
  | .operator op => op ∈ Operator.ruled
  | _ => True

theorem Value.Usable.isError {v : Value} (h : v.Usable) : v.isError = false := by
  cases v with
  | error message => exact absurd h id
  | _ => rfl

theorem kind_of_distanceIn {seconds : Binary64} {p : Pace} {v : Value}
    (h : distanceIn seconds p = .ok v) : v.kind = .distance := by
  unfold distanceIn at h
  split at h
  · cases h
  · cases h; rfl

theorem kind_of_paceFor {d : Distance} {seconds : Binary64} {v : Value}
    (h : paceFor d seconds = .ok v) : v.kind = .pace := by
  unfold paceFor at h
  split at h
  · cases h
  · cases h; rfl

theorem usable_of_applyRule {op : Operator} {left right v : Value}
    (h : applyRule left op right = .ok v) :
    left.Usable ∧ op ∈ Operator.ruled ∧ right.Usable ∧ v.kind ∈ Kind.results := by
  unfold applyRule at h
  split at h
  -- The three rules that can fail, and then those that cannot.
  case h_1 | h_2 => simp [Value.Usable, Operator.ruled, Kind.results, kind_of_distanceIn h]
  case h_6 => simp [Value.Usable, Operator.ruled, Kind.results, kind_of_paceFor h]
  case h_15 => cases h
  all_goals
    cases h
    simp [Value.Usable, Operator.ruled, Kind.results, Value.kind]

theorem usable_of_apply {op : Operator} {left right v : Value}
    (h : op.apply left right = .ok v) :
    left.Usable ∧ op ∈ Operator.ruled ∧ right.Usable ∧ v.kind ∈ Kind.results := by
  unfold Operator.apply at h
  split at h
  next w hw =>
    split at h
    · cases h
      exact usable_of_applyRule hw
    · cases h
  next => cases h

/-! ## Lists -/

/-- Each value of a list takes part in some operation. -/
theorem usable_of_reduce {parts : List Value} {v : Value} (h : reduce parts = .ok v)
    (hlone : parts ≠ [v]) : ∀ w ∈ parts, w.Usable := by
  fun_induction reduce parts with
  | case1 w => exact absurd (by rw [Except.ok.inj h]) hlone
  | case2 parts _ next hnext ih =>
    obtain ⟨before, left, op, right, after, result, rfl, happly, rfl⟩ :=
      exists_apply_of_reduceOnce hnext
    obtain ⟨hleft, hop, hright, _⟩ := usable_of_apply happly
    -- Behind the last operation there is nothing but its result.
    have hothers : ∀ w ∈ before ++ after, w.Usable := by
      intro w hw
      by_cases hlast : before ++ result :: after = [v]
      · have hempty : before ++ after = [] := by
          have hlength := congrArg List.length hlast
          simp only [List.length_append, List.length_cons, List.length_nil] at hlength
          apply List.eq_nil_of_length_eq_zero
          rw [List.length_append]
          omega
        rw [hempty] at hw
        cases hw
      · apply ih h hlast
        simp only [List.mem_append, List.mem_cons] at hw ⊢
        rcases hw with hw | hw
        · exact Or.inl hw
        · exact Or.inr (Or.inr hw)
    intro w hw
    simp only [List.mem_append, List.mem_cons] at hw
    rcases hw with hw | rfl | rfl | rfl | hw
    · exact hothers w (List.mem_append_left _ hw)
    · exact hleft
    · exact hop
    · exact hright
    · exact hothers w (List.mem_append_right _ hw)
  | case3 => cases h

theorem Alternates.length_odd {parts : List Value} (h : Alternates parts) :
    parts.length % 2 = 1 := by
  induction h with
  | single _ => rfl
  | cons op _ _ ih => simp only [List.length_cons]; omega

/-- Operands stand at the even places and operators at the odd ones. -/
theorem Alternates.getElem {parts : List Value} (h : Alternates parts) (i : Nat)
    (hi : i < parts.length) : (i % 2 = 0 → parts[i].isOperator = false) ∧
      (i % 2 = 1 → ∃ op, parts[i] = .operator op) := by
  induction h generalizing i with
  | single hv =>
    obtain rfl : i = 0 := by simpa using hi
    exact ⟨fun _ => hv, fun hodd => absurd hodd (by simp)⟩
  | @cons v op rest hv hrest ih =>
    rcases i with _ | _ | i
    · exact ⟨fun _ => hv, fun hodd => absurd hodd (by simp)⟩
    · exact ⟨fun heven => absurd heven (by simp), fun _ => ⟨op, rfl⟩⟩
    · obtain ⟨heven, hodd⟩ := ih i (by simpa using hi)
      exact ⟨fun h => heven (by omega), fun h => hodd (by omega)⟩

/-- Three values or more always come to something. -/
theorem calculate_of_length {parts : List Value} (h : 3 ≤ parts.length) :
    calculate parts = some (Value.ofOutcome (reduce parts)) := by
  unfold calculate
  split
  · simp at h
  · rw [if_neg (by omega)]

/-! ## The law -/

/-- Three values or more always come to something. Where that is no error, the
values are an odd number, first an operand and then operators and operands in
turn, none of the operands is an error, and each operator is one that there are
rules for. -/
theorem only_operands_in_turn_come_to_a_value {parts : List Value} (hlength : 3 ≤ parts.length) :
    ∃ v, calculate parts = some v ∧ (v.isError = false →
      parts.length % 2 = 1 ∧
      (∀ i (hi : i < parts.length), i % 2 = 0 →
        parts[i].isOperator = false ∧ parts[i].isError = false) ∧
      (∀ i (hi : i < parts.length), i % 2 = 1 →
        ∃ op ∈ [Operator.inWord, .forWord, .atWord, .multiply, .add], parts[i] = .operator op) ∧
      v.kind ∈ [Kind.pace, .duration, .distance, .constant]) := by
  obtain ⟨v, hv⟩ : ∃ v, calculate parts = some v := ⟨_, calculate_of_length hlength⟩
  refine ⟨v, hv, ?_⟩
  intro hok
  have hlone : ∀ w, parts ≠ [w] := by
    rintro w rfl
    simp at hlength
  rcases calculate_cases hv hok with ⟨p, hp, _⟩ | ⟨hreduce, op, left, right, happly⟩
  · exact absurd hp (hlone _)
  · have halternates := alternates_of_reduce hreduce (operands_of_apply happly).2.2
    have husable := usable_of_reduce hreduce (hlone v)
    refine ⟨halternates.length_odd, ?_, ?_, (usable_of_apply happly).2.2.2⟩
    · intro i hi heven
      exact ⟨(halternates.getElem i hi).1 heven, (husable _ (List.getElem_mem hi)).isError⟩
    · intro i hi hodd
      obtain ⟨other, hother⟩ := (halternates.getElem i hi).2 hodd
      have hruled := husable _ (List.getElem_mem hi)
      rw [hother] at hruled
      exact ⟨other, hruled, hother⟩

theorem ten_kilometers_and_a_race_stand_in_turn :
    let parts : List Value := [.distance (.plain 5000), .operator .multiply, .constant 2,
      .operator .add, .distance .halfMarathon]
    calculate parts = some (.distance (.plain 31097.5)) ∧ parts.length % 2 = 1 ∧
      (parts[4].isOperator = false ∧ parts[4].isError = false) ∧
      (∃ op ∈ [Operator.inWord, .forWord, .atWord, .multiply, .add], parts[3] = .operator op) ∧
      Kind.distance ∈ [Kind.pace, .duration, .distance, .constant] := by
  intro parts
  obtain ⟨v, hv, hturn⟩ := only_operands_in_turn_come_to_a_value
    (show 3 ≤ parts.length by simp [parts])
  have hsum : calculate parts = some (.distance (.plain 31097.5)) := by decide +kernel
  obtain rfl : v = .distance (.plain 31097.5) := Option.some.inj (hv.symm.trans hsum)
  obtain ⟨hlength, heven, hodd, hkind⟩ := hturn rfl
  exact ⟨hsum, hlength, heven 4 (by simp [parts]) rfl, hodd 3 (by simp [parts]) rfl, hkind⟩

end Stride
