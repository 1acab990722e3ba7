-- Names and views do not count in an evaluation. A speed is worked with as the
-- pace that it is and a race as its length, and no operation comes to a speed or
-- to a race. So each step does to a list what it does to the list without its
-- names and views, and the whole evaluation comes to the same.
import Mathlib.Data.List.Forall2
import Stride.Proofs.Operands

namespace Stride

/-! ## Values without names and views -/

/-- A speed as the pace that it is, and a race as its length. -/
def Value.plain : Value → Value
  | .pace p => .pace ⟨p.secondsPerKilometer, .pace⟩
  | .distance d => .distance (.plain d.meters)
  | v => v

def Cut.plain (cut : Cut) : Cut :=
  ⟨cut.before.map Value.plain, cut.operator, cut.after.map Value.plain⟩

@[simp]
theorem Value.operator?_plain (v : Value) : v.plain.operator? = v.operator? := by
  cases v <;> rfl

/-- What an operation can come to has neither a name nor a view to lose. -/
theorem Value.plain_of_kind {v : Value} (h : v.kind ∈ Kind.results) : v.plain = v := by
  cases v with
  | pace p =>
    obtain ⟨x, view⟩ := p
    cases view with
    | pace => rfl
    | speed => exact absurd h (by simp [kind, Kind.results])
  | distance d =>
    cases d with
    | plain meters => rfl
    | marathon => exact absurd h (by simp [kind, Kind.results])
    | halfMarathon => exact absurd h (by simp [kind, Kind.results])
  | _ => rfl

/-! ## Operations -/

theorem applyRule_plain (left : Value) (op : Operator) (right : Value) :
    applyRule left.plain op right.plain = applyRule left op right := by
  cases left <;> cases right <;> cases op <;> rfl

theorem Operator.apply_plain (op : Operator) (left right : Value) :
    op.apply left.plain right.plain = op.apply left right := by
  unfold Operator.apply
  rw [applyRule_plain]

theorem plain_of_apply {op : Operator} {left right v : Value}
    (h : op.apply left right = .ok v) : v.plain = v :=
  Value.plain_of_kind (usable_of_apply h).2.2.2

/-! ## One step -/

section Steps

variable (parts : List Value)

theorem firstOperator?_map_plain (wanted : Operator → Bool) :
    firstOperator? wanted (parts.map Value.plain) =
      (firstOperator? wanted parts).map Cut.plain := by
  induction parts with
  | nil => rfl
  | cons v rest ih =>
    rw [List.map_cons]
    unfold firstOperator?
    rw [Value.operator?_plain, ih]
    cases v.operator? with
    | none => cases firstOperator? wanted rest <;> rfl
    | some op =>
      by_cases hw : wanted op = true
      · simp [hw, Cut.plain]
      · simp only [hw]
        cases firstOperator? wanted rest <;> rfl

theorem nextOperator?_map_plain :
    nextOperator? (parts.map Value.plain) = (nextOperator? parts).map Cut.plain := by
  unfold nextOperator?
  simp only [firstOperator?_map_plain, Option.map_or]

/-- A step finds the same operator, and the same result or failure. -/
theorem reduceOnce_map_plain :
    reduceOnce (parts.map Value.plain) = (reduceOnce parts).map (List.map Value.plain) := by
  have hplain := nextOperator?_map_plain parts
  rcases reduceOnce_cases parts with ⟨hnext, hstep⟩ | ⟨before, op, after, hnext, hend, hstep⟩ |
    ⟨before, left, op, right, after, hnext, hstep⟩
  all_goals rw [hnext] at hplain; rw [hstep]
  · rw [reduceOnce, hplain]
    rfl
  · rw [reduceOnce_of_no_neighbour hplain (by simpa using hend)]
    rfl
  · have hcut : nextOperator? (parts.map Value.plain) = some ⟨before.map Value.plain ++
        [left.plain], op, right.plain :: after.map Value.plain⟩ := by
      rw [hplain]
      simp [Cut.plain]
    rw [reduceOnce_of_neighbours hcut, Operator.apply_plain]
    cases happly : op.apply left right with
    | error failure => rfl
    | ok v => simp [Except.map, plain_of_apply happly]

/-! ## The evaluation -/

theorem map_plain_ne_singleton (h : ∀ v, parts ≠ [v]) (v : Value) :
    parts.map Value.plain ≠ [v] := by
  intro hv
  obtain ⟨w, rfl, _⟩ := List.map_eq_singleton_iff.1 hv
  exact h w rfl

theorem reduce_map_plain : reduce (parts.map Value.plain) = (reduce parts).map Value.plain := by
  fun_induction reduce parts with
  | case1 v =>
    rw [List.map_cons, List.map_nil, reduce.eq_def]
    rfl
  | case2 parts hone next hnext ih =>
    rw [reduce_of_reduceOnce (map_plain_ne_singleton parts hone), reduceOnce_map_plain, hnext]
    exact ih
  | case3 parts hone failure hnext =>
    rw [reduce_of_reduceOnce (map_plain_ne_singleton parts hone), reduceOnce_map_plain, hnext]
    rfl

end Steps

/-- What three values or more come to is the result of some operation. -/
theorem calculate_map_plain {parts : List Value} (h : 3 ≤ parts.length) :
    calculate (parts.map Value.plain) = calculate parts := by
  rw [calculate_of_length (by simpa using h), calculate_of_length h, reduce_map_plain]
  cases hreduce : reduce parts with
  | error failure => rfl
  | ok v =>
    have hlone : parts ≠ [v] := by
      rintro rfl
      simp at h
    obtain ⟨op, left, right, happly⟩ := exists_apply_of_reduce hreduce hlone
    rw [Except.map, plain_of_apply happly]

/-! ## The law -/

/-- Two values that may stand for one another: a pace in either view, and a
length with or without the name of a race. -/
inductive Value.Alike : Value → Value → Prop
  | same (v : Value) : Alike v v
  | view (secondsPerKilometer : Binary64) (view other : PaceView) :
      Alike (.pace ⟨secondsPerKilometer, view⟩) (.pace ⟨secondsPerKilometer, other⟩)
  | length {d e : Distance} : d.meters = e.meters → Alike (.distance d) (.distance e)

theorem Value.Alike.plain_eq {v w : Value} (h : v.Alike w) : v.plain = w.plain := by
  cases h with
  | same _ => rfl
  | view _ _ _ => rfl
  | length hmeters => simp only [Value.plain, hmeters]

theorem map_plain_of_alike {parts others : List Value}
    (h : List.Forall₂ Value.Alike parts others) :
    parts.map Value.plain = others.map Value.plain := by
  induction h with
  | nil => rfl
  | cons hv _ ih => rw [List.map_cons, List.map_cons, hv.plain_eq, ih]

/-- Three values or more come to the same value or the same error, whichever of
them are shown as speeds or as paces, and whichever lengths have the name of a
race or none. -/
theorem names_and_views_do_not_count {parts others : List Value}
    (h : List.Forall₂ Value.Alike parts others) (hlength : 3 ≤ parts.length) :
    calculate parts = calculate others := by
  have hothers : 3 ≤ others.length := by
    have := h.length_eq
    omega
  calc calculate parts = calculate (parts.map Value.plain) := (calculate_map_plain hlength).symm
    _ = calculate (others.map Value.plain) := by rw [map_plain_of_alike h]
    _ = calculate others := calculate_map_plain hothers

/-- `15km/h for 20min + HM`, and `4:00 for 20min + 21.0975km`. -/
theorem a_speed_and_a_race_count_as_pace_and_length :
    let parts : List Value := [.pace ⟨240, .speed⟩, .operator .forWord, .duration 1200,
      .operator .add, .distance .halfMarathon]
    let others : List Value := [.pace ⟨240, .pace⟩, .operator .forWord, .duration 1200,
      .operator .add, .distance (.plain 21097.5)]
    List.Forall₂ Value.Alike parts others ∧ 3 ≤ parts.length ∧
      calculate parts = calculate others ∧
      calculate parts = some (.distance (.plain 26097.5)) := by
  intro parts others
  have hmeters : halfMarathonMeters = 21097.5 := by decide +kernel
  have halike : List.Forall₂ Value.Alike parts others :=
    .cons (.view _ _ _) (.cons (.same _) (.cons (.same _) (.cons (.same _)
      (.cons (.length hmeters) .nil))))
  have hlength : 3 ≤ parts.length := by simp [parts]
  exact ⟨halike, hlength, names_and_views_do_not_count halike hlength, by decide +kernel⟩

-- A pace alone is shown the other way, and there the view does count.
example : calculate [.pace ⟨240, .speed⟩] ≠ calculate [.pace ⟨240, .pace⟩] := by decide +kernel

end Stride
