-- Evaluation in three passes. `reduce` looks through the whole list again
-- after each operation. Here it comes to the same as three walks from left
-- to right, one for each class of operators, down to the failure that ends
-- it. The loop by places reads no place outside its list.
import Stride.Evaluation

namespace Stride

/-! ## The three passes -/

/-- One walk over a list. `kept` is what lies behind, the last value first.
An operator that is wanted takes the last value and the next one, and its
result is kept in their place. -/
def sweep (wanted : Operator → Bool) : List Value → List Value → Except Failure (List Value)
  | kept, [] => .ok kept.reverse
  | kept, v :: rest =>
    match v.operator? with
    | none => sweep wanted (v :: kept) rest
    | some op =>
      if wanted op then
        match kept, rest with
        | left :: kept, right :: rest =>
          match op.apply left right with
          | .ok result => sweep wanted (result :: kept) rest
          | .error failure => .error failure
        | _, _ => .error .invalidOperation
      else sweep wanted (v :: kept) rest

/-- What is left after the last pass: one value, or nothing that counts. -/
def onlyValue : List Value → Except Failure Value
  | [v] => .ok v
  | _ => .error .invalidOperation

/-- The words, then `*`, then every operator that is left. -/
def passes (parts : List Value) : Except Failure Value := do
  let parts ← sweep Operator.isRelational [] parts
  let parts ← sweep (· == .multiply) [] parts
  let parts ← sweep (fun _ => true) [] parts
  onlyValue parts

/-! ## The loop by places -/

/-- The operators of a list, each with its place. -/
def operatorPlaces (parts : List Value) : List (Nat × Operator) :=
  parts.zipIdx.filterMap fun (v, i) => v.operator?.map (i, ·)

/-- The place of the next operator: the first word, else the first `*`, else
the first of all. -/
def nextPlace? (parts : List Value) : Option (Nat × Operator) :=
  ((operatorPlaces parts).find? (·.2.isRelational)).or
    (((operatorPlaces parts).find? (·.2 == .multiply)).or (operatorPlaces parts).head?)

/-- The loop ends with an outcome. Its values are read by place, each read
with the proof that the place is in the list: `i` and `i + 2` are the two
places next to the operator. -/
inductive SpliceLoop : List Value → Except Failure Value → Prop
  | single (v : Value) : SpliceLoop [v] (.ok v)
  | noOperator {parts : List Value} : parts.length ≠ 1 → nextPlace? parts = none →
      SpliceLoop parts (.error .invalidOperation)
  | noNeighbour {parts : List Value} {i : Nat} {op : Operator} : parts.length ≠ 1 →
      nextPlace? parts = some (i, op) → i = 0 ∨ parts.length ≤ i + 1 →
      SpliceLoop parts (.error .invalidOperation)
  | fail {parts : List Value} {i : Nat} {op : Operator} {failure : Failure}
      (hlt : i + 2 < parts.length) : nextPlace? parts = some (i + 1, op) →
      op.apply parts[i] parts[i + 2] = .error failure → SpliceLoop parts (.error failure)
  | splice {parts : List Value} {i : Nat} {op : Operator} {v : Value}
      {outcome : Except Failure Value} (hlt : i + 2 < parts.length) :
      nextPlace? parts = some (i + 1, op) → op.apply parts[i] parts[i + 2] = .ok v →
      SpliceLoop (parts.take i ++ v :: parts.drop (i + 3)) outcome → SpliceLoop parts outcome

/-! ## Results are no operators -/

theorem operator?_of_distanceIn {seconds : Binary64} {p : Pace} {v : Value}
    (h : distanceIn seconds p = .ok v) : v.operator? = none := by
  unfold distanceIn at h
  split at h <;> cases h
  rfl

theorem operator?_of_paceFor {d : Distance} {seconds : Binary64} {v : Value}
    (h : paceFor d seconds = .ok v) : v.operator? = none := by
  unfold paceFor at h
  split at h <;> cases h
  rfl

theorem operator?_of_applyRule {left right v : Value} {op : Operator}
    (h : applyRule left op right = .ok v) : v.operator? = none := by
  unfold applyRule at h
  split at h
  all_goals first
    | exact operator?_of_distanceIn h
    | exact operator?_of_paceFor h
    | cases h; rfl
    | cases h

theorem operator?_of_apply {left right v : Value} {op : Operator}
    (h : op.apply left right = .ok v) : v.operator? = none := by
  unfold Operator.apply at h
  split at h
  · rename_i w hw
    split at h
    · cases h
      exact operator?_of_applyRule hw
    · cases h
  · cases h

/-! ## Lists without the operators of a class -/

/-- No operator of the list is wanted. -/
def Clear (wanted : Operator → Bool) (parts : List Value) : Prop :=
  ∀ v ∈ parts, ∀ op, v.operator? = some op → wanted op = false

theorem Clear.append {wanted : Operator → Bool} {l m : List Value} (hl : Clear wanted l)
    (hm : Clear wanted m) : Clear wanted (l ++ m) := by
  intro v hv
  rcases List.mem_append.1 hv with hv | hv
  · exact hl v hv
  · exact hm v hv

theorem Clear.cons {wanted : Operator → Bool} {v : Value} {l : List Value}
    (hv : ∀ op, v.operator? = some op → wanted op = false) (hl : Clear wanted l) :
    Clear wanted (v :: l) := by
  intro w hw
  rcases List.mem_cons.1 hw with rfl | hw
  · exact hv
  · exact hl w hw

theorem Clear.of_subset {wanted : Operator → Bool} {l m : List Value} (hm : Clear wanted m)
    (h : l ⊆ m) : Clear wanted l := fun v hv => hm v (h hv)

theorem firstOperator?_of_clear {wanted : Operator → Bool} {l : List Value}
    (h : Clear wanted l) : firstOperator? wanted l = none := by
  induction l with
  | nil => rfl
  | cons v rest ih =>
    have hrest : firstOperator? wanted rest = none := ih (h.of_subset (List.subset_cons_self _ _))
    unfold firstOperator?
    split
    next op hop => simp [h v (by simp) op hop, hrest]
    next => simp [hrest]

theorem firstOperator?_append_cons {wanted : Operator → Bool} {l rest : List Value}
    {op : Operator} (h : Clear wanted l) (hop : wanted op = true) :
    firstOperator? wanted (l ++ .operator op :: rest) = some ⟨l, op, rest⟩ := by
  induction l with
  | nil => simp [firstOperator?, Value.operator?, hop]
  | cons v l ih =>
    have hl := ih (h.of_subset (List.subset_cons_self _ _))
    rw [List.cons_append, firstOperator?, hl]
    split
    next o ho => simp [h v (by simp) o ho]
    next => rfl

/-! ## One operation -/

/-- With nothing on one side, an operator ends the evaluation. -/
theorem reduceOnce_of_no_neighbour {parts before after : List Value} {op : Operator}
    (h : nextOperator? parts = some ⟨before, op, after⟩) (hend : before = [] ∨ after = []) :
    reduceOnce parts = .error .invalidOperation := by
  unfold reduceOnce
  rw [h]
  dsimp only
  rcases hend with rfl | rfl
  · rfl
  · cases before.getLast? <;> rfl

/-- With a value on each side, the operator and the two give way to what
they come to. -/
theorem reduceOnce_of_neighbours {parts before after : List Value} {left right : Value}
    {op : Operator} (h : nextOperator? parts = some ⟨before ++ [left], op, right :: after⟩) :
    reduceOnce parts = (op.apply left right).map (fun v => before ++ v :: after) := by
  unfold reduceOnce
  rw [h]
  simp only [List.getLast?_concat, List.dropLast_concat]
  cases op.apply left right <;> rfl

/-- What one operation can do: find no operator, find one at an end, or put
the result of one in the place of three. -/
theorem reduceOnce_cases (parts : List Value) :
    (nextOperator? parts = none ∧ reduceOnce parts = .error .invalidOperation) ∨
    (∃ before op after, nextOperator? parts = some ⟨before, op, after⟩ ∧
      (before = [] ∨ after = []) ∧ reduceOnce parts = .error .invalidOperation) ∨
    ∃ before left op right after,
      nextOperator? parts = some ⟨before ++ [left], op, right :: after⟩ ∧
      reduceOnce parts = (op.apply left right).map (fun v => before ++ v :: after) := by
  rcases hnext : nextOperator? parts with _ | ⟨before, op, after⟩
  · exact Or.inl ⟨rfl, by rw [reduceOnce, hnext]⟩
  · rcases List.eq_nil_or_concat before with rfl | ⟨before, left, rfl⟩
    · exact Or.inr (Or.inl ⟨[], op, after, rfl, Or.inl rfl,
        reduceOnce_of_no_neighbour hnext (Or.inl rfl)⟩)
    · rcases after with _ | ⟨right, after⟩
      · exact Or.inr (Or.inl ⟨_, op, [], rfl, Or.inr rfl,
          reduceOnce_of_no_neighbour hnext (Or.inr rfl)⟩)
      · rw [List.concat_eq_append] at hnext ⊢
        exact Or.inr (Or.inr ⟨before, left, op, right, after, rfl,
          reduceOnce_of_neighbours hnext⟩)

theorem reduce_of_reduceOnce {parts : List Value} (h : ∀ v, parts ≠ [v]) :
    reduce parts = reduceOnce parts >>= reduce := by
  rw [reduce.eq_def]
  split
  next v => exact absurd rfl (h v)
  next => split <;> rename_i hnext <;> rw [hnext] <;> rfl

/-! ## One pass -/

/-- The list is not one operator and nothing else. -/
def NotLone (parts : List Value) : Prop := ∀ op, parts ≠ [.operator op]

theorem eq_operator_of_operator? {v : Value} {op : Operator} (h : v.operator? = some op) :
    v = .operator op := by
  cases v <;> simp_all [Value.operator?]

/-- Where the classes before it are gone, a class is picked from the left. -/
def PicksFirst (gone wanted : Operator → Bool) : Prop :=
  ∀ before op after, Clear gone (before ++ .operator op :: after) → Clear wanted before →
    wanted op = true → nextOperator? (before ++ .operator op :: after) = some ⟨before, op, after⟩

theorem notLone_of_mem {v : Value} {parts : List Value} (hv : v ∈ parts)
    (hop : v.operator? = none) : NotLone parts := by
  rintro op rfl
  rw [List.mem_singleton.1 hv] at hop
  cases hop

theorem ne_singleton_of_two {α : Type} {l m : List α} (h : l ≠ [] ∨ m ≠ []) (x y : α) :
    l ++ x :: m ≠ [y] := by
  intro he
  have hlen := congrArg List.length he
  rcases h with h | h <;> have := List.length_pos_iff.2 h <;> simp at hlen <;> omega

/-- One pass does a first part of what the evaluation does. -/
theorem reduce_eq_sweep_bind {gone wanted : Operator → Bool} (hpick : PicksFirst gone wanted)
    (kept rest : List Value) (hgone : Clear gone (kept.reverse ++ rest)) (hkept : Clear wanted kept)
    (hlone : NotLone (kept.reverse ++ rest)) :
    reduce (kept.reverse ++ rest) = sweep wanted kept rest >>= reduce := by
  -- No wanted operator is behind, so the next one ahead is the one that is picked.
  fun_induction sweep wanted kept rest with
  | case1 kept => rw [List.append_nil]; rfl
  | case2 kept v rest hv ih =>
    have hlist : kept.reverse ++ v :: rest = (v :: kept).reverse ++ rest := by simp
    rw [hlist] at hgone hlone ⊢
    exact ih hgone (hkept.cons (by simp [hv])) hlone
  | case3 v op hop hw left kept right rest result happly ih =>
    have hv := eq_operator_of_operator? hop
    subst hv
    have hnone := operator?_of_apply happly
    have hnext := hpick _ op _ hgone (hkept.of_subset (by simp)) hw
    rw [List.reverse_cons] at hnext hgone ⊢
    rw [reduce_of_reduceOnce (ne_singleton_of_two (by simp) _), reduceOnce_of_neighbours hnext,
      happly]
    change reduce (kept.reverse ++ result :: rest) = _
    have hlist : kept.reverse ++ result :: rest = (result :: kept).reverse ++ rest := by simp
    rw [hlist]
    refine ih ?_ ?_ (notLone_of_mem (v := result) (by simp) hnone)
    · rw [← hlist]
      refine (hgone.of_subset (by simp)).append (.cons (by simp [hnone]) (hgone.of_subset ?_))
      intro w hw
      simp [hw]
    · exact .cons (by simp [hnone]) (hkept.of_subset (List.subset_cons_self _ _))
  | case4 v op hop hw left kept right rest failure happly =>
    have hv := eq_operator_of_operator? hop
    subst hv
    have hnext := hpick _ op _ hgone (hkept.of_subset (by simp)) hw
    rw [List.reverse_cons] at hnext ⊢
    rw [reduce_of_reduceOnce (ne_singleton_of_two (by simp) _), reduceOnce_of_neighbours hnext,
      happly]
    rfl
  | case5 kept v rest op hop hw h =>
    have hv := eq_operator_of_operator? hop
    subst hv
    have hnext := hpick _ op _ hgone (hkept.of_subset (by simp)) hw
    have hend : kept = [] ∨ rest = [] := by
      rcases kept with _ | ⟨left, kept⟩
      · exact Or.inl rfl
      · rcases rest with _ | ⟨right, rest⟩
        · exact Or.inr rfl
        · exact absurd rfl (h left kept right rest rfl)
    have hside : kept.reverse ≠ [] ∨ rest ≠ [] := by
      rcases kept with _ | ⟨left, kept⟩
      · exact Or.inr (by rintro rfl; exact hlone op rfl)
      · exact Or.inl (by simp)
    rw [reduce_of_reduceOnce (ne_singleton_of_two hside _),
      reduceOnce_of_no_neighbour hnext (by simpa using hend)]
  | case6 kept v rest op hop hw ih =>
    have hlist : kept.reverse ++ v :: rest = (v :: kept).reverse ++ rest := by simp
    rw [hlist] at hgone hlone ⊢
    refine ih hgone (hkept.cons ?_) hlone
    intro o ho
    rw [hop] at ho
    cases ho
    simpa using hw

theorem reduce_eq_sweep_bind_nil {gone wanted : Operator → Bool} {parts : List Value}
    (hpick : PicksFirst gone wanted) (hgone : Clear gone parts) (hlone : NotLone parts) :
    reduce parts = sweep wanted [] parts >>= reduce :=
  reduce_eq_sweep_bind hpick [] parts hgone (by simp [Clear]) hlone

/-- What a pass leaves is a result, was kept before, or was passed over. -/
theorem mem_of_sweep {wanted : Operator → Bool} {kept rest out : List Value} {v : Value}
    (h : sweep wanted kept rest = .ok out) (hv : v ∈ out) :
    v.operator? = none ∨ v ∈ kept ∨
      v ∈ rest ∧ ∀ op, v.operator? = some op → wanted op = false := by
  fun_induction sweep wanted kept rest with
  | case1 kept =>
    cases h
    exact Or.inr (Or.inl (List.mem_reverse.1 hv))
  | case2 kept w rest hw ih =>
    rcases ih h with hn | hk | ⟨hr, hop⟩
    · exact Or.inl hn
    · rcases List.mem_cons.1 hk with rfl | hk
      · exact Or.inl hw
      · exact Or.inr (Or.inl hk)
    · exact Or.inr (Or.inr ⟨List.mem_cons_of_mem _ hr, hop⟩)
  | case3 w op hop hw left kept right rest result happly ih =>
    rcases ih h with hn | hk | ⟨hr, hop⟩
    · exact Or.inl hn
    · rcases List.mem_cons.1 hk with rfl | hk
      · exact Or.inl (operator?_of_apply happly)
      · exact Or.inr (Or.inl (List.mem_cons_of_mem _ hk))
    · exact Or.inr (Or.inr ⟨by simp [hr], hop⟩)
  | case4 => cases h
  | case5 => cases h
  | case6 kept w rest op hop hw ih =>
    rcases ih h with hn | hk | ⟨hr, hop'⟩
    · exact Or.inl hn
    · rcases List.mem_cons.1 hk with rfl | hk
      · refine Or.inr (Or.inr ⟨by simp, fun o ho => ?_⟩)
        rw [hop] at ho
        cases ho
        simpa using hw
      · exact Or.inr (Or.inl hk)
    · exact Or.inr (Or.inr ⟨List.mem_cons_of_mem _ hr, hop'⟩)

theorem clear_of_sweep {wanted : Operator → Bool} {parts out : List Value}
    (h : sweep wanted [] parts = .ok out) : Clear wanted out := by
  intro v hv op hop
  rcases mem_of_sweep h hv with hn | hk | ⟨_, hw⟩
  · rw [hop] at hn
    cases hn
  · cases hk
  · exact hw op hop

/-- A pass brings no operator back. -/
theorem clear_gone_of_sweep {gone wanted : Operator → Bool} {parts out : List Value}
    (hgone : Clear gone parts) (h : sweep wanted [] parts = .ok out) : Clear gone out := by
  intro v hv op hop
  rcases mem_of_sweep h hv with hn | hk | ⟨hr, _⟩
  · rw [hop] at hn
    cases hn
  · cases hk
  · exact hgone v hr op hop

theorem notLone_of_sweep {wanted : Operator → Bool} {out : List Value} (kept rest : List Value)
    (hlone : NotLone (kept.reverse ++ rest)) (h : sweep wanted kept rest = .ok out) :
    NotLone out := by
  fun_induction sweep wanted kept rest with
  | case1 kept => cases h; simpa using hlone
  | case2 kept w rest hw ih => exact ih (by simpa using hlone) h
  | case3 w op hop hw left kept right rest result happly ih =>
    exact ih (notLone_of_mem (v := result) (by simp) (operator?_of_apply happly)) h
  | case4 => cases h
  | case5 => cases h
  | case6 kept w rest op hop hw ih => exact ih (by simpa using hlone) h

/-! ## The classes, one after the other -/

theorem picksFirst_relational : PicksFirst (fun _ => false) Operator.isRelational := by
  intro before op after _ hbefore hop
  unfold nextOperator?
  rw [firstOperator?_append_cons hbefore hop]
  rfl

theorem picksFirst_multiply : PicksFirst Operator.isRelational (· == .multiply) := by
  intro before op after hgone hbefore hop
  unfold nextOperator?
  rw [firstOperator?_of_clear hgone, firstOperator?_append_cons hbefore hop]
  rfl

theorem picksFirst_any :
    PicksFirst (fun op => op.isRelational || op == .multiply) (fun _ => true) := by
  intro before op after hgone hbefore hop
  have hrel : Clear Operator.isRelational (before ++ .operator op :: after) :=
    fun v hv o ho => (Bool.or_eq_false_iff.1 (hgone v hv o ho)).1
  have hmul : Clear (· == .multiply) (before ++ .operator op :: after) :=
    fun v hv o ho => (Bool.or_eq_false_iff.1 (hgone v hv o ho)).2
  unfold nextOperator?
  rw [firstOperator?_of_clear hrel, firstOperator?_of_clear hmul,
    firstOperator?_append_cons hbefore hop]
  rfl

/-- With no operator left, only one value alone is an answer. -/
theorem reduce_of_clear {parts : List Value} (h : Clear (fun _ => true) parts) :
    reduce parts = onlyValue parts := by
  have hclear : ∀ wanted, Clear wanted parts :=
    fun wanted v hv op hop => absurd (h v hv op hop) (by simp)
  have hnone : nextOperator? parts = none := by
    unfold nextOperator?
    simp only [firstOperator?_of_clear (hclear _), Option.or_none]
  unfold onlyValue
  split
  next v => rw [reduce.eq_def]
  next hone =>
    rw [reduce_of_reduceOnce hone, reduceOnce, hnone]
    rfl

/-- The loop comes to what the passes come to. -/
theorem reduce_eq_passes {parts : List Value} (hlone : NotLone parts) :
    reduce parts = passes parts := by
  unfold passes
  rw [reduce_eq_sweep_bind_nil picksFirst_relational (fun _ _ _ _ => rfl) hlone]
  rcases h1 : sweep Operator.isRelational [] parts with failure | first
  · rfl
  have hlone1 := notLone_of_sweep [] parts hlone h1
  have hrel := clear_of_sweep h1
  change reduce first = sweep (· == .multiply) [] first >>= fun parts =>
    sweep (fun _ => true) [] parts >>= onlyValue
  rw [reduce_eq_sweep_bind_nil picksFirst_multiply hrel hlone1]
  rcases h2 : sweep (· == .multiply) [] first with failure | second
  · rfl
  have hlone2 := notLone_of_sweep [] first hlone1 h2
  have hboth : Clear (fun op => op.isRelational || op == .multiply) second :=
    fun v hv op hop => Bool.or_eq_false_iff.2
      ⟨clear_gone_of_sweep hrel h2 v hv op hop, clear_of_sweep h2 v hv op hop⟩
  change reduce second = sweep (fun _ => true) [] second >>= onlyValue
  rw [reduce_eq_sweep_bind_nil picksFirst_any hboth hlone2]
  rcases h3 : sweep (fun _ => true) [] second with failure | third
  · rfl
  exact reduce_of_clear (clear_of_sweep h3)

/-! ## The loop stays inside its list -/

theorem find?_operatorPlaces (wanted : Operator → Bool) (parts : List Value) (k : Nat) :
    ((parts.zipIdx k).filterMap fun (v, i) => v.operator?.map (i, ·)).find? (wanted ·.2) =
      (firstOperator? wanted parts).map fun cut => (k + cut.before.length, cut.operator) := by
  induction parts generalizing k with
  | nil => rfl
  | cons v rest ih =>
    have hskip : ∀ o : Option Cut,
        o.map (fun cut => (k + 1 + cut.before.length, cut.operator)) =
          (o.map fun cut => { cut with before := v :: cut.before }).map
            fun cut => (k + cut.before.length, cut.operator) := by
      intro o
      rw [Option.map_map]
      congr 1
      funext cut
      simp only [Function.comp_apply, List.length_cons]
      congr 1
      omega
    rw [List.zipIdx_cons, List.filterMap_cons]
    unfold firstOperator?
    cases hop : v.operator? with
    | none => simp only [hop, Option.map_none, ih (k + 1), hskip]
    | some op =>
      by_cases hw : wanted op = true
      · simp [hop, hw]
      · simp only [hop, Option.map_some, List.find?_cons, hw, ih (k + 1), hskip]
        rfl

theorem nextPlace?_eq (parts : List Value) :
    nextPlace? parts =
      (nextOperator? parts).map fun cut => (cut.before.length, cut.operator) := by
  have hfind : ∀ wanted : Operator → Bool, (operatorPlaces parts).find? (wanted ·.2) =
      (firstOperator? wanted parts).map fun cut => (cut.before.length, cut.operator) := by
    intro wanted
    have h := find?_operatorPlaces wanted parts 0
    simp only [Nat.zero_add] at h
    exact h
  have hhead : (operatorPlaces parts).head? = (operatorPlaces parts).find? fun _ => true := by
    cases operatorPlaces parts <;> rfl
  unfold nextPlace? nextOperator?
  rw [hhead, hfind, hfind (· == .multiply), hfind fun _ => true]
  simp only [Option.map_or]

/-- Around an operator with a value on each side, the places next to it
hold the two values, and the three can be cut out. -/
theorem places_around {before after parts : List Value} {left right : Value} {op : Operator}
    (h : parts = before ++ left :: .operator op :: right :: after) :
    ∃ hlt : before.length + 2 < parts.length,
      parts[before.length] = left ∧ parts[before.length + 2] = right ∧
      ∀ v, parts.take before.length ++ v :: parts.drop (before.length + 3) =
        before ++ v :: after := by
  subst h
  refine ⟨?_, ?_, ?_, ?_⟩
  · simp only [List.length_append, List.length_cons]
    omega
  · simp
  · simp [List.getElem_append_right]
  · simp [List.drop_append]

/-- The loop by places ends on every list, with what `reduce` gives. -/
theorem spliceLoop_reduce (parts : List Value) : SpliceLoop parts (reduce parts) := by
  fun_induction reduce parts with
  | case1 v => exact .single v
  | case2 parts hone next hnext ih =>
    rcases reduceOnce_cases parts with ⟨_, he⟩ | ⟨_, _, _, _, _, he⟩ |
      ⟨before, left, op, right, after, hcut, he⟩
    all_goals rw [he] at hnext
    · cases hnext
    · cases hnext
    · obtain ⟨hlt, hleft, hright, hrest⟩ := places_around (by simpa using nextOperator?_append hcut)
      have hplace : nextPlace? parts = some (before.length + 1, op) := by
        simp [nextPlace?_eq, hcut]
      rcases happly : op.apply left right with failure | v
      · rw [happly] at hnext
        cases hnext
      · rw [happly] at hnext
        cases hnext
        refine .splice hlt hplace (by rw [hleft, hright, happly]) ?_
        rw [hrest]
        exact ih
  | case3 parts hone failure hnext =>
    have hlen : parts.length ≠ 1 := by
      intro h
      obtain ⟨v, rfl⟩ := List.length_eq_one_iff.1 h
      exact hone v rfl
    rcases reduceOnce_cases parts with ⟨hnone, he⟩ | ⟨before, op, after, hcut, hend, he⟩ |
      ⟨before, left, op, right, after, hcut, he⟩
    all_goals rw [he] at hnext
    · cases hnext
      exact .noOperator hlen (by rw [nextPlace?_eq, hnone]; rfl)
    · cases hnext
      refine .noNeighbour hlen (by rw [nextPlace?_eq, hcut]; rfl) ?_
      have hparts := congrArg List.length (nextOperator?_append hcut)
      rcases hend with rfl | rfl
      · exact Or.inl rfl
      · exact Or.inr (by simp at hparts ⊢; omega)
    · obtain ⟨hlt, hleft, hright, _⟩ := places_around (by simpa using nextOperator?_append hcut)
      have hplace : nextPlace? parts = some (before.length + 1, op) := by
        simp [nextPlace?_eq, hcut]
      rcases happly : op.apply left right with failure | v
      · rw [happly] at hnext
        cases hnext
        exact .fail hlt hplace (by rw [hleft, hright, happly])
      · rw [happly] at hnext
        cases hnext

/-! ## The law -/

/-- Of three tokens or more, however they are arranged, the three passes give
the answer, failures included. The loop that looks through the whole list
again after each operation ends with that answer and reads inside its list
alone. -/
theorem calculate_is_three_passes (parts : List Value) (h : 3 ≤ parts.length) :
    calculate parts = some (Value.ofOutcome (passes parts)) ∧ SpliceLoop parts (passes parts) := by
  have hlone : NotLone parts := by
    rintro op rfl
    simp at h
  have hcalc : calculate parts = some (Value.ofOutcome (reduce parts)) := by
    unfold calculate
    split
    · simp at h
    · rw [if_neg (by omega)]
  rw [← reduce_eq_passes hlone]
  exact ⟨hcalc, spliceLoop_reduce parts⟩

/-- `4:00 for 2min + 5:00 for 5min`: two words in the first pass, the sum in
the third. -/
def twoRuns : List Value :=
  [.pace ⟨240, .pace⟩, .operator .forWord, .duration 120, .operator .add,
    .pace ⟨300, .pace⟩, .operator .forWord, .duration 300]

theorem two_runs_in_three_passes :
    3 ≤ twoRuns.length ∧ Value.ofOutcome (passes twoRuns) = .distance (.plain 1500) ∧
      calculate twoRuns = some (.distance (.plain 1500)) ∧ SpliceLoop twoRuns (passes twoRuns) := by
  have hvalue : Value.ofOutcome (passes twoRuns) = .distance (.plain 1500) := by decide +kernel
  obtain ⟨hcalc, hloop⟩ := calculate_is_three_passes twoRuns (by decide)
  rw [hvalue] at hcalc
  exact ⟨by decide, hvalue, hcalc, hloop⟩

-- The word at the end is met before the doubled sign.
example : calculate [.distance (.plain 5000), .operator .add, .operator .add, .constant 3,
    .operator .inWord] = some (.error "Invalid operation") := by decide +kernel

end Stride
