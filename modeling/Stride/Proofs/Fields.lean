-- Taking a record from a document. What holds of a record and is kept by each
-- of its fields holds of what is read; and members that are written in the
-- order of the fields are read back.
import Stride.Json.Decode

namespace Stride.Json

/-! ## Lists and options -/

theorem decodeOption_of_ne_null {α : Type} (decode : Decoder α) {j : Json} (h : j ≠ .null) :
    decodeOption decode j = (decode j).map some := by
  cases j <;> first | rfl | exact absurd rfl h

theorem decodeOption_eq_ok {α : Type} {decode : Decoder α} {j : Json} {a : Option α}
    (h : decodeOption decode j = .ok a) : ∀ x ∈ a, decode j = .ok x := by
  unfold decodeOption at h
  split at h
  · cases h
    simp
  · rintro x rfl
    cases hj : decode j with
    | error problem => rw [hj] at h; cases h
    | ok y => rw [hj] at h; cases h; rfl

theorem map_eq_ok {α β : Type} {f : α → β} {outcome : Except Problem α} {b : β}
    (h : outcome.map f = .ok b) : ∃ a, outcome = .ok a ∧ f a = b := by
  cases outcome with
  | error problem => cases h
  | ok a => exact ⟨a, rfl, Except.ok.inj h⟩

theorem mapM_eq_ok {α β : Type} {decode : α → Except Problem β} {items : List α} {values : List β}
    (h : items.mapM decode = .ok values) : ∀ x ∈ values, ∃ j ∈ items, decode j = .ok x := by
  induction items generalizing values with
  | nil =>
    cases h
    simp
  | cons item items ih =>
    rw [List.mapM_cons] at h
    cases hitem : decode item with
    | error problem => rw [hitem] at h; cases h
    | ok y =>
      cases hitems : items.mapM decode with
      | error problem => rw [hitem, hitems] at h; cases h
      | ok ys =>
        rw [hitem, hitems] at h
        cases h
        rintro x (_ | ⟨_, hx⟩)
        · exact ⟨item, List.mem_cons_self, hitem⟩
        · obtain ⟨j, hj, hx⟩ := ih hitems x hx
          exact ⟨j, List.mem_cons_of_mem _ hj, hx⟩

/-- Every item of a list that is read was read. -/
theorem decodeList_eq_ok {α : Type} {decode : Decoder α} {j : Json} {values : List α}
    (h : decodeList decode j = .ok values) : ∀ x ∈ values, ∃ j', decode j' = .ok x := by
  unfold decodeList at h
  split at h
  next items =>
    intro x hx
    obtain ⟨j', _, hj'⟩ := mapM_eq_ok h x hx
    exact ⟨j', hj'⟩
  next => cases h

/-- Items that are written one by one are read one by one. -/
theorem decodeList_map {α β : Type} {decode : Decoder β} (write : α → Json) (kept : α → β)
    (h : ∀ a, decode (write a) = .ok (kept a)) (items : List α) :
    decodeList decode (.array (items.map write)) = .ok (items.map kept) := by
  show (items.map write).mapM decode = _
  induction items with
  | nil => rfl
  | cons a items ih =>
    rw [List.map_cons, List.mapM_cons, h, ih]
    rfl

namespace Field

variable {σ : Type}

/-! ## What every field keeps -/

section Invariant

variable {Good : σ → Prop} {fields : List (Field σ)}
  (hkeep : ∀ field ∈ fields, ∀ j r r', Good r → field.decode j r = .ok r' → Good r')
include hkeep

theorem decodeMembers_invariant {members : List (Option String × Json)} {r r' : σ}
    {seen seen' : List String} (hr : Good r)
    (h : decodeMembers fields members r seen = .ok (r', seen')) : Good r' := by
  fun_induction decodeMembers fields members r seen with
  | case1 => cases h; exact hr
  | case2 => cases h
  | case3 _ _ _ _ _ _ _ ih => exact ih hr h
  | case4 => cases h
  | case5 => cases h
  | case6 _ _ _ _ _ field hfield _ next hnext ih =>
    exact ih (hkeep field (List.mem_of_find?_eq_some hfield) _ _ _ hr hnext) h
  | case7 => cases h

theorem decodeItems_invariant {wanted : String} {count : Nat} {items : List Json} {r r' : σ}
    (hr : Good r) (h : decodeItems wanted fields count items r = .ok r') : Good r' := by
  fun_induction decodeItems wanted fields count items r with
  | case1 => cases h; exact hr
  | case2 => cases h
  | case3 => cases h
  | case4 _ _ _ _ _ ih => exact ih (fun field hfield => hkeep field (by simp [hfield])) hr h
  | case5 field _ _ _ _ _ next hnext ih =>
    exact ih (fun field hfield => hkeep field (by simp [hfield]))
      (hkeep field (by simp) _ _ _ hr hnext) h
  | case6 => cases h

theorem decodeRecord_invariant {name : String} {empty r : σ} {j : Json} (hempty : Good empty)
    (h : decodeRecord name fields empty j = .ok r) : Good r := by
  unfold decodeRecord at h
  split at h
  next members =>
    split at h
    next => cases h
    next hmembers =>
      split at h
      next => cases h
      next => cases h; exact decodeMembers_invariant hkeep hempty hmembers
  next items => exact decodeItems_invariant hkeep hempty h
  next => cases h

end Invariant

/-! ## Members in the order of the fields -/

/-- The members are those of the fields in their order, where fields that are
not required may be left out, and they make one record into the other. -/
inductive Written : List (Field σ) → List (String × Json) → σ → σ → Prop where
  | done (r : σ) : Written [] [] r r
  | leftOut {field : Field σ} {fields : List (Field σ)} {members : List (String × Json)} {r r' : σ}
    (hrequired : field.required = false) (h : Written fields members r r') :
    Written (field :: fields) members r r'
  | member {field : Field σ} {fields : List (Field σ)} {members : List (String × Json)}
    {value : Json} {r middle r' : σ} (hvalue : field.decode value r = .ok middle)
    (h : Written fields members middle r') :
    Written (field :: fields) ((field.name, value) :: members) r r'

/-- A member that is written only where there is a value. -/
theorem Written.optional {field : Field σ} {fields : List (Field σ)}
    {members : List (String × Json)} {r middle r' : σ} (value : Option Json)
    (hrequired : field.required = false) (hnone : value = none → middle = r)
    (hsome : ∀ j, value = some j → field.decode j r = .ok middle)
    (h : Written fields members middle r') :
    Written (field :: fields) (value.toList.map (fun j => (field.name, j)) ++ members) r r' := by
  cases value with
  | none => exact .leftOut hrequired (hnone rfl ▸ h)
  | some j => exact .member (hsome j rfl) h

/-- The first field of a name is the one that is found. -/
theorem find?_name {before after : List (Field σ)} {field : Field σ}
    (hnew : field.name ∉ before.map name) :
    (before ++ field :: after).find? (·.name == field.name) = some field := by
  rw [List.find?_append, List.find?_eq_none.2, Option.none_or, List.find?_cons_of_pos (by simp)]
  intro other hother
  have : other.name ≠ field.name := fun heq => hnew (heq ▸ List.mem_map_of_mem hother)
  simpa using this

/-- The members after the ones of the fields in `before`: they are read into
the record, and each field that is required was there. -/
theorem Written.decodeMembers {fields : List (Field σ)} {members : List (String × Json)}
    {r r' : σ} (h : Written fields members r r') (before : List (Field σ))
    (hnames : ((before ++ fields).map name).Nodup)
    {seen : List String} (hseen : seen ⊆ before.map name)
    (hrequired : ∀ field ∈ before, field.required = true → field.name ∈ seen) :
    ∃ seen', Field.decodeMembers (before ++ fields)
        (members.map fun (key, value) => (some key, value)) r seen = .ok (r', seen') ∧
      ∀ field ∈ before ++ fields, field.required = true → field.name ∈ seen' := by
  induction h generalizing before seen with
  | done => exact ⟨seen, rfl, by simpa using hrequired⟩
  | @leftOut field fields members r r' hoptional _ ih =>
    rw [List.append_cons] at hnames ⊢
    refine ih _ hnames (List.Subset.trans hseen (by simp)) ?_
    intro other hother hother'
    rcases List.mem_append.1 hother with hbefore | hlast
    · exact hrequired other hbefore hother'
    · rw [List.mem_singleton.1 hlast, hoptional] at hother'
      cases hother'
  | @member field fields members value r middle r' hvalue _ ih =>
    have hnew : field.name ∉ before.map name := by
      rw [List.map_append, List.map_cons] at hnames
      exact fun hmem => List.nodup_append.1 hnames |>.2.2 _ hmem _ List.mem_cons_self rfl
    have hunseen : seen.contains field.name = false := by
      simpa using fun hmem => hnew (hseen hmem)
    rw [List.map_cons, Field.decodeMembers]
    simp only [find?_name hnew, hunseen, hvalue, Bool.false_eq_true, if_false]
    rw [List.append_cons] at hnames ⊢
    refine ih _ hnames ?_ ?_
    · intro x hx
      rcases List.mem_cons.1 hx with rfl | hx
      · simp
      · exact List.mem_map.2 (by simpa using Or.inl (List.mem_map.1 (hseen hx)))
    · intro other hother hother'
      rcases List.mem_append.1 hother with hbefore | hlast
      · exact List.mem_cons_of_mem _ (hrequired other hbefore hother')
      · rw [List.mem_singleton.1 hlast]
        exact List.mem_cons_self

/-- A record that is written in the order of its fields is read back. -/
theorem Written.decodeRecord {fields : List (Field σ)} {members : List (String × Json)}
    {empty r : σ} (h : Written fields members empty r) (hnames : (fields.map name).Nodup)
    (wanted : String) : decodeRecord wanted fields empty (.ofFields members) = .ok r := by
  obtain ⟨seen, hmembers, hrequired⟩ :=
    h.decodeMembers [] hnames (List.Subset.refl []) (by simp)
  simp only [List.nil_append] at hmembers hrequired
  simp only [Json.ofFields, Field.decodeRecord, hmembers]
  rw [List.find?_eq_none.2]
  intro field hfield
  cases hneeded : field.required with
  | false => simp
  | true => simpa using hrequired field hfield hneeded

end Field

end Stride.Json
