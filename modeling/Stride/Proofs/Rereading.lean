-- The text of a calculation, read again. Each part comes back as a value of
-- its kind, with two exceptions: a comma and the sign of infinity stand in no
-- token, and meters before `in` are read as minutes or miles.
import Stride.Proofs.Rendering
import Stride.Proofs.Results

namespace Stride

/-! ## The characters of tokens -/

/-- The characters that tokens are made of, but for the digits. -/
def tokenSigns : List Char :=
  [':', '.', '/', '*', '@', '+', '-', 'a', 'd', 'f', 'h', 'i', 'k', 'm', 'n', 'o', 'r', 's', 't',
    'y', 'H', 'M']

def InTokens (s : List Char) : Prop := ∀ c ∈ s, c.isDigit = true ∨ c ∈ tokenSigns

instance (s : List Char) : Decidable (InTokens s) :=
  List.decidableBAll (fun c : Char => c.isDigit = true ∨ c ∈ tokenSigns) s

theorem inTokens_append {s t : List Char} : InTokens (s ++ t) ↔ InTokens s ∧ InTokens t := by
  unfold InTokens
  simp only [List.mem_append, or_imp, forall_and]

theorem inTokens_cons {c : Char} {s : List Char} (hc : c ∈ tokenSigns) (hs : InTokens s) :
    InTokens (c :: s) := List.forall_mem_cons.2 ⟨Or.inr hc, hs⟩

theorem Digits.inTokens {d : List Char} (h : Digits d) : InTokens d := fun c hc => Or.inl (h.2 c hc)

theorem NumberText.inTokens {n : List Char} {x : Binary64} (h : NumberText n x) : InTokens n := by
  cases h with
  | whole hd => exact hd.inTokens
  | decimal hd hf => exact inTokens_append.2 ⟨hd.inTokens, inTokens_cons (by decide) hf.inTokens⟩

theorem PaceUnit.inTokens (u : PaceUnit) : InTokens u.symbol.toList := by cases u <;> decide
theorem SpeedUnit.inTokens (u : SpeedUnit) : InTokens u.symbol.toList := by cases u <;> decide
theorem LengthUnit.inTokens (u : LengthUnit) : InTokens u.symbol.toList := by cases u <;> decide
theorem TimeUnit.inTokens (u : TimeUnit) : InTokens u.symbol.toList := by cases u <;> decide
theorem Operator.inTokens (op : Operator) : InTokens op.symbol.toList := by cases op <;> decide

theorem Components.inTokens {run : Components} (h : ∀ c ∈ run, Digits c.1) : InTokens run.text := by
  induction run with
  | nil => intro c hc; cases hc
  | cons c run ih =>
    obtain ⟨d, unit⟩ := c
    rw [Components.text_first]
    have hrun := ih fun c hc => h c (List.mem_cons_of_mem _ hc)
    exact inTokens_append.2 ⟨(h (d, unit) (by simp)).inTokens,
      inTokens_append.2 ⟨unit.inTokens, hrun⟩⟩

/-- What a rule reads is made of these characters. -/
theorem Reads.exists_token {units : UnitSystem} {s rest : List Char} {v : Value}
    (h : Reads units s v rest) : ∃ t, s = t ++ rest ∧ InTokens t := by
  have hclock : ∀ {d e u : List Char}, Digits d → Digits e → InTokens u →
      InTokens (d ++ ':' :: (e ++ u)) := fun hd he hu =>
    inTokens_append.2 ⟨hd.inTokens, inTokens_cons (by decide) (inTokens_append.2 ⟨he.inTokens, hu⟩)⟩
  cases h with
  | operator op => exact ⟨_, rfl, op.inTokens⟩
  | @marathon c _ hc => exact ⟨[c], rfl, by rcases hc with rfl | rfl <;> decide⟩
  | @halfMarathon c d _ hc hd =>
    exact ⟨[c, d], rfl, by rcases hc with rfl | rfl <;> rcases hd with rfl | rfl <;> decide⟩
  | clockPace unit _ hd he => exact ⟨_, by simp, hclock hd he unit.inTokens⟩
  | clock unit _ hd he => exact ⟨_, by simp, hclock hd he unit.inTokens⟩
  | @barePace d e _ hd he =>
    exact ⟨d ++ ':' :: (e ++ []), by simp, hclock hd he (by simp [InTokens])⟩
  | @wholePace d unit _ hd =>
    exact ⟨d ++ unit.symbol.toList, by simp, inTokens_append.2 ⟨hd.inTokens, unit.inTokens⟩⟩
  | components _ hrun => exact ⟨_, rfl, Components.inTokens hrun.digits⟩
  | @speed n _ unit _ hn =>
    exact ⟨n ++ unit.symbol.toList, by simp, inTokens_append.2 ⟨hn.inTokens, unit.inTokens⟩⟩
  | @distance n _ unit _ hn =>
    exact ⟨n ++ unit.symbol.toList, by simp, inTokens_append.2 ⟨hn.inTokens, unit.inTokens⟩⟩
  | constant _ hn => exact ⟨_, rfl, hn.inTokens⟩

theorem Slices.inTokens {units : UnitSystem} {s left : List Char}
    {tokens : List (List Char × Value)} (h : Slices units s tokens left) :
    InTokens (sliceText tokens) := by
  induction h with
  | stop _ => intro c hc; cases hc
  | token _ hmatch _ ih =>
    obtain ⟨t, htext, ht⟩ := (reads_of_matchToken hmatch).exists_token
    unfold sliceText at ih ⊢
    rw [List.map_cons, List.flatten_cons, List.append_cancel_right htext]
    exact inTokens_append.2 ⟨ht, ih⟩

/-- A text that is read to its end is made of the characters of tokens, and no
value in it is negative or an error. -/
theorem readTokens_spec {units : UnitSystem} {s : List Char} {parts : List Value}
    (h : readTokens units s = (parts, [])) :
    InTokens s ∧ ∀ v ∈ parts, v.NonNegative ∧ v.isError = false := by
  obtain ⟨tokens, left, hslices⟩ := exists_slices units s
  have hread := hslices.readTokens.symm.trans h
  obtain ⟨rfl, rfl⟩ := Prod.mk.inj hread
  refine ⟨?_, ?_⟩
  · rw [hslices.text, List.append_nil]
    exact hslices.inTokens
  · intro v hv
    obtain ⟨token, htoken, rfl⟩ := List.mem_map.1 hv
    exact ⟨hslices.nonNegative token htoken, (hslices.values token htoken).2⟩

theorem InTokens.legible {s : List Char} (h : InTokens s) : Legible s where
  comma hmem := absurd (h _ hmem) (by decide)
  infinity hmem := absurd (h _ hmem) (by decide)

/-! ## Values before operators -/

/-- A length that is shown in meters stands directly before `in`. -/
def ShowsMetersBeforeIn (units : UnitSystem) (parts : List Value) : Prop :=
  ∃ v : Value, v.ShownInMeters units ∧ [v, .operator .inWord] <:+: parts

theorem showsMetersBeforeIn_cons {units : UnitSystem} {v : Value} {op : Operator}
    {rest : List Value} : ShowsMetersBeforeIn units (v :: .operator op :: rest) ↔
      (v.ShownInMeters units ∧ op = .inWord) ∨ ShowsMetersBeforeIn units rest := by
  constructor
  · rintro ⟨w, hw, hinfix⟩
    rcases List.infix_cons_iff.1 hinfix with hfirst | hinfix
    · simp only [List.cons_prefix_cons, List.nil_prefix, and_true, Value.operator.injEq] at hfirst
      obtain ⟨rfl, rfl⟩ := hfirst
      exact Or.inl ⟨hw, rfl⟩
    · rcases List.infix_cons_iff.1 hinfix with hsecond | hinfix
      · obtain ⟨_, meters, rfl, _⟩ := hw
        rw [List.cons_prefix_cons] at hsecond
        cases hsecond.1
      · exact Or.inr ⟨w, hw, hinfix⟩
  · rintro (⟨hv, rfl⟩ | ⟨w, hw, hinfix⟩)
    · exact ⟨v, hv, List.infix_cons_iff.2 (Or.inl (by simp))⟩
    · exact ⟨w, hw, List.infix_cons (List.infix_cons hinfix)⟩

theorem not_showsMetersBeforeIn_single {units : UnitSystem} {v : Value} :
    ¬ ShowsMetersBeforeIn units [v] := by
  rintro ⟨w, _, hinfix⟩
  have hlength := hinfix.length_le
  simp at hlength

theorem Value.isOperator_eq (v : Value) : v.isOperator = decide (v.kind = .operator) := by
  cases v with
  | pace p => rcases p with ⟨_, _ | _⟩ <;> rfl
  | distance d => cases d <;> rfl
  | _ => rfl

/-- An operand as it is written. -/
theorem Value.exists_operand {units : UnitSystem} {v : Value} (hoperator : v.isOperator = false)
    (hv : v.NonNegative) (herror : v.isError = false)
    (hlegible : Legible (v.render units).toList) :
    ∃ a : Operand units, a.text.toList = v.written units ∧ a.value.kind = v.kind ∧
      (InMeters a.text.toList ↔ v.ShownInMeters units) := by
  obtain ⟨w, hreads, hkind⟩ := exists_reads hv herror hlegible
  have hread : matchToken units (String.ofList (v.written units)).toList = some (w, []) := by
    rw [String.toList_ofList]
    exact matchToken_of_reads hreads
  have hplain : w.isOperator = false := by rw [isOperator_eq, hkind, ← isOperator_eq, hoperator]
  refine ⟨⟨_, w, hread, hplain⟩, String.toList_ofList, hkind, ?_⟩
  rw [String.toList_ofList]
  exact inMeters_written hv herror hlegible

theorem written_operator (units : UnitSystem) (op : Operator) :
    Value.written units (.operator op) = op.symbol.toList := by
  have hpieces : Value.pieces units (.operator op) = [⟨op.symbol, ""⟩] := rfl
  unfold Value.written
  rw [Value.render_of_piece hpieces, show "".toList = [] by decide, List.append_nil,
    op.solid.withoutBlanks]

/-- Values in turn, as they are written, are an alternation of texts. -/
theorem Alternates.exists_alternation {units : UnitSystem} {parts : List Value}
    (h : Alternates parts) (hparts : ∀ v ∈ parts, v.NonNegative ∧ v.isError = false ∧
      Legible (v.render units).toList) :
    ∃ e : Alternation units, e.texts.map String.toList = parts.map (Value.written units) ∧
      e.values.map Value.kind = parts.map Value.kind ∧
      (e.MetersBeforeIn ↔ ShowsMetersBeforeIn units parts) := by
  induction h with
  | @single v hv =>
    obtain ⟨hnonneg, herror, hlegible⟩ := hparts v (by simp)
    obtain ⟨a, htext, hkind, _⟩ := Value.exists_operand hv hnonneg herror hlegible
    refine ⟨⟨a, []⟩, ?_, ?_, ?_⟩
    · simp only [Alternation.texts_nil, List.map_cons, List.map_nil, htext]
    · simp only [Alternation.values_nil, List.map_cons, List.map_nil, hkind]
    · exact iff_of_false (Alternation.metersBeforeIn_nil a) not_showsMetersBeforeIn_single
  | @cons v op rest hv _ ih =>
    obtain ⟨hnonneg, herror, hlegible⟩ := hparts v (by simp)
    obtain ⟨a, htext, hkind, hmeters⟩ := Value.exists_operand hv hnonneg herror hlegible
    obtain ⟨⟨b, more⟩, htexts, hkinds, hmore⟩ := ih fun w hw => hparts w (by simp [hw])
    refine ⟨⟨a, (op, b) :: more⟩, ?_, ?_, ?_⟩
    · simp only [Alternation.texts_cons, List.map_cons, htext, htexts, written_operator]
    · simp only [Alternation.values_cons, List.map_cons, hkind, hkinds]
    · rw [Alternation.metersBeforeIn_cons, showsMetersBeforeIn_cons, hmeters, hmore]

/-- Values of the same kinds are read only where no `in` stands behind
meters. -/
theorem Alternation.not_metersBeforeIn_of_kinds {units : UnitSystem} (e : Alternation units)
    {parts : List Value} (h : readTokens units (e.texts.map String.toList).flatten = (parts, []))
    (hkinds : parts.map Value.kind = e.values.map Value.kind) : ¬ e.MetersBeforeIn := by
  obtain ⟨a, more⟩ := e
  induction more generalizing a parts with
  | nil => exact Alternation.metersBeforeIn_nil a
  | cons pair more ih =>
    obtain ⟨op, b⟩ := pair
    rw [Alternation.texts_cons] at h
    rw [Alternation.values_cons] at hkinds
    simp only [List.map_cons, List.flatten_cons] at h hkinds
    rw [Alternation.metersBeforeIn_cons]
    by_cases hmeters : InMeters a.text.toList ∧ op = .inWord
    · obtain ⟨⟨n, x, hn, htext⟩, rfl⟩ := hmeters
      have hread := a.read
      rw [htext, matchToken_meters units hn] at hread
      have hvalue : a.value = .distance (.plain x) :=
        (congrArg Prod.fst (Option.some.inj hread)).symm
      obtain ⟨v, more', rfl⟩ : ∃ v more', parts = v :: more' := by
        cases parts with
        | nil => cases hkinds
        | cons v more' => exact ⟨v, more', rfl⟩
      obtain ⟨y, rfl⟩ := Value.exists_plain_of_kind
        ((List.cons.inj hkinds).1.trans (congrArg Value.kind hvalue))
      rw [htext] at h
      exact absurd h (misread_meters units _ hn rfl more')
    · rw [Operand.readTokens op _ hmeters] at h
      obtain ⟨rfl, hleft⟩ := Prod.ext_iff.1 h
      simp only [List.map_cons, List.cons.injEq, true_and] at hkinds
      rw [or_iff_right hmeters]
      exact ih b (Prod.ext rfl hleft) hkinds

/-! ## Calculations as text -/

theorem withoutBlanks_spaced_texts (texts : List String) :
    withoutBlanks (" ".intercalate texts).toList =
      (texts.map fun text => withoutBlanks text.toList).flatten := by
  induction texts with
  | nil => rfl
  | cons text texts ih =>
    cases texts with
    | nil => simp
    | cons next texts =>
      have hblank : withoutBlanks " ".toList = [] := by decide
      rw [String.intercalate_cons_cons, String.toList_append, String.toList_append,
        withoutBlanks_append, withoutBlanks_append, hblank, ih, List.append_nil]
      rfl

theorem Calculation.withoutBlanks_toInput (units : UnitSystem) (c : Calculation) :
    withoutBlanks (c.toInput units).toList = (c.parts.map (Value.written units)).flatten := by
  unfold toInput
  rw [withoutBlanks_spaced_texts, List.map_map]
  rfl

/-- Nothing in the parts is an error exactly where the text is read to its
end. -/
theorem Calculation.readTokens_of_no_error {units : UnitSystem} {input : String}
    (h : ∀ v ∈ (ofExpression units input).parts, v.isError = false) :
    readTokens units (withoutBlanks input.toList) = ((ofExpression units input).parts, []) := by
  cases hread : readTokens units (withoutBlanks input.toList) with
  | mk parts left =>
    by_cases hleft : left = []
    · subst hleft
      rw [ofExpression_of_readTokens hread]
    · rw [ofExpression_of_left hread hleft] at h
      exact absurd (h (.error (String.ofList left)) (by simp)) (by simp [Value.isError])

theorem Calculation.legible_of_readTokens {units : UnitSystem} {c : Calculation}
    {parts : List Value}
    (h : readTokens units (withoutBlanks (c.toInput units).toList) = (parts, []))
    {v : Value} (hv : v ∈ c.parts) : Legible (v.render units).toList := by
  have htext := (readTokens_spec h).1
  rw [withoutBlanks_toInput] at htext
  have hpart : InTokens (v.written units) := fun char hchar =>
    htext char (List.mem_flatten.2 ⟨_, List.mem_map_of_mem hv, hchar⟩)
  have hkept : ∀ char, isBlank char = false → char ∈ (v.render units).toList →
      char ∈ v.written units := fun char hblank hmem =>
    List.mem_filter.2 ⟨hmem, by rw [hblank]; rfl⟩
  exact ⟨fun hmem => hpart.legible.comma (hkept _ (by decide) hmem),
    fun hmem => hpart.legible.infinity (hkept _ (by decide) hmem)⟩

/-! ## The law -/

section Again

variable {units : UnitSystem} {input : String}

/-- Where nothing in it is illegible, a successful calculation is written as an
alternation of texts. -/
theorem Calculation.exists_alternation (hok : (ofExpression units input).isOk = true)
    (hlegible : ∀ v ∈ (ofExpression units input).parts, Legible (v.render units).toList) :
    ∃ e : Alternation units,
      e.texts.map String.toList = (ofExpression units input).parts.map (Value.written units) ∧
      e.values.map Value.kind = (ofExpression units input).parts.map Value.kind ∧
      (e.MetersBeforeIn ↔ ShowsMetersBeforeIn units (ofExpression units input).parts) ∧
      withoutBlanks ((ofExpression units input).toInput units).toList =
        (e.texts.map String.toList).flatten := by
  have hparts := (readTokens_spec (readTokens_of_isOk hok).1).2
  obtain ⟨e, htexts, hkinds, hmeters⟩ := (alternates_of_isOk hok).exists_alternation
    fun v hv => ⟨(hparts v hv).1, (hparts v hv).2, hlegible v hv⟩
  exact ⟨e, htexts, hkinds, hmeters, by rw [withoutBlanks_toInput, htexts]⟩

/-- Where no meters are shown before `in` either, that alternation is what is
read. -/
theorem Calculation.exists_values (hok : (ofExpression units input).isOk = true)
    (hlegible : ∀ v ∈ (ofExpression units input).parts, Legible (v.render units).toList)
    (hshown : ¬ ShowsMetersBeforeIn units (ofExpression units input).parts) :
    ∃ e : Alternation units,
      e.texts.map String.toList = (ofExpression units input).parts.map (Value.written units) ∧
      e.values.map Value.kind = (ofExpression units input).parts.map Value.kind ∧
      (ofExpression units ((ofExpression units input).toInput units)).parts = e.values := by
  obtain ⟨e, htexts, hkinds, hmeters, htext⟩ := exists_alternation hok hlegible
  have hread := e.readTokens_iff.2 (mt hmeters.1 hshown)
  rw [← htext] at hread
  exact ⟨e, htexts, hkinds, congrArg parts (ofExpression_of_readTokens hread)⟩

/-- Texts of words are read as the words' values. -/
theorem Alternation.map_matchToken_texts (e : Alternation units) :
    (e.texts.map String.toList).map (matchToken units) = e.values.map fun w => some (w, []) := by
  unfold Alternation.texts Alternation.values
  rw [List.map_map, List.map_map, List.map_map]
  exact List.map_congr_left fun word hword => e.matchToken_word hword

end Again

/-- The text of a successful calculation is read as parts of the same kinds,
none of them an error, exactly where no part is shown with a comma or the sign
of infinity, and no length in meters directly before `in`. Each part is then
the value that its own text has. -/
theorem a_calculation_is_read_again_by_its_kinds (units : UnitSystem) (input : String)
    (hok : (Calculation.ofExpression units input).isOk = true) :
    let c := Calculation.ofExpression units input
    let again := Calculation.ofExpression units (c.toInput units)
    ((∀ v ∈ again.parts, v.isError = false) ∧ again.parts.map Value.kind = c.parts.map Value.kind ↔
      (∀ v ∈ c.parts, Legible (v.render units).toList) ∧ ¬ ShowsMetersBeforeIn units c.parts) ∧
    ((∀ v ∈ c.parts, Legible (v.render units).toList) → ¬ ShowsMetersBeforeIn units c.parts →
      again.parts.map (fun w => some (w, [])) =
        c.parts.map fun v => matchToken units (v.written units)) := by
  intro c again
  refine ⟨⟨?_, ?_⟩, ?_⟩
  · rintro ⟨hnone, hkinds⟩
    have hread := Calculation.readTokens_of_no_error hnone
    have hlegible : ∀ v ∈ c.parts, Legible (v.render units).toList :=
      fun v hv => Calculation.legible_of_readTokens hread hv
    obtain ⟨e, _, hvalues, hmeters, htext⟩ := Calculation.exists_alternation hok hlegible
    rw [htext] at hread
    exact ⟨hlegible, fun hshown =>
      e.not_metersBeforeIn_of_kinds hread (hkinds.trans hvalues.symm) (hmeters.2 hshown)⟩
  · rintro ⟨hlegible, hshown⟩
    obtain ⟨e, _, hkinds, hagain⟩ := Calculation.exists_values hok hlegible hshown
    exact ⟨fun v hv => e.not_error_of_values (hagain ▸ hv), by rw [hagain, hkinds]⟩
  · intro hlegible hshown
    obtain ⟨e, htexts, _, hagain⟩ := Calculation.exists_values hok hlegible hshown
    rw [hagain, ← e.map_matchToken_texts, htexts, List.map_map]
    rfl

/-- `90min at 5:00` is shown as `1h 30min at 5:00min/km`, with a blank inside
the time. -/
theorem ninety_minutes_are_read_again :
    Calculation.toInput .metric (Calculation.ofExpression .metric "90min at 5:00") =
        "1h 30min at 5:00min/km" ∧
      (Calculation.ofExpression .metric "1h 30min at 5:00min/km").parts.map Value.kind =
        [.duration, .operator, .pace] := by
  have hread : Calculation.ofExpression .metric "90min at 5:00" =
      ⟨[.duration 5400, .operator .atWord, .pace ⟨300, .pace⟩],
        some (.distance (.plain 18000))⟩ := by decide +kernel
  have hinput : Calculation.toInput .metric (Calculation.ofExpression .metric "90min at 5:00") =
      "1h 30min at 5:00min/km" := by decide +kernel
  have hagain := (a_calculation_is_read_again_by_its_kinds .metric "90min at 5:00"
    (by rw [hread]; rfl)).1
  rw [hinput, hread] at hagain
  refine ⟨hinput, (hagain.2 ⟨?_, ?_⟩).2⟩
  · intro v hv
    simp only [List.mem_cons, List.not_mem_nil, or_false] at hv
    rcases hv with rfl | rfl | rfl <;> exact ⟨by decide +kernel, by decide +kernel⟩
  · rintro ⟨v, _, hinfix⟩
    have hmem : Value.operator .inWord ∈ _ :=
      hinfix.subset (List.mem_cons_of_mem _ List.mem_cons_self)
    revert hmem
    decide +kernel

/-- A thousand kilometers are shown with a comma, and what is left of them when
that is read is an error. Four hundred meters go together with the `in` behind
them. -/
theorem commas_and_meters_are_not_read_again :
    (Calculation.ofExpression .metric "2 * 1000km").isOk = true ∧
      Calculation.toInput .metric (Calculation.ofExpression .metric "2 * 1000km") = "2 * 1,000km" ∧
      (Calculation.ofExpression .metric "2 * 1,000km").parts =
        [.constant 2, .operator .multiply, .error "1,000km"] ∧
    (Calculation.ofExpression .metric "0.4km in 2min").isOk = true ∧
      Calculation.toInput .metric (Calculation.ofExpression .metric "0.4km in 2min") =
        "400m in 2min" ∧
      (Calculation.ofExpression .metric "400m in 2min").parts =
        [.duration 24000, .duration 120] := by
  decide +kernel

end Stride
