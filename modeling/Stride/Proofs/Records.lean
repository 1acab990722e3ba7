-- Saved calculations as text. Every number that is read is finite, and a
-- calculation with finite numbers alone is read back as it was written. A
-- number that is not finite is lost: its field is missing afterwards.
import Stride.Proofs.Fields
import Stride.Proofs.JsonText
import Stride.Record

namespace Stride

/-! ## Numbers and strings -/

namespace Json

theorem writable_ofNat (n : Nat) : (ofNat n).Writable where
  whole := digits_toDigits n
  leading := by
    by_cases hn : n = 0
    · subst hn
      exact Or.inl rfl
    · exact Or.inr (head?_toDigits_ne_zero hn)
  fraction := by simp

theorem decodeByte_ofNat {n : Nat} (hn : n < 256) : decodeByte (ofNat n) = .ok n := by
  have hinteger : Number.toInteger? ⟨false, Nat.toDigits 10 n, [], none⟩ = some (n : Int) := by
    have hlimit : n < 1 <<< 64 := Nat.lt_trans hn (by decide)
    simp only [Number.toInteger?, Number.isWhole, Number.digits, List.append_nil,
      Nat.ofDigitChars_toDigits (b := 10) (by decide) (by decide)]
    rw [if_neg (by simp), if_neg (by simp), if_pos hlimit]
  simp only [ofNat, decodeByte, hinteger]
  rw [if_pos (by omega)]
  rfl

theorem writable_ofBinary64 (x : Binary64) : (ofBinary64 x).Writable := by
  unfold ofBinary64
  split
  next n h => exact (Number.ofBinary64?_spec h).1
  next => trivial

/-- A member that is written where there is a value for it. -/
theorem writable_of_optional {α : Type} {f : α → Json} {a : Option α} {name key : String} {j : Json}
    (hf : ∀ a, (f a).Writable) (h : (key, j) ∈ (a.map f).toList.map fun j => (name, j)) :
    j.Writable := by
  simp only [List.mem_map, Option.mem_toList, Option.map_eq_some_iff, Prod.mk.injEq] at h
  obtain ⟨_, ⟨a, _, rfl⟩, _, rfl⟩ := h
  exact hf a

/-- A finite number comes back; of any other there is nothing. -/
theorem decodeOption_ofBinary64 (x : Binary64) :
    decodeOption decodeBinary64 (ofBinary64 x) = .ok ((some x).filter Binary64.isFinite) := by
  unfold ofBinary64
  cases hx : x.isFinite with
  | false =>
    rw [Number.ofBinary64?_eq_none hx, Option.filter_some_neg (by simp [hx])]
    rfl
  | true =>
    obtain ⟨n, hn⟩ := Number.exists_ofBinary64? hx
    obtain ⟨_, hvalue⟩ := Number.ofBinary64?_spec hn
    rw [hn, Option.filter_some_pos hx]
    simp [decodeOption, decodeBinary64, isOutOfRange, hvalue, hx, Except.map]

theorem isFinite_of_decodeBinary64 {j : Json} {x : Binary64} (h : decodeBinary64 j = .ok x) :
    x.isFinite = true := by
  unfold decodeBinary64 at h
  split at h
  next n =>
    split at h
    next => cases h
    next hrange =>
      cases h
      simpa [isOutOfRange] using hrange
  next => cases h

namespace Field

variable {σ : Type} {fields : List (Field σ)} {members : List (String × Json)} {r r' : σ}

/-- A number that is written where there is one. -/
theorem Written.ofNumber (name : String) (set : Option Binary64 → σ → σ) (x : Option Binary64)
    (hunset : set none r = r) (h : Written fields members (set (x.filter Binary64.isFinite) r) r') :
    Written (⟨name, false, fun j r =>
        (decodeOption decodeBinary64 j).map fun x => set x r⟩ :: fields)
      ((x.map ofBinary64).toList.map (fun j => (name, j)) ++ members) r r' := by
  refine .optional _ rfl ?_ ?_ h
  · intro hnone
    rw [Option.map_eq_none_iff.1 hnone]
    exact hunset
  · intro j hj
    obtain ⟨y, rfl, rfl⟩ := Option.map_eq_some_iff.1 hj
    simp only [decodeOption_ofBinary64, Except.map]

/-- A string that is written where there is one. -/
theorem Written.ofString (name : String) (set : Option String → σ → σ) (x : Option String)
    (hunset : set none r = r) (h : Written fields members (set x r) r') :
    Written (⟨name, false, fun j r =>
        (decodeOption decodeString j).map fun x => set x r⟩ :: fields)
      ((x.map Json.text).toList.map (fun j => (name, j)) ++ members) r r' := by
  refine .optional _ rfl ?_ ?_ h
  · intro hnone
    rw [Option.map_eq_none_iff.1 hnone]
    exact hunset
  · intro j hj
    obtain ⟨y, rfl, rfl⟩ := Option.map_eq_some_iff.1 hj
    rfl

end Field

theorem exists_of_decodeText {α : Type} {decode : Decoder α} {text : String} {a : α}
    (h : decodeText decode text = .ok a) : ∃ j, decode j = .ok a := by
  unfold decodeText at h
  split at h
  split at h
  next => cases h
  next hdecode =>
    split at h
    next => cases h; exact ⟨_, hdecode⟩
    next => cases h

theorem isFinite_of_decodeOption {j : Json} {a : Option Binary64}
    (h : decodeOption decodeBinary64 j = .ok a) : ∀ x ∈ a, x.isFinite = true :=
  fun x hx => isFinite_of_decodeBinary64 (decodeOption_eq_ok h x hx)

end Json

theorem filter_of_all {α : Type} {p : α → Bool} {o : Option α} (h : ∀ a ∈ o, p a = true) :
    o.filter p = o := by
  cases o with
  | none => rfl
  | some a => exact Option.filter_some_pos (h a rfl)

/-! ## Values -/

namespace ValueRecord

/-- The record as a text keeps it: numbers that are not finite are left
out. -/
def kept (r : ValueRecord) : ValueRecord :=
  { r with
    meters := r.meters.filter Binary64.isFinite
    seconds := r.seconds.filter Binary64.isFinite
    secondsPerKilometer := r.secondsPerKilometer.filter Binary64.isFinite
    amount := r.amount.filter Binary64.isFinite }

/-- Every number in the record is finite, those included that its kind does
not use. -/
structure Finite (r : ValueRecord) : Prop where
  meters : ∀ x ∈ r.meters, x.isFinite = true
  seconds : ∀ x ∈ r.seconds, x.isFinite = true
  secondsPerKilometer : ∀ x ∈ r.secondsPerKilometer, x.isFinite = true
  amount : ∀ x ∈ r.amount, x.isFinite = true

theorem Finite.kept_eq {r : ValueRecord} (h : r.Finite) : r.kept = r := by
  unfold kept
  rw [filter_of_all h.meters, filter_of_all h.seconds, filter_of_all h.secondsPerKilometer,
    filter_of_all h.amount]

theorem finite_kept (r : ValueRecord) : r.kept.Finite := by
  constructor <;> exact fun x hx => (Option.mem_filter_iff.1 hx).2

theorem decodeKind_ofNat (k : Kind) : decodeKind (.ofNat k.tag) = .ok k := by
  have htag : k.tag < 256 := by cases k <;> decide
  unfold decodeKind
  simp only [Json.decodeByte_ofNat htag, Kind.ofTag?_tag]

/-- A record that is written is read back, but for numbers that are not
finite. -/
theorem decode_toJson (r : ValueRecord) : decode r.toJson = .ok r.kept := by
  have hkind : ∀ r' : ValueRecord, ((decodeKind (.ofNat r.kind.tag)).map
      fun x => { r' with kind := x }) = .ok { r' with kind := r.kind } := by
    intro r'
    rw [decodeKind_ofNat]
    rfl
  have hmembers : Json.Field.Written fields _ { kind := .error } r.kept :=
    .member (hkind _) <|
    .ofNumber "Meters" (fun x (r : ValueRecord) => { r with meters := x }) r.meters rfl <|
    .ofNumber "Seconds" (fun x (r : ValueRecord) => { r with seconds := x }) r.seconds rfl <|
    .ofNumber "SecondsPerKm" (fun x (r : ValueRecord) => { r with secondsPerKilometer := x })
      r.secondsPerKilometer rfl <|
    .ofNumber "Value" (fun x (r : ValueRecord) => { r with amount := x }) r.amount rfl <|
    .ofString "Operator" (fun x (r : ValueRecord) => { r with operator := x }) r.operator rfl <|
    .ofString "Message" (fun x (r : ValueRecord) => { r with message := x }) r.message rfl <|
    .done r.kept
  have hdecode := hmembers.decodeRecord (by decide) "struct PlainValue"
  rw [List.append_nil] at hdecode
  unfold toJson decode
  simpa only [List.cons_append, List.append_assoc] using hdecode

/-- Whatever a text holds, the numbers that are read are finite. -/
theorem finite_of_decode {j : Json} {r : ValueRecord} (h : decode j = .ok r) : r.Finite := by
  refine Json.Field.decodeRecord_invariant ?_ (by constructor <;> simp) h
  intro field hfield j r r' hr hr'
  simp only [fields, List.mem_cons, List.not_mem_nil, or_false] at hfield
  rcases hfield with rfl | rfl | rfl | rfl | rfl | rfl | rfl <;>
    obtain ⟨x, hx, rfl⟩ := Json.map_eq_ok hr'
  · exact ⟨hr.meters, hr.seconds, hr.secondsPerKilometer, hr.amount⟩
  · exact ⟨Json.isFinite_of_decodeOption hx, hr.seconds, hr.secondsPerKilometer, hr.amount⟩
  · exact ⟨hr.meters, Json.isFinite_of_decodeOption hx, hr.secondsPerKilometer, hr.amount⟩
  · exact ⟨hr.meters, hr.seconds, Json.isFinite_of_decodeOption hx, hr.amount⟩
  · exact ⟨hr.meters, hr.seconds, hr.secondsPerKilometer, Json.isFinite_of_decodeOption hx⟩
  · exact ⟨hr.meters, hr.seconds, hr.secondsPerKilometer, hr.amount⟩
  · exact ⟨hr.meters, hr.seconds, hr.secondsPerKilometer, hr.amount⟩

theorem writable_toJson (r : ValueRecord) : r.toJson.Writable := by
  refine Json.writable_ofFields ?_
  intro name j hmem
  simp only [List.mem_append, List.mem_cons, Prod.mk.injEq] at hmem
  rcases hmem with (((((⟨_, rfl⟩ | hmeters) | hseconds) | hpace) | hamount) | hoperator) | hmessage
  · exact Json.writable_ofNat _
  · exact Json.writable_of_optional Json.writable_ofBinary64 hmeters
  · exact Json.writable_of_optional Json.writable_ofBinary64 hseconds
  · exact Json.writable_of_optional Json.writable_ofBinary64 hpace
  · exact Json.writable_of_optional Json.writable_ofBinary64 hamount
  · exact Json.writable_of_optional (f := .text) (fun _ => rfl) hoperator
  · exact Json.writable_of_optional (f := .text) (fun _ => rfl) hmessage

/-- A value that is made of finite numbers is in range, as a race always is. -/
theorem Finite.isInRange_toValue {r : ValueRecord} (h : r.Finite) : r.toValue.isInRange = true := by
  have hquantity : ∀ (field : Option Binary64) (name : String) (build : Binary64 → Value),
      (∀ x ∈ field, x.isFinite = true) → (∀ x, (build x).quantity? = some x) →
      (field.elim (.error (missingMessage name r.kind)) build).isInRange = true := by
    intro field name build hfield hbuild
    cases field with
    | none => rfl
    | some x =>
      simp only [Value.isInRange, Option.elim_some, hbuild, Option.all_some]
      exact hfield x rfl
  unfold toValue
  split
  · exact hquantity _ _ _ h.secondsPerKilometer fun _ => rfl
  · exact hquantity _ _ _ h.secondsPerKilometer fun _ => rfl
  · exact hquantity _ _ _ h.seconds fun _ => rfl
  · exact hquantity _ _ _ h.meters fun _ => rfl
  · exact hquantity _ _ _ h.amount fun _ => rfl
  · decide +kernel
  · decide +kernel
  · split
    · rfl
    · split <;> rfl
  · rfl

end ValueRecord

theorem Value.toValue_toRecord (v : Value) : v.toRecord.toValue = v := by
  cases v with
  | error message => rfl
  | pace p => rcases p with ⟨x, _ | _⟩ <;> rfl
  | operator op =>
    simp only [Value.toRecord, Value.kind, ValueRecord.toValue, Operator.ofSymbol?_symbol]
  | duration seconds => rfl
  | distance d => cases d <;> rfl
  | constant amount => rfl

/-- A value in range has a record of finite numbers. -/
theorem Value.finite_toRecord {v : Value} (h : v.isInRange = true) : v.toRecord.Finite := by
  cases v <;> constructor <;> rintro x hx <;> cases hx <;> exact h

/-! ## Calculations -/

namespace CalculationRecord

/-- The record as a text keeps it. -/
def kept (r : CalculationRecord) : CalculationRecord :=
  ⟨r.parts.map ValueRecord.kept, r.result.map ValueRecord.kept⟩

/-- Every number in the record is finite. -/
def Finite (r : CalculationRecord) : Prop := ∀ v ∈ r.parts ++ r.result.toList, v.Finite

theorem Finite.kept_eq {r : CalculationRecord} (h : r.Finite) : r.kept = r := by
  have hparts : r.parts.map ValueRecord.kept = r.parts.map id :=
    List.map_congr_left fun v hv => (h v (List.mem_append_left _ hv)).kept_eq
  have hresult : r.result.map ValueRecord.kept = r.result.map id :=
    Option.map_congr fun v hv => (h v (List.mem_append_right _ (by simpa using hv))).kept_eq
  unfold kept
  rw [hparts, hresult, List.map_id, Option.map_id]
  rfl

theorem finite_kept (r : CalculationRecord) : r.kept.Finite := by
  intro v hv
  simp only [kept, List.mem_append, List.mem_map, Option.mem_toList, Option.map_eq_some_iff] at hv
  rcases hv with ⟨v, _, rfl⟩ | ⟨v, _, rfl⟩ <;> exact ValueRecord.finite_kept v

theorem decode_toJson (r : CalculationRecord) : decode r.toJson = .ok r.kept := by
  have hparts : ∀ r' : CalculationRecord, ((Json.decodeList ValueRecord.decode
      (.array (r.parts.map ValueRecord.toJson))).map fun x => { r' with parts := x }) =
      .ok { r' with parts := r.parts.map ValueRecord.kept } := by
    intro r'
    rw [Json.decodeList_map _ _ ValueRecord.decode_toJson]
    rfl
  have hresult : ∀ j, (r.result.map ValueRecord.toJson) = some j →
      ((Json.decodeOption ValueRecord.decode j).map fun x =>
        ({ parts := r.parts.map ValueRecord.kept, result := x } : CalculationRecord)) =
      .ok r.kept := by
    intro j hj
    obtain ⟨v, hv, rfl⟩ := Option.map_eq_some_iff.1 hj
    rw [Json.decodeOption_of_ne_null _ (by simp [ValueRecord.toJson, Json.ofFields]),
      ValueRecord.decode_toJson, kept, hv]
    rfl
  have hmembers : Json.Field.Written fields _ ⟨[], none⟩ r.kept :=
    .member (hparts _) (.optional (r.result.map ValueRecord.toJson) rfl
      (fun hnone => by rw [kept, Option.map_eq_none_iff.1 hnone]; rfl) hresult (.done _))
  have hdecode := hmembers.decodeRecord (by decide) "struct PlainCalculation"
  rw [List.append_nil] at hdecode
  unfold toJson decode
  rw [← hdecode]
  cases r.result <;> rfl

theorem finite_of_decode {j : Json} {r : CalculationRecord} (h : decode j = .ok r) : r.Finite := by
  refine Json.Field.decodeRecord_invariant ?_ (by simp [Finite]) h
  intro field hfield j r r' hr hr'
  simp only [fields, List.mem_cons, List.not_mem_nil, or_false] at hfield
  intro v hv
  rcases hfield with rfl | rfl <;> obtain ⟨x, hx, rfl⟩ := Json.map_eq_ok hr'
  · rcases List.mem_append.1 hv with hpart | hresult
    · obtain ⟨j', hj⟩ := Json.decodeList_eq_ok hx v hpart
      exact ValueRecord.finite_of_decode hj
    · exact hr v (List.mem_append_right _ hresult)
  · rcases List.mem_append.1 hv with hpart | hresult
    · exact hr v (List.mem_append_left _ hpart)
    · exact ValueRecord.finite_of_decode
        (Json.decodeOption_eq_ok hx v (Option.mem_toList.1 hresult))

theorem writable_toJson (r : CalculationRecord) : r.toJson.Writable := by
  refine Json.writable_ofFields ?_
  intro name j hmem
  simp only [List.mem_cons, List.mem_map, Option.mem_toList, Prod.mk.injEq] at hmem
  rcases hmem with ⟨_, rfl⟩ | ⟨v, _, _, rfl⟩
  · exact Json.writable_array_map fun v _ => v.writable_toJson
  · exact v.writable_toJson

end CalculationRecord

namespace Calculation

/-- Every quantity in the calculation is a finite number. -/
def Finite (c : Calculation) : Prop := ∀ v ∈ c.parts ++ c.result.toList, v.isInRange = true

theorem toCalculation_toRecord (c : Calculation) : c.toRecord.toCalculation = c := by
  have hid : ValueRecord.toValue ∘ Value.toRecord = id := funext Value.toValue_toRecord
  simp only [toRecord, CalculationRecord.toCalculation, List.map_map, Option.map_map, hid,
    List.map_id, Option.map_id, id_eq]

theorem Finite.toRecord {c : Calculation} (h : c.Finite) : c.toRecord.Finite := by
  intro v hv
  simp only [Calculation.toRecord, List.mem_append, List.mem_map, Option.mem_toList,
    Option.map_eq_some_iff] at hv
  rcases hv with ⟨w, hw, rfl⟩ | ⟨w, hw, rfl⟩
  · exact Value.finite_toRecord (h w (List.mem_append_left _ hw))
  · exact Value.finite_toRecord (h w (List.mem_append_right _ (Option.mem_toList.2 hw)))

theorem finite_toCalculation {r : CalculationRecord} (h : r.Finite) : r.toCalculation.Finite := by
  intro v hv
  simp only [CalculationRecord.toCalculation, List.mem_append, List.mem_map, Option.mem_toList,
    Option.map_eq_some_iff] at hv
  rcases hv with ⟨w, hw, rfl⟩ | ⟨w, hw, rfl⟩
  · exact (h w (List.mem_append_left _ hw)).isInRange_toValue
  · exact (h w (List.mem_append_right _ (Option.mem_toList.2 hw))).isInRange_toValue

/-- The text of any calculation can be read, whatever is lost in it. -/
theorem ofJsonText_toJsonText (c : Calculation) :
    ofJsonText c.toJsonText = .ok c.toRecord.kept.toCalculation := by
  have hread := Json.read_write Json.blank_compactLayout
    (CalculationRecord.writable_toJson c.toRecord)
  unfold ofJsonText toJsonText Json.decodeText Json.compact
  simp only [String.toList_ofList, hread, CalculationRecord.decode_toJson, if_true, Except.map]

theorem finite_of_ofJsonText {text : String} {c : Calculation} (h : ofJsonText text = .ok c) :
    c.Finite := by
  obtain ⟨r, hr, rfl⟩ := Json.map_eq_ok h
  obtain ⟨j, hj⟩ := Json.exists_of_decodeText hr
  exact finite_toCalculation (CalculationRecord.finite_of_decode hj)

end Calculation

/-- What is read from a text has finite quantities alone, and the calculations
of finite quantities are those whose text is read as themselves. So a text
that is read at all, whatever it holds besides, is written again as a text of
the same calculation, and that text stays as it is. -/
theorem finite_calculations_survive_as_text :
    (∀ text c, Calculation.ofJsonText text = .ok c → c.Finite) ∧
    (∀ c : Calculation, Calculation.ofJsonText c.toJsonText = .ok c ↔ c.Finite) ∧
    (∀ text c, Calculation.ofJsonText text = .ok c →
      Calculation.ofJsonText c.toJsonText = .ok c ∧
      (Calculation.ofJsonText c.toJsonText).map Calculation.toJsonText = .ok c.toJsonText) := by
  have hfinite : ∀ c : Calculation, c.Finite → Calculation.ofJsonText c.toJsonText = .ok c := by
    intro c h
    rw [Calculation.ofJsonText_toJsonText, h.toRecord.kept_eq, Calculation.toCalculation_toRecord]
  refine ⟨fun _ _ => Calculation.finite_of_ofJsonText, fun c => ⟨?_, hfinite c⟩, ?_⟩
  · exact Calculation.finite_of_ofJsonText
  · intro text c h
    have hsame := hfinite c (Calculation.finite_of_ofJsonText h)
    exact ⟨hsame, by rw [hsame]; rfl⟩

/-- A race with another length, an unknown operator, a field too many and a
zero with a sign. -/
theorem a_changed_text_is_kept_as_it_was_read :
    ∃ text c, Calculation.ofJsonText text = .ok c ∧
      c = ⟨[.distance .marathon, .error "Unknown operator '?'", .constant (.ofDecimal true 0 0)],
        none⟩ ∧
      c.Finite ∧ Calculation.ofJsonText c.toJsonText = .ok c ∧
      (Calculation.ofJsonText c.toJsonText).map Calculation.toJsonText = .ok c.toJsonText := by
  let text := "\x7b\"Parts\":[\x7b\"Type\":6,\"Meters\":1\x7d,"
    ++ "\x7b\"Operator\":\"?\",\"Type\":3\x7d,"
    ++ "\x7b\"Type\":8,\"Value\":-0.0\x7d],\"Result\":null,\"Note\":[]\x7d"
  obtain ⟨hread, hfinite, hsame⟩ := finite_calculations_survive_as_text
  have h : Calculation.ofJsonText text = .ok ⟨[.distance .marathon, .error "Unknown operator '?'",
      .constant (.ofDecimal true 0 0)], none⟩ := by decide +kernel
  exact ⟨text, _, h, rfl, hread _ _ h, (hfinite _).2 (hread _ _ h), (hsame _ _ h).2⟩

end Stride
