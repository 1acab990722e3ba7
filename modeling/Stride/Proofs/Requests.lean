-- The laws of the store: whatever its file held and whatever is asked of it,
-- it answers as a list of records does that is kept in two copies, as it is
-- now and as it was last saved. Opening a file that cannot be read loses the
-- first copy and leaves the second.
import Stride.Proofs.Records
import Stride.Listing
import Stride.Store

namespace Stride

/-! ## What a file keeps -/

namespace History

/-- The history as a file keeps it: numbers that are not finite are left
out, and nothing else. -/
def kept (h : History) : History := { h with records := h.records.map CalculationRecord.kept }

theorem decodeUnits_name (units : UnitSystem) : decodeUnits (.text units.name) = .ok units := by
  cases units <;> decide

theorem decode_toJson (h : History) : decode h.toJson = .ok h.kept := by
  have hunits : ∀ h' : History, ((decodeUnits (.text h.units.name)).map
      fun x => { h' with units := x }) = .ok { h' with units := h.units } := by
    intro h'
    rw [decodeUnits_name]
    rfl
  have hrecords : ∀ h' : History, ((Json.decodeList CalculationRecord.decode
      (.array (h.records.map CalculationRecord.toJson))).map fun x => { h' with records := x }) =
      .ok { h' with records := h.records.map CalculationRecord.kept } := by
    intro h'
    rw [Json.decodeList_map _ _ CalculationRecord.decode_toJson]
    rfl
  have hmembers : Json.Field.Written fields _ empty h.kept :=
    .member (hunits _) (.member (hrecords _) (.done _))
  exact hmembers.decodeRecord (by decide) "saved calculations"

theorem writable_toJson (h : History) : h.toJson.Writable := by
  refine Json.writable_ofFields ?_
  intro name j hmem
  simp only [List.mem_cons, Prod.mk.injEq, List.not_mem_nil, or_false] at hmem
  rcases hmem with ⟨_, rfl⟩ | ⟨_, rfl⟩
  · rfl
  · exact Json.writable_array_map fun r _ => r.writable_toJson

theorem fromUTF8?_toUTF8 (s : String) : String.fromUTF8? s.toUTF8 = some s :=
  dif_pos s.isValidUTF8

/-- A file that was written is never taken for one that cannot be read. -/
theorem ofContent_toContent (h : History) : ofContent h.toContent = h.kept := by
  have hread := Json.read_write Json.blank_prettyLayout h.writable_toJson
  unfold ofContent toContent
  rw [fromUTF8?_toUTF8]
  simp only [Json.decodeText, Json.pretty, String.toList_ofList, hread, decode_toJson, if_true]

end History

/-- A store is opened with what was saved, if the file can be read. -/
theorem Store.load_toContent (h : History) : (load (some h.toContent)).history = h.kept := by
  simp only [load, if_true, Option.map_some, Option.getD_some, History.ofContent_toContent]

/-! ## Requests -/

/-- What can be asked of a store. Reading the file and writing it can each
fail, and a file is written as a whole or not at all. -/
inductive Request where
  | reload (readable : Bool)
  | setUnits (units : UnitSystem)
  | push (c : Calculation)
  | remove (number : Nat)
  | save (path : String) (writable : Bool)

inductive Answer where
  | done
  | removed (c : Calculation)
  | refused (cause : Refusal)

/-- A request that is refused leaves the store as it is. -/
def Store.answer (s : Store) : Request → Answer × Store
  | .reload readable => (.done, s.reload readable)
  | .setUnits units => (.done, s.setUnits units)
  | .push c =>
    match s.push c with
    | .ok next => (.done, next)
    | .error cause => (.refused cause, s)
  | .remove number =>
    match s.remove number with
    | .ok (c, next) => (.removed c, next)
    | .error cause => (.refused cause, s)
  | .save path writable =>
    match s.save path writable with
    | .ok next => (.done, next)
    | .error cause => (.refused cause, s)

/-- The answers to requests one after the other, and the state behind them. -/
def serve {σ : Type} (answer : σ → Request → Answer × σ) (s : σ) : List Request → List Answer × σ
  | [] => ([], s)
  | request :: requests =>
    let (first, next) := answer s request
    let (answers, last) := serve answer next requests
    (first :: answers, last)

theorem serve_append {σ : Type} (answer : σ → Request → Answer × σ) (s : σ)
    (before after : List Request) : (serve answer s (before ++ after)).2 =
      (serve answer (serve answer s before).2 after).2 := by
  induction before generalizing s with
  | nil => rfl
  | cons request before ih => exact ih _

/-! ## The list machine -/

/-- A unit system and a list of records, as they are and as they were last
saved. -/
structure Ledger where
  units : UnitSystem
  records : List CalculationRecord
  savedUnits : UnitSystem
  savedRecords : List CalculationRecord

namespace Ledger

def answer (l : Ledger) : Request → Answer × Ledger
  | .reload readable =>
    if readable then (.done, { l with units := l.savedUnits, records := l.savedRecords })
    else (.done, { l with units := .metric, records := [] })
  | .setUnits units => (.done, { l with units })
  | .push c =>
    if c.isOk then (.done, { l with records := c.toRecord :: l.records })
    else (.refused .notSuccessful, l)
  | .remove number =>
    if h : 1 ≤ number ∧ number ≤ l.records.length then
      (.removed (l.records[number - 1].toCalculation),
        { l with records := l.records.take (number - 1) ++ l.records.drop number })
    else (.refused (.noSuchCalculation number), l)
  | .save path writable =>
    if writable then
      let savedRecords := l.records.map CalculationRecord.kept
      (.done, { l with savedUnits := l.units, savedRecords })
    else (.refused (.notWritten path), l)

end Ledger

/-- A store as a ledger: what was saved is what its file gives when it is
opened and can be read. -/
def Store.ledger (s : Store) : Ledger where
  units := s.history.units
  records := s.history.records
  savedUnits := s.reload.history.units
  savedRecords := s.reload.history.records

/-- A successful calculation is put first. -/
theorem Store.push_of_isOk (s : Store) {c : Calculation} (h : c.isOk = true) :
    s.push c =
      .ok { s with history := { s.history with records := c.toRecord :: s.history.records } } := by
  unfold Store.push History.push
  rw [if_pos h]
  rfl

theorem Store.push_of_not_isOk (s : Store) {c : Calculation} (h : ¬ c.isOk = true) :
    s.push c = .error .notSuccessful := by
  unfold Store.push History.push
  rw [if_neg h]
  rfl

/-- A calculation has a number from one on up to their count. -/
theorem History.remove_eq (h : History) (number : Nat) :
    h.remove number =
      if hnumber : 1 ≤ number ∧ number ≤ h.records.length then
        .ok (h.records[number - 1].toCalculation,
          { h with records := h.records.take (number - 1) ++ h.records.drop number })
      else .error (.noSuchCalculation number) := by
  cases number with
  | zero => rfl
  | succ index =>
    unfold History.remove
    by_cases hindex : index < h.records.length
    · rw [dif_pos ⟨by omega, hindex⟩]
      simp only [List.getElem?_eq_getElem hindex, List.eraseIdx_eq_take_drop_succ,
        Nat.add_sub_cancel]
    · rw [dif_neg (by omega)]
      simp only [List.getElem?_eq_none (Nat.not_lt.1 hindex)]

/-- One request changes a store as it changes a ledger. -/
theorem Store.answer_ledger (s : Store) (request : Request) :
    (s.ledger.answer request) = ((s.answer request).1, (s.answer request).2.ledger) := by
  cases request with
  | reload readable => cases readable <;> rfl
  | setUnits units => rfl
  | push c =>
    by_cases hok : c.isOk = true
    · simp only [Ledger.answer, Store.answer, s.push_of_isOk hok, if_pos hok]
      rfl
    · simp only [Ledger.answer, Store.answer, s.push_of_not_isOk hok, if_neg hok]
  | remove number =>
    have hremove := s.history.remove_eq number
    by_cases hnumber : 1 ≤ number ∧ number ≤ s.history.records.length
    · have hledger : s.ledger.answer (.remove number) = _ := dif_pos hnumber
      rw [dif_pos hnumber] at hremove
      simp only [hledger, Store.answer, Store.remove, hremove, Except.map]
      rfl
    · have hledger : s.ledger.answer (.remove number) = _ := dif_neg hnumber
      rw [dif_neg hnumber] at hremove
      simp only [hledger, Store.answer, Store.remove, hremove, Except.map]
  | save path writable =>
    cases writable with
    | true =>
      simp only [Store.answer, Store.save, Ledger.answer, Store.ledger, Store.reload, if_true,
        Store.load_toContent, History.kept]
    | false =>
      simp only [Store.answer, Store.save, Ledger.answer, if_false, Bool.false_eq_true]

/-- Any number of requests, by what one of them does. -/
theorem Store.serve_ledger (s : Store) (requests : List Request) :
    serve Ledger.answer s.ledger requests =
      ((serve Store.answer s requests).1, (serve Store.answer s requests).2.ledger) := by
  induction requests generalizing s with
  | nil => rfl
  | cons request requests ih => simp only [serve, Store.answer_ledger, ih]

/-! ## Opening and saving -/

/-- The ledger of a store that was just opened. -/
def Ledger.opened (h : History) : Ledger := ⟨h.units, h.records, h.units, h.records⟩

/-- The request brings the history into the file. -/
def Request.Saves : Request → Prop
  | .save _ writable => writable = true
  | _ => False

/-- Only saving changes what was saved. -/
theorem Ledger.saved_of_not_saves {requests : List Request} (h : ∀ r ∈ requests, ¬ r.Saves)
    (l : Ledger) : (serve Ledger.answer l requests).2.savedUnits = l.savedUnits ∧
      (serve Ledger.answer l requests).2.savedRecords = l.savedRecords := by
  induction requests generalizing l with
  | nil => exact ⟨rfl, rfl⟩
  | cons request requests ih =>
    have hstep : (l.answer request).2.savedUnits = l.savedUnits ∧
        (l.answer request).2.savedRecords = l.savedRecords := by
      cases request with
      | reload readable => cases readable <;> exact ⟨rfl, rfl⟩
      | setUnits units => exact ⟨rfl, rfl⟩
      | push c =>
        dsimp only [Ledger.answer]
        split <;> exact ⟨rfl, rfl⟩
      | remove number =>
        dsimp only [Ledger.answer]
        split <;> exact ⟨rfl, rfl⟩
      | save path writable =>
        have hnot : ¬ writable = true := h _ List.mem_cons_self
        dsimp only [Ledger.answer]
        rw [if_neg hnot]
        exact ⟨rfl, rfl⟩
    have hrest : ∀ r ∈ requests, ¬ r.Saves := fun r hr => h r (List.mem_cons_of_mem _ hr)
    obtain ⟨hunits, hrecords⟩ := ih hrest (l.answer request).2
    exact ⟨hunits.trans hstep.1, hrecords.trans hstep.2⟩

/-- Content that can be read is the text of a history, and all other content
counts as none. -/
theorem History.ofContent_cases (content : ByteArray) : History.ofContent content = .empty ∨
    ∃ text, content = text.toUTF8 ∧
      Json.decodeText History.decode text = .ok (History.ofContent content) := by
  unfold History.ofContent
  split
  next => exact Or.inl rfl
  next text htext =>
    split
    next h hdecode =>
      unfold String.fromUTF8? at htext
      split at htext
      next => exact Or.inr ⟨text, by cases htext; rfl, hdecode⟩
      next => cases htext
    next => exact Or.inl rfl

theorem History.ofContent_toUTF8 {text : String} {h : History}
    (htext : Json.decodeText History.decode text = .ok h) : History.ofContent text.toUTF8 = h := by
  unfold History.ofContent
  rw [History.fromUTF8?_toUTF8]
  simp only [htext]

/-- The number of a calculation is its place in the list of all and the number
of its row in the table. -/
theorem Store.removed_calculation {s next : Store} {number : Nat} {c : Calculation}
    (h : s.answer (.remove number) = (.removed c, next)) :
    s.history.calculations[number - 1]? = some c ∧
    (∀ units, (Table.ofHistory units s.history.calculations).rows[number - 1]? =
      some [⟨number.repr, .right⟩, ⟨c.toInput units, .left⟩, ⟨c.resultText units, .left⟩]) ∧
    next.history.calculations = s.history.calculations.eraseIdx (number - 1) := by
  have hremove := s.history.remove_eq number
  simp only [Store.answer, Store.remove] at h
  by_cases hnumber : 1 ≤ number ∧ number ≤ s.history.records.length
  · rw [dif_pos hnumber] at hremove
    simp only [hremove, Except.map, Prod.mk.injEq, Answer.removed.injEq] at h
    obtain ⟨rfl, rfl⟩ := h
    have hlisted : s.history.calculations[number - 1]? =
        some (s.history.records[number - 1]).toCalculation := by
      rw [History.calculations, List.getElem?_map, List.getElem?_eq_getElem (by omega)]
      rfl
    refine ⟨hlisted, fun units => ?_, ?_⟩
    · simp only [Table.ofHistory, List.getElem?_mapIdx, hlisted, Option.map_some,
        Nat.sub_add_cancel hnumber.1]
    · simp only [History.calculations, List.map_append, List.map_take, List.map_drop,
        List.eraseIdx_eq_take_drop_succ, Nat.sub_add_cancel hnumber.1]
  · rw [dif_neg hnumber] at hremove
    simp only [hremove, Except.map, Prod.mk.injEq, reduceCtorEq, false_and] at h

/-- Whatever is asked after saving, the file still holds what was saved. -/
theorem Store.reload_of_saved (s : Store) (path : String) {between : List Request}
    (hbetween : ∀ r ∈ between, ¬ r.Saves) :
    (serve answer s (.save path true :: between)).2.reload.history = s.history.kept := by
  have hsaved := s.answer_ledger (.save path true)
  have hkept := Ledger.saved_of_not_saves hbetween (s.answer (.save path true)).2.ledger
  rw [serve_ledger] at hkept
  have hunits := hkept.1.trans (congrArg (fun answer => answer.2.savedUnits) hsaved).symm
  have hrecords := hkept.2.trans (congrArg (fun answer => answer.2.savedRecords) hsaved).symm
  exact congrArg₂ History.mk hunits hrecords

/-- A store is opened with what the text in its file says, or with nothing
where there is no such text. Where reading fails it is opened with nothing, and
the file stays as it is. From then on the store answers each request as a ledger
does, and holds what the ledger holds. The calculation of a number is the one
that the history shows with it. Whatever is asked after saving, opening the
file again gives the history as it was saved, less the numbers that are not
finite, if the file can be read then, and nothing if it cannot. -/
theorem a_store_answers_as_a_ledger :
    (∀ text h, Json.decodeText History.decode text = .ok h →
      (Store.load (some text.toUTF8)).ledger = .opened h) ∧
    (∀ file, (∀ text h, file = some text.toUTF8 → Json.decodeText History.decode text ≠ .ok h) →
      (Store.load file).ledger = .opened ⟨.metric, []⟩) ∧
    (∀ file, (Store.load file false).history = ⟨.metric, []⟩ ∧
      (Store.load file false).file = file) ∧
    (∀ file readable requests, serve Ledger.answer (Store.load file readable).ledger requests =
      ((serve Store.answer (Store.load file readable) requests).1,
        (serve Store.answer (Store.load file readable) requests).2.ledger)) ∧
    (∀ (s next : Store) number c, s.answer (.remove number) = (.removed c, next) →
      s.history.calculations[number - 1]? = some c ∧
      (∀ units, (Table.ofHistory units s.history.calculations).rows[number - 1]? =
        some [⟨number.repr, .right⟩, ⟨c.toInput units, .left⟩, ⟨c.resultText units, .left⟩]) ∧
      next.history.calculations = s.history.calculations.eraseIdx (number - 1)) ∧
    (∀ file readable before path between, (∀ r ∈ between, ¬ Request.Saves r) →
      let requests := before ++ .save path true :: between
      (serve Store.answer (Store.load file readable) (requests ++ [.reload true])).2.history =
        (serve Store.answer (Store.load file readable) before).2.history.kept ∧
      (serve Store.answer (Store.load file readable) (requests ++ [.reload false])).2.history =
        ⟨.metric, []⟩) := by
  refine ⟨?_, ?_, fun _ => ⟨rfl, rfl⟩, fun file readable => (Store.load file readable).serve_ledger,
    fun _ _ _ _ => Store.removed_calculation, ?_⟩
  · intro text h htext
    simp only [Store.ledger, Store.reload, Store.load, if_true, Option.map_some, Option.getD_some,
      History.ofContent_toUTF8 htext, Ledger.opened]
  · intro file hfile
    have hempty : (Store.load file).history = .empty := by
      cases file with
      | none => rfl
      | some content =>
        rcases History.ofContent_cases content with hempty | ⟨text, rfl, htext⟩
        · exact hempty
        · exact absurd htext (hfile text _ rfl)
    have hagain : (Store.load file).reload.history = .empty := hempty
    simp only [Store.ledger, hagain, hempty]
    rfl
  · intro file readable before path between hbetween requests
    have hreload := Store.reload_of_saved
      (serve Store.answer (Store.load file readable) before).2 path hbetween
    rw [← serve_append] at hreload
    rw [serve_append _ _ requests [.reload true], serve_append _ _ requests [.reload false]]
    exact ⟨hreload, rfl⟩

/-- Two calculations are saved and one is removed without saving; it is there
again when the file is opened. -/
theorem removed_without_saving :
    let eight : Calculation := ⟨[.constant 6, .operator .add, .constant 2], some (.constant 8)⟩
    let five : Calculation := ⟨[.constant 2, .operator .add, .constant 3], some (.constant 5)⟩
    (Store.load (some "\x7b\"format\":\"imperial\"\x7d".toUTF8)).ledger = .opened ⟨.imperial, []⟩ ∧
    (Store.load none).ledger = .opened ⟨.metric, []⟩ ∧
    (Table.ofHistory .metric (Store.mk ⟨.metric, [five.toRecord, eight.toRecord]⟩
      none).history.calculations).rows[1]? =
        some [⟨"2", .right⟩, ⟨"6 + 2", .left⟩, ⟨"8", .left⟩] ∧
    (serve Store.answer (Store.load none) [.push eight, .push five, .save ".pacecalc.json" true,
      .remove 2, .reload false, .save ".pacecalc.json" false, .reload true]).2.history =
      ⟨.metric, [five.toRecord, eight.toRecord]⟩ := by
  intro eight five
  obtain ⟨hread, hempty, _, _, hremoved, hsaved⟩ := a_store_answers_as_a_ledger
  refine ⟨hread _ _ (by decide +kernel), hempty none (by simp), ?_, ?_⟩
  · let s : Store := ⟨⟨.metric, [five.toRecord, eight.toRecord]⟩, none⟩
    have hrow := (hremoved s _ 2 eight rfl).2.1 .metric
    rw [hrow, show eight.toInput .metric = "6 + 2" by decide +kernel,
      show eight.resultText .metric = "8" by decide +kernel]
    rfl
  · have hbetween : ∀ r ∈ [Request.remove 2, .reload false, .save ".pacecalc.json" false],
        ¬ Request.Saves r := by
      simp [Request.Saves]
    have hreload := (hsaved none true [.push eight, .push five] ".pacecalc.json" _ hbetween).1
    exact hreload.trans (by decide +kernel)

/-- A file that can be written and not read: what is saved goes into it, and
opening it gives the defaults all the same. -/
theorem a_write_only_file_is_opened_empty :
    let found := Store.load (some "\x7b\"format\":\"imperial\"\x7d".toUTF8) false
    let saved := (serve Store.answer found [.setUnits .imperial, .save ".pacecalc.json" true]).2
    let opened := (serve Store.answer found
      [.setUnits .imperial, .save ".pacecalc.json" true, .reload false]).2
    saved.history = ⟨.imperial, []⟩ ∧ saved.file = some (History.toContent ⟨.imperial, []⟩) ∧
      opened.file = saved.file ∧ opened.history = ⟨.metric, []⟩ ∧
      opened.history ≠ saved.history.kept := by
  refine ⟨rfl, rfl, rfl, rfl, ?_⟩
  intro hsame
  cases congrArg History.units hsame

end Stride
