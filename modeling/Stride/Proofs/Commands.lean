-- Commands one after the other in one folder. A command does all of its work
-- or leaves the file as it found it, so whatever was asked, the file holds the
-- history that the commands that ended well make of the one at the start. A
-- command that cannot read the file starts from nothing.
import Stride.Program
import Stride.Proofs.Requests

namespace Stride

/-! ## The history in a file -/

/-- Every number in the records is finite. -/
def History.Finite (h : History) : Prop := ∀ r ∈ h.records, r.Finite

theorem History.Finite.map_kept {h : History} (hfinite : h.Finite) :
    h.records.map CalculationRecord.kept = h.records := by
  have hkept : ∀ r ∈ h.records, r.kept = id r := fun r hr => (hfinite r hr).kept_eq
  rw [List.map_congr_left hkept, List.map_id]

/-- Whatever a text holds, the numbers that are read are finite. -/
theorem History.finite_of_decode {j : Json} {h : History} (hj : decode j = .ok h) : h.Finite := by
  refine Json.Field.decodeRecord_invariant ?_ (by simp [History.Finite, empty]) hj
  intro field hfield j h h' hh hh'
  simp only [fields, List.mem_cons, List.not_mem_nil, or_false] at hfield
  rcases hfield with rfl | rfl <;> obtain ⟨x, hx, rfl⟩ := Json.map_eq_ok hh'
  · exact hh
  · intro r hr
    obtain ⟨j', hj'⟩ := Json.decodeList_eq_ok hx r hr
    exact CalculationRecord.finite_of_decode hj'

theorem Store.finite_load (file : Option ByteArray) : (load file).history.Finite := by
  cases file with
  | none => simp [load, History.Finite, History.empty]
  | some content =>
    rcases History.ofContent_cases content with hempty | ⟨text, _, htext⟩
    · simp [load, hempty, History.Finite, History.empty]
    · obtain ⟨j, hj⟩ := Json.exists_of_decodeText htext
      exact History.finite_of_decode hj

/-! ## What a command is to do -/

namespace Command

/-- The commands that are done when they end. A prompt and a service go on. -/
def endsAtOnce : Command → Bool
  | .interactive _ | .serve _ _ => false
  | _ => true

/-- The commands that write the file. -/
def saves : Command → Bool
  | .calculate _ _ _ save => save
  | .delete _ => true
  | .units system => system.isSome
  | _ => false

/-- Whether a command can do its work: an expression is no error and, if it is
to be saved, has a result, a calculation to delete is there, and a file that is
to be written can be. -/
def succeeds (h : History) (writable : Bool) : Command → Bool
  | .calculate input chosen _ save =>
    let c := Calculation.ofExpression (chosen.getD h.units) input
    !c.isError && (!save || (c.result.isSome && writable))
  | .delete number => decide (1 ≤ number ∧ number ≤ h.records.length) && writable
  | .units (some _) => writable
  | _ => true

/-- The history with the work of a command done. -/
def applied (h : History) : Command → History
  | .calculate input chosen _ true =>
    let c := Calculation.ofExpression (chosen.getD h.units) input
    { h with records := c.toRecord.kept :: h.records }
  | .delete number => { h with records := h.records.eraseIdx (number - 1) }
  | .units (some system) => { h with units := system }
  | _ => h

end Command

/-- What a command can leave: its work in the file, or a file that it did not
write, because there was nothing to save or because it failed. -/
inductive Settled (place : Place) (command : Command) (o : Outcome) : Prop
  | saved : command.succeeds (Store.load place.file).history place.writable = true →
      o.status = 0 → command.saves = true → o.written = true →
      (Store.load o.file).history = command.applied (Store.load place.file).history →
      Settled place command o
  | shown : command.succeeds (Store.load place.file).history place.writable = true →
      o.status = 0 → command.saves = false → o.written = false → Settled place command o
  | failed : command.succeeds (Store.load place.file).history place.writable = false →
      o.status ≠ 0 → o.written = false → Settled place command o

/-! ## What each command does -/

/-- All that is left to do is to write the file. -/
theorem settled_saveThen {place : Place} {command : Command} {out done : String} {s : Store}
    (h : command.succeeds (Store.load place.file).history place.writable = place.writable)
    (hsaves : command.saves = true)
    (hs : s.history.kept = command.applied (Store.load place.file).history) :
    Settled place command (Program.saveThen place out done s) := by
  unfold Program.saveThen Store.save
  cases hwritable : place.writable with
  | true => exact .saved (h.trans hwritable) rfl hsaves rfl ((Store.load_toContent _).trans hs)
  | false => exact .failed (h.trans hwritable) (by simp [Outcome.fail]) rfl

/-- A calculation with a result and no error is successful. -/
theorem Calculation.isOk_of_not_isError {c : Calculation} (herror : c.isError = false)
    (hresult : c.result.isSome = true) : c.isOk = true := by
  obtain ⟨v, hv⟩ := Option.isSome_iff_exists.1 hresult
  unfold isError at herror
  unfold isOk
  simp_all

theorem settled_calculate (place : Place) (input : String) (chosen : Option UnitSystem)
    (output : Output) (save : Bool) : Settled place (.calculate input chosen output save)
      (Program.calculate place input chosen output save) := by
  let h := (Store.load place.file).history
  unfold Program.calculate
  dsimp only
  generalize hc : Calculation.ofExpression (chosen.getD h.units) input = c
  have hsucceeds : (Command.calculate input chosen output save).succeeds h place.writable =
      (!c.isError && (!save || (c.result.isSome && place.writable))) := by
    rw [← hc]
    rfl
  split
  next herror => exact .failed (by rw [hsucceeds, herror]; rfl) (by simp) rfl
  next herror =>
    rw [Bool.not_eq_true] at herror
    split
    next hsave =>
      obtain rfl : save = false := by simpa using hsave
      exact .shown (by rw [hsucceeds, herror]; rfl) rfl rfl rfl
    next hsave =>
      obtain rfl : save = true := by simpa using hsave
      cases hresult : c.result with
      | none =>
        exact .failed (by rw [hsucceeds, hresult]; simp) (by simp [Outcome.fail]) rfl
      | some v =>
        have hok := Calculation.isOk_of_not_isError herror (by rw [hresult]; rfl)
        simp only [(Store.load place.file).push_of_isOk hok]
        refine settled_saveThen (by rw [hsucceeds, herror, hresult]; rfl) rfl ?_
        simp only [History.kept, List.map_cons, (Store.finite_load place.file).map_kept,
          Command.applied]
        rw [← hc]

theorem settled_delete (place : Place) (number : Nat) :
    Settled place (.delete number) (Program.delete place number) := by
  have hremove := (Store.load place.file).history.remove_eq number
  unfold Program.delete Store.remove
  split at hremove
  next hnumber =>
    simp only [hremove, Except.map]
    refine settled_saveThen (by simp [Command.succeeds, hnumber]) rfl ?_
    simp only [History.kept, List.map_append, List.map_take, List.map_drop,
      (Store.finite_load place.file).map_kept, Command.applied, List.eraseIdx_eq_take_drop_succ,
      Nat.sub_add_cancel hnumber.1]
  next hnumber =>
    simp only [hremove, Except.map]
    exact .failed (by simp [Command.succeeds, hnumber]) (by simp [Outcome.fail]) rfl

theorem settled_setUnits (place : Place) (system : UnitSystem) :
    Settled place (.units (some system)) (Program.setUnits place system) := by
  refine settled_saveThen rfl rfl ?_
  simp only [History.kept, Store.setUnits, (Store.finite_load place.file).map_kept, Command.applied]

theorem settled_run (place : Place) {command : Command} (h : command.endsAtOnce = true) :
    Settled place command (Program.run place command) := by
  cases command with
  | calculate input chosen output save => exact settled_calculate place input chosen output save
  | history chosen => exact .shown rfl rfl rfl rfl
  | delete number => exact settled_delete place number
  | units system =>
    cases system with
    | none => exact .shown rfl rfl rfl rfl
    | some system => exact settled_setUnits place system
  | samples chosen => exact .shown rfl rfl rfl rfl
  | interactive chosen => cases h
  | serve host port => cases h

/-! ## One command after the other -/

/-- A command, and whether the file can be read and written when it comes to
that. -/
structure Turn where
  command : Command
  readable : Bool
  writable : Bool

/-- How the command ends, and what the file holds behind it. -/
def Turn.outcome (t : Turn) (path : String) (file : Option ByteArray) : Outcome :=
  let o := Program.run ⟨path, if t.readable then file else none, t.writable⟩ t.command
  { o with file := if o.written then o.file else file }

/-- What the file holds behind some commands. -/
def fileAfter (path : String) (file : Option ByteArray) (turns : List Turn) : Option ByteArray :=
  turns.foldl (fun file turn => (turn.outcome path file).file) file

/-- The history in the file behind one more command: what the command found
with its work done, if it is to save that and can. -/
def History.next (h : History) (t : Turn) : History :=
  let found := if t.readable then h else .empty
  if t.command.saves && t.command.succeeds found t.writable then t.command.applied found else h

/-- What is read of a file is what it holds, or nothing. -/
theorem Store.load_read (file : Option ByteArray) (readable : Bool) :
    (load (if readable then file else none)).history = (load file readable).history := by
  cases readable <;> rfl

theorem Store.history_load (file : Option ByteArray) (readable : Bool) :
    (load file readable).history = if readable then (load file).history else .empty := by
  cases readable <;> rfl

/-- A command that is not to save leaves the history as it is. -/
theorem Command.applied_of_not_saves {command : Command} (h : History)
    (hsaves : command.saves = false) : command.applied h = h := by
  cases command with
  | calculate input chosen output save =>
    obtain rfl : save = false := hsaves
    rfl
  | units system =>
    cases system with
    | none => rfl
    | some system => cases hsaves
  | delete number => cases hsaves
  | _ => rfl

/-- One command, on whatever file it finds. -/
theorem Turn.outcome_spec (t : Turn) (path : String) (file : Option ByteArray)
    (h : t.command.endsAtOnce = true) :
    ((t.outcome path file).status = 0 ↔
      t.command.succeeds (Store.load file t.readable).history t.writable = true) ∧
    ((t.outcome path file).status ≠ 0 → (t.outcome path file).file = file) ∧
    (t.command.saves = false → (t.outcome path file).file = file) ∧
    ((t.outcome path file).status = 0 → t.command.saves = true ∨ t.readable = true →
      (Store.load (t.outcome path file).file).history =
        t.command.applied (Store.load file t.readable).history) := by
  have hrun := settled_run ⟨path, if t.readable then file else none, t.writable⟩ h
  rw [← Store.load_read]
  unfold Turn.outcome
  dsimp only
  cases hrun with
  | saved hsucceeds hstatus hsaves hwritten hload =>
    rw [if_pos hwritten]
    refine ⟨iff_of_true hstatus hsucceeds, fun hbad => absurd hstatus hbad, ?_, fun _ _ => hload⟩
    intro hnot
    rw [hnot] at hsaves
    cases hsaves
  | shown hsucceeds hstatus hsaves hwritten =>
    rw [hwritten, if_neg Bool.false_ne_true]
    refine ⟨iff_of_true hstatus hsucceeds, fun _ => rfl, fun _ => rfl, fun _ hkind => ?_⟩
    rw [Command.applied_of_not_saves _ hsaves]
    rcases hkind with hnot | hread
    · rw [hsaves] at hnot
      cases hnot
    · rw [if_pos hread]
  | failed hfails hstatus hwritten =>
    rw [hwritten, if_neg Bool.false_ne_true]
    refine ⟨iff_of_false hstatus ?_, fun _ => rfl, fun _ => rfl, fun hgood => ?_⟩
    · rw [Bool.not_eq_true]
      exact hfails
    · exact absurd hgood hstatus

theorem Turn.load_outcome (t : Turn) (path : String) (file : Option ByteArray)
    (h : t.command.endsAtOnce = true) :
    (Store.load (t.outcome path file).file).history = (Store.load file).history.next t := by
  obtain ⟨hstatus, hleft, hshown, hload⟩ := t.outcome_spec path file h
  unfold History.next
  dsimp only
  rw [← Store.history_load]
  cases hsaves : t.command.saves with
  | false => rw [hshown hsaves, Bool.false_and, if_neg Bool.false_ne_true]
  | true =>
    rw [Bool.true_and]
    split
    next hsucceeds => exact hload (hstatus.2 hsucceeds) (Or.inl hsaves)
    next hfails => rw [hleft fun hgood => hfails (hstatus.1 hgood)]

/-- Any number of commands, by what one of them does. -/
theorem load_fileAfter (path : String) (file : Option ByteArray) (turns : List Turn)
    (h : ∀ t ∈ turns, t.command.endsAtOnce = true) :
    (Store.load (fileAfter path file turns)).history =
      turns.foldl History.next (Store.load file).history := by
  induction turns generalizing file with
  | nil => rfl
  | cons turn turns ih =>
    rw [List.foldl_cons, ← turn.load_outcome path file (h turn List.mem_cons_self)]
    exact ih _ fun t ht => h t (List.mem_cons_of_mem _ ht)

/-! ## The law -/

/-- Whatever the file holds and whatever commands have come before, a command
ends well exactly where its work can be done. One that ends badly and one that
is not to save leave the file as it is, byte for byte; one that saves and ends
well leaves the history that it found with its one change. So behind any
commands the file holds what those that ended well make of the history at the
start. -/
theorem commands_are_done_whole_or_not_at_all (path : String) (file : Option ByteArray)
    (turns : List Turn) (hturns : ∀ t ∈ turns, t.command.endsAtOnce = true) :
    (∀ before turn after, turns = before ++ turn :: after →
      let found := fileAfter path file before
      let h := (Store.load found turn.readable).history
      let o := turn.outcome path found
      (o.status = 0 ↔ turn.command.succeeds h turn.writable = true) ∧
      (o.status ≠ 0 → o.file = found) ∧
      (turn.command.saves = false → o.file = found) ∧
      (o.status = 0 → turn.command.saves = true ∨ turn.readable = true →
        (Store.load o.file).history = turn.command.applied h)) ∧
    (Store.load (fileAfter path file turns)).history =
      turns.foldl History.next (Store.load file).history := by
  refine ⟨?_, load_fileAfter path file turns hturns⟩
  rintro before turn after rfl
  exact turn.outcome_spec path (fileAfter path file before) (hturns turn (by simp))

/-- One calculation is saved. The next one cannot be read, the third cannot be
written, and the last command takes the first calculation out again. -/
theorem saved_and_taken_out_again :
    let save := Command.calculate "5km in 25min" none .table true
    let unread := Command.calculate "5km in 20 weeks" (some .imperial) .raw true
    let saved : History := ⟨.metric, [⟨[{ kind := .distance, meters := some 5000 },
      { kind := .operator, operator := some "in" }, { kind := .duration, seconds := some 1500 }],
      some { kind := .pace, secondsPerKilometer := some 300 }⟩]⟩
    let found := fileAfter ".pacecalc.json" none [⟨save, true, true⟩]
    (Store.load found).history = saved ∧
    (Turn.outcome ⟨unread, true, true⟩ ".pacecalc.json" found).status ≠ 0 ∧
    (Turn.outcome ⟨unread, true, true⟩ ".pacecalc.json" found).file = found ∧
    (Store.load (fileAfter ".pacecalc.json" none [⟨save, true, true⟩, ⟨unread, true, true⟩,
      ⟨save, true, false⟩, ⟨.delete 1, true, true⟩])).history = .empty := by
  intro save unread saved found
  have hsaved : (Store.load found).history = saved := by
    obtain ⟨_, hhistory⟩ := commands_are_done_whole_or_not_at_all ".pacecalc.json" none
      [⟨save, true, true⟩] (by decide)
    exact hhistory.trans (by decide +kernel)
  obtain ⟨heach, hhistory⟩ := commands_are_done_whole_or_not_at_all ".pacecalc.json" none
    [⟨save, true, true⟩, ⟨unread, true, true⟩, ⟨save, true, false⟩, ⟨.delete 1, true, true⟩]
    (by decide)
  obtain ⟨hstatus, hleft, _⟩ := heach [⟨save, true, true⟩] ⟨unread, true, true⟩ _ rfl
  have hbad : (Turn.outcome ⟨unread, true, true⟩ ".pacecalc.json" found).status ≠ 0 := by
    intro hgood
    have hsucceeds := hstatus.1 hgood
    rw [hsaved] at hsucceeds
    exact absurd hsucceeds (by decide +kernel)
  exact ⟨hsaved, hbad, hleft hbad, hhistory.trans (by decide +kernel)⟩

end Stride
