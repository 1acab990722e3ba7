-- The text of a value, read as a token again. A comma between thousands and
-- the sign of infinity stand in no token. Where a text has neither, it is read
-- as a value of the same kind.
import Stride.Proofs.Alternation
import Stride.Proofs.JsonNumbers
import Stride.Proofs.Magnitudes

namespace Stride

open Binary64

/-- Neither a comma nor the sign of infinity. -/
structure Legible (s : List Char) : Prop where
  comma : ',' ∉ s
  infinity : '∞' ∉ s

theorem Legible.of_append {s t : List Char} (h : Legible (s ++ t)) : Legible s ∧ Legible t := by
  obtain ⟨hcomma, hinfinity⟩ := h
  simp only [List.mem_append, not_or] at hcomma hinfinity
  exact ⟨⟨hcomma.1, hinfinity.1⟩, ⟨hcomma.2, hinfinity.2⟩⟩

/-! ## Numbers in text -/

/-- Digits without a comma between them were not grouped. -/
theorem groupThousands_eq_self {ds : List Char} (h : ',' ∉ groupThousands ds) :
    groupThousands ds = ds := by
  fun_induction groupThousands ds with
  | case1 => rfl
  | case2 => rfl
  | case3 digit rest _ hgroup _ =>
    simp at h
  | case4 digit rest _ hgroup ih =>
    rw [ih fun hmem => h (List.mem_cons_of_mem _ hmem)]

theorem fractionText_cases (count : Nat) :
    fractionText count = [] ∨ ∃ f, Digits f ∧ fractionText count = '.' :: f := by
  unfold fractionText
  dsimp only
  split
  next => exact Or.inl rfl
  next hkept =>
    refine Or.inr ⟨_, ⟨hkept, ?_⟩, rfl⟩
    intro c hc
    have hplaces : c ∈ (Nat.toDigits 10 (count % 1000 + 1000)).drop 1 :=
      List.mem_reverse.1 ((List.dropWhile_suffix _).subset (List.mem_reverse.1 hc))
    exact (digits_toDigits _).2 c (List.mem_of_mem_drop hplaces)

/-- Rounding to thousandths keeps a number without a sign without one. -/
theorem nonNegative_roundThousandths {x : Binary64} (hx : NonNegative x) :
    NonNegative (roundThousandths x) := by
  unfold roundThousandths
  dsimp only
  split
  · exact (hx.mul positive_thousand).round.div positive_thousand
  · exact hx

theorem numberText_numeral {x : Binary64} (hx : NonNegative x) (h : Legible (numeral x)) :
    ∃ y, NumberText (numeral x) y := by
  have hrounded := nonNegative_roundThousandths hx
  unfold numeral at h ⊢
  cases hcases : roundThousandths x with
  | nan => rw [hcases] at hrounded; exact hrounded.elim
  | infinite negative =>
    rw [hcases] at hrounded h
    cases hrounded
    exact absurd List.mem_cons_self h.infinity
  | finite negative u hu =>
    rw [hcases] at hrounded h
    cases hrounded
    simp only [Bool.false_and, Bool.false_eq_true, if_false] at h ⊢
    obtain ⟨hwhole, _⟩ := h.of_append
    rw [groupThousands_eq_self hwhole.comma]
    have hdigits := digits_toDigits (thousandths u / 1000)
    rcases fractionText_cases (thousandths u) with hnone | ⟨f, hf, hsome⟩
    · rw [hnone, List.append_nil]
      exact ⟨_, .whole hdigits⟩
    · rw [hsome]
      exact ⟨_, .decimal hdigits hf⟩

theorem numeral_infinite : numeral (.infinite false) = ['∞'] := by decide +kernel

theorem digits_wholeText {n : Int} (h : 0 ≤ n) : Digits (wholeText n) := by
  unfold wholeText
  rw [if_neg (by omega)]
  exact digits_toDigits _

theorem digits_twoPlaces {n : Int} (h : 0 ≤ n) : Digits (twoPlaces n) := by
  have hwhole := digits_wholeText h
  unfold twoPlaces
  split
  · refine ⟨by simp, ?_⟩
    intro c hc
    rcases List.mem_cons.1 hc with rfl | hc
    · rfl
    · exact hwhole.2 c hc
  · exact hwhole

/-- A time in minutes and seconds, unless it is infinite. -/
theorem digits_minutesAndSeconds {seconds : Binary64} (hseconds : NonNegative seconds)
    (h : Legible (minutesAndSeconds seconds)) :
    ∃ d e, Digits d ∧ Digits e ∧ minutesAndSeconds seconds = d ++ ':' :: e := by
  cases hfinite : seconds.isFinite with
  | true =>
    have htotal := hseconds.round.toInteger_nonneg
    have hsixty : (0 : Int) ≤ 60 := by decide
    refine ⟨_, _, digits_wholeText (Int.tdiv_nonneg htotal hsixty),
      digits_twoPlaces (Int.tmod_nonneg 60 htotal), ?_⟩
    unfold minutesAndSeconds
    rw [if_pos hfinite]
  | false =>
    obtain rfl := hseconds.eq_infinite hfinite
    have htext : minutesAndSeconds (.infinite false) = numeral (.infinite false) := rfl
    rw [htext, numeral_infinite] at h
    exact absurd List.mem_cons_self h.infinity

theorem Pace.nonNegative_secondsPerLength (units : UnitSystem) {p : Pace}
    (h : NonNegative p.secondsPerKilometer) : NonNegative (p.secondsPerLength units) := by
  cases units with
  | metric => exact h
  | imperial => exact h.mul positive_kilometersPerMile

theorem Pace.nonNegative_lengthsPerHour (units : UnitSystem) {p : Pace}
    (h : NonNegative p.secondsPerKilometer) : NonNegative (p.lengthsPerHour units) := by
  have hkilometers := positive_minuteSeconds.div (h.div positive_minuteSeconds)
  cases units with
  | metric => exact hkilometers
  | imperial => exact hkilometers.mul positive_milesPerKilometer

/-! ## Tokens with nothing behind them -/

section Alone

variable (units : UnitSystem)

theorem reads_distance {n : List Char} {x : Binary64} (hn : NumberText n x) (unit : LengthUnit) :
    Reads units (n ++ unit.symbol.toList) (.distance (.plain (unit.toMeters x))) [] := by
  have hspeed : ¬ BeginsWith SpeedUnit.symbol (unit.symbol.toList ++ []) := by
    rintro ⟨speed, h⟩
    revert h
    cases unit <;> cases speed <;> decide
  have htime : ¬ BeginsWith TimeUnit.symbol (unit.symbol.toList ++ []) := by
    rintro ⟨time, h⟩
    revert h
    cases unit <;> cases time <;> decide
  have hmile : unit = .meter → ¬ LengthUnit.mile.symbol.toList <+: unit.symbol.toList ++ [] := by
    rintro rfl
    decide
  have hreads : Reads units (n ++ (unit.symbol.toList ++ [])) _ [] :=
    .distance unit [] hn hspeed (fun _ => htime) hmile
  rwa [List.append_nil] at hreads

theorem reads_speed {n : List Char} {x : Binary64} (hn : NumberText n x) (unit : SpeedUnit) :
    Reads units (n ++ unit.symbol.toList) (.pace ⟨unit.perKilometer x, .speed⟩) [] := by
  have hreads : Reads units (n ++ (unit.symbol.toList ++ [])) _ [] := .speed unit [] hn
  rwa [List.append_nil] at hreads

theorem reads_constant {n : List Char} {x : Binary64} (hn : NumberText n x) :
    Reads units n (.constant x) [] := by
  have hreads : Reads units (n ++ []) _ [] := .constant [] hn (Or.inl rfl)
  rwa [List.append_nil] at hreads

theorem reads_pace {d e : List Char} (hd : Digits d) (he : Digits e) (unit : PaceUnit) :
    ∃ p : Pace, p.view = .pace ∧
      Reads units (d ++ ':' :: (e ++ unit.symbol.toList)) (.pace p) [] := by
  have hreads : Reads units (d ++ ':' :: (e ++ (unit.symbol.toList ++ []))) _ [] :=
    .clockPace unit [] hd he
  rw [List.append_nil] at hreads
  exact ⟨_, rfl, hreads⟩

theorem reads_components {run : Components} (hne : run ≠ []) (hrun : Ordered TimeUnit.all run) :
    Reads units run.text (.duration run.seconds) [] := by
  obtain ⟨⟨d, unit⟩, run, rfl⟩ := List.exists_cons_of_ne_nil hne
  have hend : NoDigit [] := by simp [NoDigit]
  have hlongest := longest_of_noDigit hrun.digits hend
  have hpace : ¬ BeginsWith PaceUnit.symbol
      (unit.symbol.toList ++ (Components.text run ++ [])) := by
    rintro ⟨pace, hpace⟩
    apply not_pace_of_components .add [] hrun.digits
    refine ⟨pace, hpace.trans ?_⟩
    rw [List.append_nil, ← List.append_assoc]
    exact List.prefix_append _ _
  have hreads : Reads units (Components.text ((d, unit) :: run) ++ []) _ [] :=
    .components [] hrun hpace hlongest
  rwa [List.append_nil] at hreads

end Alone

/-! ## Values as they are written -/

/-- The text of the value, its blanks taken away. -/
def Value.written (units : UnitSystem) (v : Value) : List Char :=
  withoutBlanks (v.render units).toList

section Written

variable {units : UnitSystem}

theorem Value.render_of_piece {v : Value} {p : Piece} (h : v.pieces units = [p]) :
    (v.render units).toList = p.value.toList ++ p.unit.toList := by
  unfold Value.render
  rw [h, List.map_singleton, String.intercalate_singleton]
  exact String.toList_append

/-- A value of one piece is read as the piece is. -/
theorem Value.reads_of_piece {v w : Value} {p : Piece} (h : v.pieces units = [p])
    (hreads : Reads units (p.value.toList ++ p.unit.toList) w []) :
    Reads units (v.written units) w [] := by
  unfold Value.written
  rwa [render_of_piece h, (solid_of_reads hreads).withoutBlanks]

theorem Distance.exists_piece (units : UnitSystem) {meters : Binary64}
    (hmeters : NonNegative meters) :
    ∃ (x : Binary64) (unit : LengthUnit), NonNegative x ∧
      (Distance.plain meters).piece units = ⟨String.ofList (numeral x), unit.symbol⟩ ∧
      (unit = .meter ↔ units = .metric ∧ meters.lt kilometerMeters = true) := by
  unfold Distance.piece
  cases units with
  | metric =>
    by_cases hlt : meters.lt kilometerMeters = true
    · exact ⟨meters, .meter, hmeters, by simp [hlt], by simp [hlt]⟩
    · exact ⟨_, .kilometer, hmeters.div positive_kilometerMeters, by simp [hlt], by simp [hlt]⟩
  | imperial =>
    by_cases hlt : meters.lt mileMeters = true
    · exact ⟨_, .yard, (hmeters.div positive_yardMeters).round, by simp [hlt], by simp⟩
    · exact ⟨_, .mile, hmeters.div positive_mileMeters, by simp [hlt], by simp⟩

/-- A length is written as a number and a unit. -/
theorem Distance.exists_written {meters : Binary64} (hmeters : NonNegative meters)
    (hlegible : Legible (Value.render units (.distance (.plain meters))).toList) :
    ∃ (n : List Char) (x : Binary64) (unit : LengthUnit), NumberText n x ∧
      Value.written units (.distance (.plain meters)) = n ++ unit.symbol.toList ∧
      (unit = .meter ↔ units = .metric ∧ meters.lt kilometerMeters = true) := by
  obtain ⟨y, unit, hy, hpiece, hunit⟩ := Distance.exists_piece units hmeters
  have hpieces : Value.pieces units (.distance (.plain meters)) = [_] := congrArg (· :: []) hpiece
  rw [Value.render_of_piece hpieces, String.toList_ofList] at hlegible
  obtain ⟨x, hn⟩ := numberText_numeral hy hlegible.of_append.1
  refine ⟨numeral y, x, unit, hn, ?_, hunit⟩
  unfold Value.written
  rw [Value.render_of_piece hpieces, String.toList_ofList,
    (solid_append.2 ⟨hn.solid, unit.solid⟩).withoutBlanks]

/-- The pieces of a finite time are a run of components. -/
theorem durationPieces_eq {seconds : Binary64} (h : seconds.isFinite = true) :
    ∃ run : Components, run ≠ [] ∧ Ordered TimeUnit.all run ∧
      durationPieces seconds =
        run.map fun c => ⟨String.ofList c.1, c.2.symbol⟩ := by
  let shown := (clockParts seconds.round).filter fun part => Binary64.lt 0 part.1
  let run : Components := shown.map fun part => (wholeText part.1.toInteger, part.2)
  have hpieces : durationPieces seconds =
      if run.isEmpty then [⟨"0", TimeUnit.second.symbol⟩]
      else run.map fun c => ⟨String.ofList c.1, c.2.symbol⟩ := by
    unfold durationPieces
    rw [if_pos h]
    simp only [run, shown, List.isEmpty_map, List.map_map]
    rfl
  have hunits : run.map Prod.snd = shown.map Prod.snd := by
    simp only [run, List.map_map]
    rfl
  have hordered : Ordered TimeUnit.all run := by
    constructor
    · rw [hunits]
      exact (List.filter_sublist.map Prod.snd)
    · intro c hc
      obtain ⟨⟨amount, unit⟩, hshown, rfl⟩ := List.mem_map.1 hc
      have habove := (List.mem_filter.1 hshown).2
      exact digits_wholeText (nonNegative_of_zero_lt habove).toInteger_nonneg
  cases hrun : run with
  | nil =>
    rw [hrun] at hpieces
    refine ⟨[(['0'], .second)], by simp, ⟨by decide, by simp [Digits]⟩, hpieces⟩
  | cons c more =>
    rw [hrun] at hpieces hordered
    exact ⟨c :: more, by simp, hordered, hpieces⟩

/-- A finite time is written as its components, one behind the other. -/
theorem written_duration {seconds : Binary64} {run : Components}
    (hrun : ∀ c ∈ run, Digits c.1) (h : durationPieces seconds =
      run.map fun c => ⟨String.ofList c.1, c.2.symbol⟩) :
    Value.written units (.duration seconds) = run.text := by
  change withoutBlanks (" ".intercalate ((durationPieces seconds).map Piece.text)).toList = run.text
  rw [h, withoutBlanks_intercalate]
  · unfold Components.text
    rw [List.map_map, List.map_map, List.flatMap_def]
    congr 2
    funext c
    simp [Piece.text]
  · intro text htext
    simp only [List.mem_map, Piece.text] at htext
    obtain ⟨_, ⟨⟨digits, unit⟩, hc, rfl⟩, rfl⟩ := htext
    simp only [String.toList_append, String.toList_ofList]
    exact solid_append.2 ⟨(hrun _ hc).solid, unit.solid⟩

/-- What is written of a value is a token of the same kind, unless there is a
comma or the sign of infinity in it. -/
theorem Value.exists_reads {v : Value} (hv : v.NonNegative) (herror : v.isError = false)
    (hlegible : Legible (v.render units).toList) :
    ∃ w, Reads units (v.written units) w [] ∧ w.kind = v.kind := by
  cases v with
  | error message => cases herror
  | operator op =>
    exact ⟨_, reads_of_piece rfl (.operator op []), rfl⟩
  | constant x =>
    have hx : Binary64.NonNegative x := hv x rfl
    rw [render_of_piece rfl, String.toList_ofList] at hlegible
    obtain ⟨y, hn⟩ := numberText_numeral hx hlegible.of_append.1
    refine ⟨.constant y, reads_of_piece rfl ?_, rfl⟩
    rw [String.toList_ofList]
    simpa using reads_constant units hn
  | distance d =>
    cases d with
    | marathon =>
      have hpieces : pieces units (.distance .marathon) = [⟨"M", ""⟩] := rfl
      refine ⟨_, reads_of_piece hpieces ?_, rfl⟩
      rw [show "M".toList ++ "".toList = ['M'] by decide]
      exact .marathon [] (Or.inr rfl)
    | halfMarathon =>
      have hpieces : pieces units (.distance .halfMarathon) = [⟨"HM", ""⟩] := rfl
      refine ⟨_, reads_of_piece hpieces ?_, rfl⟩
      rw [show "HM".toList ++ "".toList = ['H', 'M'] by decide]
      exact .halfMarathon [] (Or.inr rfl) (Or.inr rfl)
    | plain meters =>
      obtain ⟨n, x, unit, hn, hwritten, _⟩ := Distance.exists_written (hv meters rfl) hlegible
      rw [hwritten]
      exact ⟨_, reads_distance units hn unit, rfl⟩
  | duration seconds =>
    cases hfinite : seconds.isFinite with
    | true =>
      obtain ⟨run, hne, hordered, hpieces⟩ := durationPieces_eq hfinite
      rw [written_duration hordered.digits hpieces]
      exact ⟨_, reads_components units hne hordered, rfl⟩
    | false =>
      obtain rfl := NonNegative.eq_infinite (hv seconds rfl) hfinite
      have hpieces : pieces units (.duration (.infinite false)) =
        [⟨String.ofList (numeral (.infinite false)), TimeUnit.second.symbol⟩] := rfl
      rw [render_of_piece hpieces, String.toList_ofList, numeral_infinite] at hlegible
      exact absurd List.mem_cons_self hlegible.infinity
  | pace p =>
    obtain ⟨x, view⟩ := p
    have hx : Binary64.NonNegative x := hv x rfl
    cases view with
    | pace =>
      have hlength := Pace.nonNegative_secondsPerLength units (p := ⟨x, .pace⟩) hx
      have hpieces : pieces units (.pace ⟨x, .pace⟩) =
        [⟨String.ofList (minutesAndSeconds (Pace.secondsPerLength units ⟨x, .pace⟩)),
          units.paceUnit.symbol⟩] := rfl
      rw [render_of_piece hpieces, String.toList_ofList] at hlegible
      obtain ⟨d, e, hd, he, htext⟩ := digits_minutesAndSeconds hlength hlegible.of_append.1
      obtain ⟨p, hview, hreads⟩ := reads_pace units hd he units.paceUnit
      refine ⟨.pace p, reads_of_piece hpieces ?_, ?_⟩
      · rw [String.toList_ofList, htext, List.append_assoc, List.cons_append]
        exact hreads
      · obtain ⟨y, view⟩ := p
        cases hview
        rfl
    | speed =>
      have hlengths := Pace.nonNegative_lengthsPerHour units (p := ⟨x, .speed⟩) hx
      have hpieces : pieces units (.pace ⟨x, .speed⟩) =
        [⟨String.ofList (numeral (Pace.lengthsPerHour units ⟨x, .speed⟩)),
          units.speedUnit.symbol⟩] := rfl
      rw [render_of_piece hpieces, String.toList_ofList] at hlegible
      obtain ⟨y, hn⟩ := numberText_numeral hlengths hlegible.of_append.1
      refine ⟨.pace ⟨units.speedUnit.perKilometer y, .speed⟩, reads_of_piece hpieces ?_, rfl⟩
      rw [String.toList_ofList]
      exact reads_speed units hn units.speedUnit

/-- In the metric system a length below a kilometer is shown in meters. -/
def Value.ShownInMeters (units : UnitSystem) (v : Value) : Prop :=
  units = .metric ∧ ∃ meters, v = .distance (.plain meters) ∧ meters.lt kilometerMeters = true

theorem Value.exists_plain_of_kind {v : Value} (h : v.kind = .distance) :
    ∃ meters, v = .distance (.plain meters) := by
  cases v with
  | distance d => cases d <;> first | exact ⟨_, rfl⟩ | cases h
  | pace p => rcases p with ⟨_, _ | _⟩ <;> cases h
  | _ => cases h

theorem NumberText.isDigit_getLast {n : List Char} {x : Binary64} (hn : NumberText n x) :
    ∀ c ∈ n.getLast?, c.isDigit = true := by
  intro c hc
  cases hn with
  | whole hd => exact hd.2 c (List.mem_of_getLast? hc)
  | @decimal d f _ hf =>
    rw [← List.singleton_append, ← List.append_assoc, List.getLast?_append_of_ne_nil _ hf.1] at hc
    exact hf.2 c (List.mem_of_getLast? hc)

/-- A number with a unit is one of meters only with that unit. -/
theorem inMeters_iff {n : List Char} {x : Binary64} (hn : NumberText n x) (unit : LengthUnit) :
    InMeters (n ++ unit.symbol.toList) ↔ unit = .meter := by
  constructor
  · rintro ⟨n', x', hn', htext⟩
    have hlast := congrArg List.getLast? htext
    cases unit with
    | meter => rfl
    | kilometer =>
      -- Without the last `m` the text would be a number that ends with a `k`.
      have hend : (n ++ ['k']) ++ LengthUnit.meter.symbol.toList =
          n' ++ LengthUnit.meter.symbol.toList := by
        rw [← htext, List.append_assoc]
        rfl
      have hk := List.append_cancel_right hend
      have hdigit := hn'.isDigit_getLast 'k' (by rw [← hk, List.getLast?_concat]; rfl)
      cases hdigit
    | mile => simp [LengthUnit.symbol] at hlast
    | yard => simp [LengthUnit.symbol] at hlast
  · rintro rfl
    exact ⟨n, x, hn, rfl⟩

theorem Value.inMeters_written {v : Value} (hv : v.NonNegative) (herror : v.isError = false)
    (hlegible : Legible (v.render units).toList) :
    InMeters (v.written units) ↔ v.ShownInMeters units := by
  constructor
  · rintro ⟨n, x, hn, htext⟩
    obtain ⟨w, hreads, hkind⟩ := exists_reads hv herror hlegible
    have hmatch := matchToken_of_reads hreads
    rw [htext, matchToken_meters units hn] at hmatch
    cases hmatch
    obtain ⟨meters, rfl⟩ := exists_plain_of_kind hkind.symm
    obtain ⟨n', x', unit, hn', hwritten, hunit⟩ := Distance.exists_written (hv meters rfl) hlegible
    have hmeter := (inMeters_iff hn' unit).1 (by rw [← hwritten, htext]; exact ⟨n, x, hn, rfl⟩)
    obtain ⟨hmetric, hlt⟩ := hunit.1 hmeter
    exact ⟨hmetric, meters, rfl, hlt⟩
  · rintro ⟨rfl, meters, rfl, hlt⟩
    obtain ⟨n, x, unit, hn, hwritten, hunit⟩ := Distance.exists_written (hv meters rfl) hlegible
    rw [hwritten, inMeters_iff hn]
    exact hunit.2 ⟨rfl, hlt⟩

end Written

end Stride
