-- The grammar of a token, apart from the matchers and their order: each
-- rule says how a token is written and what it stands for, and where two
-- rules could meet it says which one gives way.
import Stride.Proofs.Components
import Stride.Proofs.Rounding

namespace Stride

/-! ## The rules -/

/-- The text ends, or an operator stands next. -/
def Ends (s : List Char) : Prop := s = [] ∨ BeginsWith Operator.symbol s

/-- `Reads units s v rest`: the text `s` begins with a token of the value
`v`, and `rest` is left behind it. -/
inductive Reads (units : UnitSystem) : List Char → Value → List Char → Prop
  | operator (op : Operator) (rest : List Char) :
      Reads units (op.symbol.toList ++ rest) (.operator op) rest
  | marathon {c : Char} (rest : List Char) : c = 'm' ∨ c = 'M' →
      Reads units (c :: rest) (.distance .marathon) rest
  | halfMarathon {c d : Char} (rest : List Char) : c = 'h' ∨ c = 'H' → d = 'm' ∨ d = 'M' →
      Reads units (c :: d :: rest) (.distance .halfMarathon) rest
  /-- `4:30min/km` -/
  | clockPace {d e : List Char} (unit : PaceUnit) (rest : List Char) : Digits d → Digits e →
      Reads units (d ++ ':' :: (e ++ (unit.symbol.toList ++ rest)))
        (.pace ⟨unit.perKilometer (digitsNumber d 0 * minuteSeconds + digitsNumber e 0), .pace⟩)
        rest
  /-- `4:30min`, but not the start of `4:30min/km` -/
  | clock {d e : List Char} (unit : TimeUnit) (rest : List Char) : Digits d → Digits e →
      ¬ BeginsWith PaceUnit.symbol (unit.symbol.toList ++ rest) →
      Reads units (d ++ ':' :: (e ++ (unit.symbol.toList ++ rest)))
        (.duration (unit.toSeconds (digitsNumber d 0) (digitsNumber e 0) 0)) rest
  /-- `4:30` with no unit behind it -/
  | barePace {d e : List Char} (rest : List Char) : Digits d → Digits e → NoDigit rest →
      ¬ BeginsWith PaceUnit.symbol rest → ¬ BeginsWith TimeUnit.symbol rest →
      Reads units (d ++ ':' :: (e ++ rest))
        (.pace ⟨units.paceUnit.perKilometer (digitsNumber d 0 * minuteSeconds + digitsNumber e 0),
          .pace⟩) rest
  /-- `4min/km` -/
  | wholePace {d : List Char} (unit : PaceUnit) (rest : List Char) : Digits d →
      Reads units (d ++ (unit.symbol.toList ++ rest))
        (.pace ⟨unit.perKilometer (digitsNumber d 0 * minuteSeconds), .pace⟩) rest
  /-- `1h30min`, but not the start of `4min/km` -/
  | components {d : List Char} {unit : TimeUnit} {run : Components} (rest : List Char) :
      Ordered TimeUnit.all ((d, unit) :: run) →
      ¬ BeginsWith PaceUnit.symbol (unit.symbol.toList ++ (run.text ++ rest)) →
      Longest ((d, unit) :: run) (Components.text ((d, unit) :: run) ++ rest) →
      Reads units (Components.text ((d, unit) :: run) ++ rest)
        (.duration (Components.seconds ((d, unit) :: run))) rest
  | speed {n : List Char} {x : Binary64} (unit : SpeedUnit) (rest : List Char) : NumberText n x →
      Reads units (n ++ (unit.symbol.toList ++ rest)) (.pace ⟨unit.perKilometer x, .speed⟩) rest
  /-- `1.5km`, but not the start of `5km/h`, nor of `5min` where the number
  is whole, nor `m` where `mi` stands -/
  | distance {n : List Char} {x : Binary64} (unit : LengthUnit) (rest : List Char) :
      NumberText n x → ¬ BeginsWith SpeedUnit.symbol (unit.symbol.toList ++ rest) →
      (Digits n → ¬ BeginsWith TimeUnit.symbol (unit.symbol.toList ++ rest)) →
      (unit = .meter → ¬ LengthUnit.mile.symbol.toList <+: unit.symbol.toList ++ rest) →
      Reads units (n ++ (unit.symbol.toList ++ rest)) (.distance (.plain (unit.toMeters x))) rest
  | constant {n : List Char} {x : Binary64} (rest : List Char) : NumberText n x → Ends rest →
      Reads units (n ++ rest) (.constant x) rest

/-! ## The matchers, by what the readers read -/

theorem findSome?_cons_or {α β : Type} (f : α → Option β) (a : α) (l : List α) :
    (a :: l).findSome? f = (f a).or (l.findSome? f) := by
  rw [List.findSome?_cons]
  cases f a <;> rfl

theorem matchToken_eq (units : UnitSystem) (s : List Char) :
    matchToken units s = (matchPace units s).or ((matchSpeed s).or ((matchDuration s).or
      ((matchOperator s).or ((matchDistance s).or ((matchMarathon s).or
        ((matchHalfMarathon s).or (matchConstant s))))))) := by
  unfold matchToken Matcher.first Matcher.all
  simp only [findSome?_cons_or, List.findSome?_nil, Option.or_none, Matcher.read]

section Readers

variable {units : UnitSystem} {s t u : List Char} {x y : Binary64}

theorem matchPace_of_noDigit (h : NoDigit s) : matchPace units s = none := by
  unfold matchPace
  rw [readInteger?_of_noDigit h]
  rfl

theorem matchPace_of_clock (hs : readInteger? s = some (x, t))
    (ht : readColonInteger? t = some (y, u)) :
    matchPace units s =
      ((readSymbol? PaceUnit.symbol PaceUnit.all u).map fun (unit, rest) =>
        (.pace ⟨unit.perKilometer (x * minuteSeconds + y), .pace⟩, rest)).or
      (if (readSymbol? TimeUnit.symbol TimeUnit.all u).isSome then none
        else some (.pace ⟨units.paceUnit.perKilometer (x * minuteSeconds + y), .pace⟩, u)) := by
  unfold matchPace optionally
  simp only [hs, ht, Option.bind_eq_bind, Option.bind_some, Option.getD_some, Option.isNone_some,
    Bool.or_false]
  cases readSymbol? PaceUnit.symbol PaceUnit.all u <;> rfl

theorem matchPace_of_integer (hs : readInteger? s = some (x, t))
    (ht : readColonInteger? t = none) :
    matchPace units s = (readSymbol? PaceUnit.symbol PaceUnit.all t).map fun (unit, rest) =>
      (.pace ⟨unit.perKilometer (x * minuteSeconds + 0), .pace⟩, rest) := by
  unfold matchPace optionally
  simp only [hs, ht, Option.bind_eq_bind, Option.bind_some, Option.getD_none, Option.isNone_none,
    Bool.or_true, if_true]
  cases readSymbol? PaceUnit.symbol PaceUnit.all t <;> rfl

theorem matchSpeed_of_number (hs : readNumber? s = some (x, t)) :
    matchSpeed s = (readSymbol? SpeedUnit.symbol SpeedUnit.all t).map fun (unit, rest) =>
      (.pace ⟨unit.perKilometer x, .speed⟩, rest) := by
  unfold matchSpeed
  simp only [hs, Option.bind_eq_bind, Option.bind_some]
  cases readSymbol? SpeedUnit.symbol SpeedUnit.all t <;> rfl

theorem matchDistance_of_number (hs : readNumber? s = some (x, t)) :
    matchDistance s = (readSymbol? LengthUnit.symbol LengthUnit.all t).map fun (unit, rest) =>
      (.distance (.plain (unit.toMeters x)), rest) := by
  unfold matchDistance
  simp only [hs, Option.bind_eq_bind, Option.bind_some]
  cases readSymbol? LengthUnit.symbol LengthUnit.all t <;> rfl

theorem matchConstant_of_number (hs : readNumber? s = some (x, t)) :
    matchConstant s =
      if t.isEmpty || (matchOperator t).isSome then some (.constant x, t) else none := by
  unfold matchConstant
  rw [hs]
  rfl

theorem matchClock_of_clock (hs : readInteger? s = some (x, t))
    (ht : readColonInteger? t = some (y, u)) (hu : readColonInteger? u = none) :
    matchClock s = (readSymbol? TimeUnit.symbol TimeUnit.all u).map fun (unit, rest) =>
      (.duration (unit.toSeconds x y 0), rest) := by
  unfold matchClock optionally
  simp only [hs, ht, hu, Option.bind_eq_bind, Option.bind_some, Option.getD_some,
    Option.getD_none]
  cases readSymbol? TimeUnit.symbol TimeUnit.all u <;> rfl

theorem matchClock_of_integer (hs : readInteger? s = some (x, t))
    (ht : readColonInteger? t = none) :
    matchClock s = (readSymbol? TimeUnit.symbol TimeUnit.all t).map fun (unit, rest) =>
      (.duration (unit.toSeconds x 0 0), rest) := by
  unfold matchClock optionally
  simp only [hs, ht, Option.bind_eq_bind, Option.bind_some, Option.getD_none]
  cases readSymbol? TimeUnit.symbol TimeUnit.all t <;> rfl

theorem matchOperator_of_not_beginsWith (h : ¬ BeginsWith Operator.symbol s) :
    matchOperator s = none := by
  unfold matchOperator
  rw [readSymbol?_eq_none _ h]
  rfl

theorem matchOperator_append (op : Operator) (rest : List Char) :
    matchOperator (op.symbol.toList ++ rest) = some (.operator op, rest) := by
  unfold matchOperator
  rw [Operator.prefixFree.readSymbol? op.mem_all]
  rfl

theorem matchMarathon_cons (c : Char) (s : List Char) :
    matchMarathon (c :: s) = if c = 'm' ∨ c = 'M' then some (.distance .marathon, s) else none := by
  unfold matchMarathon
  simp only [readKeyword?, toLower_eq_m]
  split <;> rfl

theorem matchHalfMarathon_of_other {c : Char} (h : ¬ (c = 'h' ∨ c = 'H')) (s : List Char) :
    matchHalfMarathon (c :: s) = none := by
  unfold matchHalfMarathon
  simp only [readKeyword?, toLower_eq_h, if_neg h]
  rfl

theorem matchHalfMarathon_cons (c d : Char) (s : List Char) :
    matchHalfMarathon (c :: d :: s) =
      if (c = 'h' ∨ c = 'H') ∧ (d = 'm' ∨ d = 'M') then some (.distance .halfMarathon, s)
      else none := by
  by_cases hc : c = 'h' ∨ c = 'H'
  · unfold matchHalfMarathon
    simp only [readKeyword?, toLower_eq_m, toLower_eq_h, if_pos hc]
    by_cases hd : d = 'm' ∨ d = 'M'
    · rw [if_pos hd, if_pos ⟨hc, hd⟩]
      rfl
    · rw [if_neg hd, if_neg (fun h => hd h.2)]
      rfl
  · rw [matchHalfMarathon_of_other hc, if_neg (fun h => hc h.1)]

end Readers

/-! ## Which matchers can accept -/

theorem not_digit_of_m {c : Char} (h : c = 'm' ∨ c = 'M') : c.isDigit = false := by
  rcases h with rfl | rfl <;> decide

theorem not_digit_of_h {c : Char} (h : c = 'h' ∨ c = 'H') : c.isDigit = false := by
  rcases h with rfl | rfl <;> decide

section NoDigits

variable {s : List Char}

theorem matchSpeed_of_noDigit (h : NoDigit s) : matchSpeed s = none := by
  rw [matchSpeed, readNumber?_of_noDigit h]
  rfl

theorem matchDuration_of_noDigit (h : NoDigit s) : matchDuration s = none := by
  have hcomponents : matchComponents s = none := by
    apply matchComponents_eq_none
    rintro d unit rest hd rfl
    exact hd.not_noDigit _ h
  rw [matchDuration, hcomponents, matchClock, readInteger?_of_noDigit h]
  rfl

theorem matchDistance_of_noDigit (h : NoDigit s) : matchDistance s = none := by
  rw [matchDistance, readNumber?_of_noDigit h]
  rfl

theorem matchConstant_of_noDigit (h : NoDigit s) : matchConstant s = none := by
  rw [matchConstant, readNumber?_of_noDigit h]
  rfl

end NoDigits

/-- A text that no digit begins is an operator, a race or nothing. -/
theorem matchToken_of_noDigit {units : UnitSystem} {s : List Char} (h : NoDigit s) :
    matchToken units s = (matchOperator s).or ((matchMarathon s).or (matchHalfMarathon s)) := by
  rw [matchToken_eq, matchPace_of_noDigit h, matchSpeed_of_noDigit h, matchDuration_of_noDigit h,
    matchDistance_of_noDigit h, matchConstant_of_noDigit h]
  simp only [Option.none_or, Option.or_none]

section Races

variable {s : List Char}

theorem matchMarathon_eq_none (h : ∀ c ∈ s.head?, ¬ (c = 'm' ∨ c = 'M')) :
    matchMarathon s = none := by
  cases s with
  | nil => rfl
  | cons c s => rw [matchMarathon_cons, if_neg (h c (by simp))]

theorem matchHalfMarathon_eq_none (h : ∀ c ∈ s.head?, ¬ (c = 'h' ∨ c = 'H')) :
    matchHalfMarathon s = none := by
  cases s with
  | nil => rfl
  | cons c s => exact matchHalfMarathon_of_other (h c (by simp)) s

end Races

section Digits

variable {d : List Char}

theorem matchMarathon_of_digits (hd : Digits d) (t : List Char) :
    matchMarathon (d ++ t) = none := by
  obtain ⟨c, e, rfl, hc⟩ := hd.exists_cons
  apply matchMarathon_eq_none
  rintro _ ⟨rfl⟩ hm
  rw [not_digit_of_m hm] at hc
  cases hc

theorem matchHalfMarathon_of_digits (hd : Digits d) (t : List Char) :
    matchHalfMarathon (d ++ t) = none := by
  obtain ⟨c, e, rfl, hc⟩ := hd.exists_cons
  apply matchHalfMarathon_eq_none
  rintro _ ⟨rfl⟩ hh
  rw [not_digit_of_h hh] at hc
  cases hc

theorem matchOperator_of_digits (hd : Digits d) (t : List Char) :
    matchOperator (d ++ t) = none :=
  matchOperator_of_not_beginsWith (Operator.words.not_beginsWith_digits hd t)

/-- A text that digits begin is none of these. -/
theorem matchToken_of_digits {units : UnitSystem} (hd : Digits d)
    (t : List Char) : matchToken units (d ++ t) = (matchPace units (d ++ t)).or
      ((matchSpeed (d ++ t)).or ((matchDuration (d ++ t)).or
        ((matchDistance (d ++ t)).or (matchConstant (d ++ t))))) := by
  rw [matchToken_eq, matchOperator_of_digits hd, matchMarathon_of_digits hd,
    matchHalfMarathon_of_digits hd]
  simp only [Option.none_or]

end Digits

theorem matchComponents_of_no_time {d t : List Char} (hd : Digits d) (ht : NoDigit t)
    (h : ¬ BeginsWith TimeUnit.symbol t) : matchComponents (d ++ t) = none := by
  apply matchComponents_eq_none
  intro e unit rest he hs
  have hbreaks := TimeUnit.words.breaks (beginsWith_append TimeUnit.symbol unit rest)
  obtain ⟨_, rfl⟩ := digits_append_inj hd he ht hbreaks.noDigit hs
  exact h (beginsWith_append TimeUnit.symbol unit rest)

theorem matchDuration_of_no_time {d t : List Char} (hd : Digits d) (ht : NoDigit t)
    (hcolon : readColonInteger? t = none) (h : ¬ BeginsWith TimeUnit.symbol t) :
    matchDuration (d ++ t) = none := by
  rw [matchDuration, matchComponents_of_no_time hd ht h,
    matchClock_of_integer (readInteger?_digits hd ht) hcolon, readSymbol?_eq_none _ h]
  rfl

theorem noDigit_colon (s : List Char) : NoDigit (':' :: s) := by simp [NoDigit]

theorem noDigit_point (s : List Char) : NoDigit ('.' :: s) := by simp [NoDigit]

theorem not_operator_of_race {c : Char} (h : (c = 'm' ∨ c = 'M') ∨ c = 'h' ∨ c = 'H')
    (s : List Char) : ¬ BeginsWith Operator.symbol (c :: s) := by
  apply Operator.words.not_beginsWith_cons
  intro op
  rcases h with (rfl | rfl) | rfl | rfl <;> cases op <;> decide

/-- Each unit of pace begins with `min`. -/
theorem beginsWith_time_of_pace {s : List Char} (h : BeginsWith PaceUnit.symbol s) :
    BeginsWith TimeUnit.symbol s := by
  obtain ⟨unit, hunit⟩ := h
  refine ⟨.minute, List.IsPrefix.trans ?_ hunit⟩
  cases unit <;> decide

theorem Ends.breaks {s : List Char} (h : Ends s) : Breaks s := by
  rcases h with rfl | h
  · exact breaks_nil
  · exact Operator.words.breaks h

theorem Ends.not_beginsWith {α : Type} {symbol : α → String} {s : List Char} (h : Ends s)
    (hwords : Words symbol) (hapart : Apart Operator.symbol symbol) : ¬ BeginsWith symbol s := by
  rcases h with rfl | h
  · exact hwords.not_beginsWith_nil
  · exact hapart.not_beginsWith h

theorem matchConstant_of_not_ends {s t : List Char} {x : Binary64}
    (hs : readNumber? s = some (x, t)) (ht : ¬ Ends t) : matchConstant s = none := by
  have hop : ¬ BeginsWith Operator.symbol t := fun h => ht (Or.inr h)
  have hne : t.isEmpty = false := by
    rcases t with _ | ⟨c, t⟩
    · exact absurd (Or.inl rfl) ht
    · rfl
  rw [matchConstant_of_number hs, matchOperator_of_not_beginsWith hop, hne]
  rfl

/-! ## Numbers and what stands behind them -/

section Numbers

variable {units : UnitSystem} {n t : List Char} {x : Binary64}

theorem matchToken_of_number (hn : NumberText n x) :
    matchToken units (n ++ t) = (matchPace units (n ++ t)).or ((matchSpeed (n ++ t)).or
      ((matchDuration (n ++ t)).or ((matchDistance (n ++ t)).or (matchConstant (n ++ t))))) := by
  cases hn with
  | whole hd => exact matchToken_of_digits hd t
  | @decimal d f hd hf =>
    rw [List.append_assoc]
    exact matchToken_of_digits hd _

theorem matchPace_of_number (hn : NumberText n x) (ht : Breaks t)
    (h : Digits n → ¬ BeginsWith PaceUnit.symbol t) : matchPace units (n ++ t) = none := by
  cases hn with
  | whole hd =>
    rw [matchPace_of_integer (readInteger?_digits hd ht.noDigit) (readColonInteger?_of_breaks ht),
      readSymbol?_eq_none _ (h hd)]
    rfl
  | @decimal d f hd hf =>
    rw [List.append_assoc, List.cons_append,
      matchPace_of_integer (readInteger?_digits hd (noDigit_point _)) rfl,
      readSymbol?_eq_none _ (PaceUnit.words.not_beginsWith_point _)]
    rfl

theorem matchDuration_of_number (hn : NumberText n x) (ht : Breaks t)
    (h : Digits n → ¬ BeginsWith TimeUnit.symbol t) : matchDuration (n ++ t) = none := by
  cases hn with
  | whole hd =>
    exact matchDuration_of_no_time hd ht.noDigit (readColonInteger?_of_breaks ht) (h hd)
  | @decimal d f hd hf =>
    rw [List.append_assoc, List.cons_append]
    exact matchDuration_of_no_time hd (noDigit_point _) rfl (TimeUnit.words.not_beginsWith_point _)

end Numbers

/-! ## What the grammar reads is what is matched -/

theorem matchToken_of_reads {units : UnitSystem} {s rest : List Char} {v : Value}
    (h : Reads units s v rest) : matchToken units s = some (v, rest) := by
  cases h with
  | operator op rest =>
    have hbreaks := Operator.words.breaks (beginsWith_append Operator.symbol op rest)
    rw [matchToken_of_noDigit hbreaks.noDigit, matchOperator_append]
    rfl
  | @marathon c rest hc =>
    have hdigit : NoDigit (c :: rest) := by simpa [NoDigit] using not_digit_of_m hc
    rw [matchToken_of_noDigit hdigit,
      matchOperator_of_not_beginsWith (not_operator_of_race (Or.inl hc) _), matchMarathon_cons,
      if_pos hc]
    rfl
  | @halfMarathon c d rest hc hd =>
    have hdigit : NoDigit (c :: d :: rest) := by simpa [NoDigit] using not_digit_of_h hc
    have hm : ¬ (c = 'm' ∨ c = 'M') := by rcases hc with rfl | rfl <;> decide
    rw [matchToken_of_noDigit hdigit,
      matchOperator_of_not_beginsWith (not_operator_of_race (Or.inr hc) _), matchMarathon_cons,
      if_neg hm, matchHalfMarathon_cons, if_pos ⟨hc, hd⟩]
    rfl
  | @clockPace d e unit rest hd he =>
    have hbreaks := PaceUnit.words.breaks (beginsWith_append PaceUnit.symbol unit rest)
    rw [matchToken_of_digits hd, matchPace_of_clock (readInteger?_digits hd (noDigit_colon _))
      (readColonInteger?_digits he hbreaks.noDigit),
      PaceUnit.prefixFree.readSymbol? unit.mem_all]
    rfl
  | @clock d e unit rest hd he hpace =>
    have hbreaks := TimeUnit.words.breaks (beginsWith_append TimeUnit.symbol unit rest)
    have hint := readInteger?_digits hd (noDigit_colon (e ++ (unit.symbol.toList ++ rest)))
    have hcolon := readColonInteger?_digits he hbreaks.noDigit
    have htime := TimeUnit.prefixFree.readSymbol? unit.mem_all rest
    rw [matchToken_of_digits hd, matchPace_of_clock hint hcolon, readSymbol?_eq_none _ hpace,
      matchSpeed_of_number (readNumber?_colon hd _),
      readSymbol?_eq_none _ (SpeedUnit.words.not_beginsWith_colon _), matchDuration,
      matchComponents_of_no_time hd (noDigit_colon _) (TimeUnit.words.not_beginsWith_colon _),
      matchClock_of_clock hint hcolon (readColonInteger?_of_breaks hbreaks), htime]
    rfl
  | @barePace d e rest hd he hrest hpace htime =>
    rw [matchToken_of_digits hd, matchPace_of_clock (readInteger?_digits hd (noDigit_colon _))
      (readColonInteger?_digits he hrest), readSymbol?_eq_none _ hpace, readSymbol?_eq_none _ htime]
    rfl
  | @wholePace d unit rest hd =>
    have hbreaks := PaceUnit.words.breaks (beginsWith_append PaceUnit.symbol unit rest)
    obtain ⟨u, hu, hminute, hne⟩ := exists_minuteSeconds
    have hsum : digitsNumber d 0 * minuteSeconds + 0 = digitsNumber d 0 * minuteSeconds := by
      rw [hminute]
      exact ((nonNegative_digitsNumber d 0).mul_finite hne).add_zero
    rw [matchToken_of_digits hd, matchPace_of_integer (readInteger?_digits hd hbreaks.noDigit)
      (readColonInteger?_of_breaks hbreaks), PaceUnit.prefixFree.readSymbol? unit.mem_all,
      Option.map_some, hsum]
    rfl
  | @components d unit run rest hrun hpace hlongest =>
    have hd : Digits d := hrun.digits (d, unit) (by simp)
    have htime := beginsWith_append TimeUnit.symbol unit (run.text ++ rest)
    have hbreaks := TimeUnit.words.breaks htime
    have hmatch := matchComponents_of_longest (List.cons_ne_nil _ _) hrun hlongest
    rw [Components.text_cons] at hmatch ⊢
    rw [matchToken_of_digits hd, matchPace_of_number (.whole hd) hbreaks (fun _ => hpace),
      matchSpeed_of_number (readNumber?_append (.whole hd) hbreaks),
      readSymbol?_eq_none _ (fun h => SpeedUnit.apart_time.not_beginsWith h htime), matchDuration,
      hmatch]
    rfl
  | @speed n x unit rest hn =>
    have hspeed := beginsWith_append SpeedUnit.symbol unit rest
    have hbreaks := SpeedUnit.words.breaks hspeed
    rw [matchToken_of_number hn,
      matchPace_of_number hn hbreaks (fun _ => SpeedUnit.apart_pace.not_beginsWith hspeed),
      matchSpeed_of_number (readNumber?_append hn hbreaks),
      SpeedUnit.prefixFree.readSymbol? unit.mem_all]
    rfl
  | @distance n x unit rest hn hspeed htime hmile =>
    have hbreaks := LengthUnit.words.breaks (beginsWith_append LengthUnit.symbol unit rest)
    have hread := readNumber?_append hn hbreaks
    rw [matchToken_of_number hn,
      matchPace_of_number hn hbreaks (fun hd h => htime hd (beginsWith_time_of_pace h)),
      matchSpeed_of_number hread, readSymbol?_eq_none _ hspeed,
      matchDuration_of_number hn hbreaks htime, matchDistance_of_number hread,
      readSymbol?_length unit rest hmile]
    rfl
  | @constant n x rest hn hrest =>
    have hbreaks := hrest.breaks
    have hread := readNumber?_append hn hbreaks
    have hnext : (rest.isEmpty || (matchOperator rest).isSome) = true := by
      rcases hrest with rfl | ⟨op, t, rfl⟩
      · rfl
      · rw [matchOperator_append]
        simp
    rw [matchToken_of_number hn, matchPace_of_number hn hbreaks
        (fun _ => hrest.not_beginsWith PaceUnit.words Operator.apart_pace),
      matchSpeed_of_number hread,
      readSymbol?_eq_none _ (hrest.not_beginsWith SpeedUnit.words Operator.apart_speed),
      matchDuration_of_number hn hbreaks
        (fun _ => hrest.not_beginsWith TimeUnit.words Operator.apart_time),
      matchDistance_of_number hread,
      readSymbol?_eq_none _ (hrest.not_beginsWith LengthUnit.words Operator.apart_length),
      matchConstant_of_number hread, if_pos hnext]
    rfl

/-! ## Where the grammar reads nothing, nothing is matched -/

/-- A text without a digit at its start is read, or no matcher takes it. -/
theorem reads_or_none_of_noDigit (units : UnitSystem) {s : List Char} (hs : NoDigit s) :
    (∃ v rest, Reads units s v rest) ∨ matchToken units s = none := by
  by_cases hop : BeginsWith Operator.symbol s
  · obtain ⟨op, rest, rfl⟩ := hop
    exact Or.inl ⟨_, _, .operator op rest⟩
  · rw [matchToken_of_noDigit hs, matchOperator_of_not_beginsWith hop]
    rcases s with _ | ⟨c, s⟩
    · exact Or.inr rfl
    by_cases hm : c = 'm' ∨ c = 'M'
    · exact Or.inl ⟨_, _, .marathon s hm⟩
    rw [matchMarathon_cons, if_neg hm]
    rcases s with _ | ⟨d, s⟩
    · right
      simp only [matchHalfMarathon, readKeyword?, ite_self]
      rfl
    by_cases hhm : (c = 'h' ∨ c = 'H') ∧ (d = 'm' ∨ d = 'M')
    · exact Or.inl ⟨_, _, .halfMarathon s hhm.1 hhm.2⟩
    · rw [matchHalfMarathon_cons, if_neg hhm]
      exact Or.inr rfl

/-- Digits, a colon and digits always begin a pace or a time. -/
theorem reads_of_colon (units : UnitSystem) {d e t : List Char} (hd : Digits d) (he : Digits e)
    (ht : NoDigit t) : ∃ v rest, Reads units (d ++ ':' :: (e ++ t)) v rest := by
  by_cases hpace : BeginsWith PaceUnit.symbol t
  · obtain ⟨unit, rest, rfl⟩ := hpace
    exact ⟨_, _, .clockPace unit rest hd he⟩
  by_cases htime : BeginsWith TimeUnit.symbol t
  · obtain ⟨unit, rest, rfl⟩ := htime
    exact ⟨_, _, .clock unit rest hd he hpace⟩
  · exact ⟨_, _, .barePace t hd he ht hpace htime⟩

/-- A whole number with a unit of time behind it begins a run of components. -/
theorem reads_of_time (units : UnitSystem) {d t : List Char} (hd : Digits d) (ht : NoDigit t)
    (hpace : ¬ BeginsWith PaceUnit.symbol t) (htime : BeginsWith TimeUnit.symbol t) :
    ∃ seconds rest, Reads units (d ++ t) (.duration seconds) rest := by
  rcases matchComponents_cases (d ++ t) with ⟨_, hno⟩ | ⟨run, rest, hne, hrun, htext, _, hmax⟩
  · obtain ⟨unit, rest, rfl⟩ := htime
    exact absurd rfl (hno d unit rest hd)
  · rcases run with _ | ⟨⟨e, unit⟩, run⟩
    · exact absurd rfl hne
    have hbehind := htext
    rw [Components.text_cons] at hbehind
    have hbreaks := TimeUnit.words.breaks
      (beginsWith_append TimeUnit.symbol unit (Components.text run ++ rest))
    obtain ⟨_, rfl⟩ := digits_append_inj hd (hrun.digits (e, unit) (by simp)) ht hbreaks.noDigit
      hbehind
    have hlongest := longest_of_prefix hmax
    rw [htext] at hlongest ⊢
    exact ⟨_, _, .components rest hrun hpace hlongest⟩

/-- A number is read with what stands behind it, or no matcher takes it. -/
theorem reads_or_none_of_number {units : UnitSystem} {n t : List Char} {x : Binary64}
    (hn : NumberText n x) (hread : readNumber? (n ++ t) = some (x, t))
    (hpace : matchPace units (n ++ t) = none) (hduration : matchDuration (n ++ t) = none)
    (htime : Digits n → ¬ BeginsWith TimeUnit.symbol t) :
    (∃ v rest, Reads units (n ++ t) v rest) ∨ matchToken units (n ++ t) = none := by
  by_cases hspeed : BeginsWith SpeedUnit.symbol t
  · obtain ⟨unit, rest, rfl⟩ := hspeed
    exact Or.inl ⟨_, _, .speed unit rest hn⟩
  by_cases hlength : BeginsWith LengthUnit.symbol t
  · by_cases hmile : LengthUnit.mile.symbol.toList <+: t
    · obtain ⟨rest, rfl⟩ := hmile
      exact Or.inl ⟨_, _, .distance .mile rest hn hspeed htime (by simp)⟩
    · obtain ⟨unit, rest, rfl⟩ := hlength
      exact Or.inl ⟨_, _, .distance unit rest hn hspeed htime (fun _ => hmile)⟩
  by_cases hends : Ends t
  · exact Or.inl ⟨_, _, .constant t hn hends⟩
  · right
    rw [matchToken_of_number hn, hpace, matchSpeed_of_number hread, readSymbol?_eq_none _ hspeed,
      hduration, matchDistance_of_number hread, readSymbol?_eq_none _ hlength,
      matchConstant_of_not_ends hread hends]
    rfl

theorem reads_or_none (units : UnitSystem) (s : List Char) :
    (∃ v rest, Reads units s v rest) ∨ matchToken units s = none := by
  rcases noDigit_or_digits s with hs | ⟨d, t, hd, ht, rfl⟩
  · exact reads_or_none_of_noDigit units hs
  rcases readColonInteger?_cases t with hcolon | ⟨e, u, he, hu, rfl⟩
  · by_cases hpace : BeginsWith PaceUnit.symbol t
    · obtain ⟨unit, rest, rfl⟩ := hpace
      exact Or.inl ⟨_, _, .wholePace unit rest hd⟩
    by_cases htime : BeginsWith TimeUnit.symbol t
    · obtain ⟨_, _, hreads⟩ := reads_of_time units hd ht hpace htime
      exact Or.inl ⟨_, _, hreads⟩
    have hnoPace : matchPace units (d ++ t) = none := by
      rw [matchPace_of_integer (readInteger?_digits hd ht) hcolon, readSymbol?_eq_none _ hpace]
      rfl
    have hnoDuration := matchDuration_of_no_time hd ht hcolon htime
    have hread := readNumber?_digits hd ht
    rcases readPlaces_cases t with hplaces | ⟨f, u, hf, hu, rfl⟩
    · rw [hplaces] at hread
      exact reads_or_none_of_number (.whole hd) (by simpa using hread) hnoPace hnoDuration
        (fun _ => htime)
    · rw [readPlaces_digits hf hu] at hread
      have htext : d ++ '.' :: (f ++ u) = (d ++ '.' :: f) ++ u := by simp
      rw [htext] at hread hnoPace hnoDuration ⊢
      exact reads_or_none_of_number (.decimal hd hf) hread hnoPace hnoDuration
        fun hdigits => absurd hdigits (not_digits_decimal d f)
  · exact Or.inl (reads_of_colon units hd he hu)

theorem reads_of_matchToken {units : UnitSystem} {s rest : List Char} {v : Value}
    (h : matchToken units s = some (v, rest)) : Reads units s v rest := by
  rcases reads_or_none units s with ⟨w, left, hreads⟩ | hnone
  · rw [matchToken_of_reads hreads] at h
    cases h
    exact hreads
  · rw [hnone] at h
    cases h

/-! ## The law -/

/-- The matchers in their order read what the grammar reads, and no more. The
grammar reads one token at most, and one operator at most begins a text. -/
theorem a_token_is_what_the_grammar_reads (units : UnitSystem) (s : List Char) :
    (∀ v rest, matchToken units s = some (v, rest) ↔ Reads units s v rest) ∧
    (matchToken units s = none ↔ ∀ v rest, ¬ Reads units s v rest) ∧
    (∀ v w rest left, Reads units s v rest → Reads units s w left → v = w ∧ rest = left) ∧
    ∀ op other : Operator, op.symbol.toList <+: s → other.symbol.toList <+: s → op = other := by
  refine ⟨fun v rest => ⟨reads_of_matchToken, matchToken_of_reads⟩, ?_, ?_, ?_⟩
  · constructor
    · intro hnone v rest h
      rw [matchToken_of_reads h] at hnone
      cases hnone
    · intro h
      rcases reads_or_none units s with ⟨v, rest, hreads⟩ | hnone
      · exact absurd hreads (h v rest)
      · exact hnone
  · intro v w rest left hv hw
    have heq := (matchToken_of_reads hv).symm.trans (matchToken_of_reads hw)
    cases heq
    exact ⟨rfl, rfl⟩
  · exact fun op other => Operator.prefixFree.eq

/-- The longest run of components wins over the pace that its end begins. -/
theorem the_grammar_reads_hours_and_minutes :
    matchToken .metric "1h30min/km".toList = some (.duration 5400, "/km".toList) ∧
      Reads .metric "1h30min/km".toList (.duration 5400) "/km".toList := by
  have h : matchToken .metric "1h30min/km".toList = some (.duration 5400, "/km".toList) := by
    decide +kernel
  exact ⟨h, ((a_token_is_what_the_grammar_reads .metric _).1 _ _).1 h⟩

end Stride
