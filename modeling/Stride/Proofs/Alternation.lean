-- Expressions that are written with blanks between the operands and the
-- operators. Blanks count for nothing, so an operand must end where the
-- operator behind it begins: all do, but for meters before `in`, where the
-- `m` goes on with it to `min` and `mi`.
import Stride.Proofs.Slices

namespace Stride

/-! ## Texts without blanks -/

def Solid (s : List Char) : Prop := ∀ c ∈ s, isBlank c = false

instance (s : List Char) : Decidable (Solid s) := List.decidableBAll (fun c => isBlank c = false) s

theorem solid_append {s t : List Char} : Solid (s ++ t) ↔ Solid s ∧ Solid t := by
  unfold Solid
  simp only [List.mem_append, or_imp, forall_and]

theorem solid_cons {c : Char} {s : List Char} : Solid (c :: s) ↔ isBlank c = false ∧ Solid s := by
  unfold Solid
  rw [List.forall_mem_cons]

theorem Solid.withoutBlanks {s : List Char} (h : Solid s) : withoutBlanks s = s := by
  unfold Stride.withoutBlanks
  rw [List.filter_eq_self]
  intro c hc
  rw [h c hc]
  rfl

theorem withoutBlanks_append (s t : List Char) :
    withoutBlanks (s ++ t) = withoutBlanks s ++ withoutBlanks t :=
  List.filter_append s t

theorem not_blank_of_digit {c : Char} (h : c.isDigit = true) : isBlank c = false := by
  have hrange : 48 ≤ c.toNat ∧ c.toNat ≤ 57 := by
    simp only [Char.isDigit, Bool.and_eq_true, decide_eq_true_eq] at h
    exact h
  simp only [isBlank, inRanges, blankRanges, List.any_cons, List.any_nil, Bool.or_false,
    Bool.or_eq_false_iff, Bool.and_eq_false_iff, decide_eq_false_iff_not]
  omega

theorem Digits.solid {d : List Char} (h : Digits d) : Solid d :=
  fun c hc => not_blank_of_digit (h.2 c hc)

theorem NumberText.solid {n : List Char} {x : Binary64} (h : NumberText n x) : Solid n := by
  cases h with
  | whole hd => exact hd.solid
  | decimal hd hf => exact solid_append.2 ⟨hd.solid, solid_cons.2 ⟨by decide, hf.solid⟩⟩

theorem PaceUnit.solid (u : PaceUnit) : Solid u.symbol.toList := by cases u <;> decide
theorem SpeedUnit.solid (u : SpeedUnit) : Solid u.symbol.toList := by cases u <;> decide
theorem LengthUnit.solid (u : LengthUnit) : Solid u.symbol.toList := by cases u <;> decide
theorem TimeUnit.solid (u : TimeUnit) : Solid u.symbol.toList := by cases u <;> decide
theorem Operator.solid (op : Operator) : Solid op.symbol.toList := by cases op <;> decide

theorem Components.solid {run : Components} (h : ∀ c ∈ run, Digits c.1) : Solid run.text := by
  induction run with
  | nil => intro c hc; cases hc
  | cons c run ih =>
    obtain ⟨d, unit⟩ := c
    rw [Components.text_first]
    have hrun := ih fun c hc => h c (List.mem_cons_of_mem _ hc)
    exact solid_append.2 ⟨(h (d, unit) (by simp)).solid, solid_append.2 ⟨unit.solid, hrun⟩⟩

/-- A token has no blank in it. -/
theorem solid_of_reads {units : UnitSystem} {s : List Char} {v : Value}
    (h : Reads units s v []) : Solid s := by
  have hnil : Solid [] := by decide
  cases h with
  | operator op => exact solid_append.2 ⟨op.solid, hnil⟩
  | marathon _ hc => rcases hc with rfl | rfl <;> decide
  | halfMarathon _ hc hd => rcases hc with rfl | rfl <;> rcases hd with rfl | rfl <;> decide
  | clockPace unit _ hd he =>
    refine solid_append.2 ⟨hd.solid, solid_cons.2 ⟨by decide, solid_append.2 ⟨he.solid, ?_⟩⟩⟩
    exact solid_append.2 ⟨unit.solid, hnil⟩
  | clock unit _ hd he =>
    refine solid_append.2 ⟨hd.solid, solid_cons.2 ⟨by decide, solid_append.2 ⟨he.solid, ?_⟩⟩⟩
    exact solid_append.2 ⟨unit.solid, hnil⟩
  | barePace _ hd he =>
    exact solid_append.2 ⟨hd.solid, solid_cons.2 ⟨by decide, solid_append.2 ⟨he.solid, hnil⟩⟩⟩
  | wholePace unit _ hd =>
    exact solid_append.2 ⟨hd.solid, solid_append.2 ⟨unit.solid, hnil⟩⟩
  | components _ hrun => exact solid_append.2 ⟨Components.solid hrun.digits, hnil⟩
  | speed unit _ hn => exact solid_append.2 ⟨hn.solid, solid_append.2 ⟨unit.solid, hnil⟩⟩
  | distance unit _ hn => exact solid_append.2 ⟨hn.solid, solid_append.2 ⟨unit.solid, hnil⟩⟩
  | constant _ hn => exact solid_append.2 ⟨hn.solid, hnil⟩

/-! ## An operand before an operator -/

/-- A number of meters, as in `400m` or `1.5m`. -/
def InMeters (s : List Char) : Prop :=
  ∃ n x, NumberText n x ∧ s = n ++ LengthUnit.meter.symbol.toList

section BeforeOperator

variable (op : Operator) (rest : List Char)

theorem prefix_unit_operator (unit : String) :
    unit.toList ++ op.symbol.toList <+: unit.toList ++ (op.symbol.toList ++ rest) := by
  rw [← List.append_assoc]
  exact List.prefix_append _ _

theorem TimeUnit.not_pace_before_operator (unit : TimeUnit) :
    ¬ BeginsWith PaceUnit.symbol (unit.symbol.toList ++ (op.symbol.toList ++ rest)) := by
  apply not_beginsWith_of_prefix (prefix_unit_operator op rest unit.symbol)
  intro pace
  cases unit <;> cases op <;> cases pace <;> decide

theorem LengthUnit.not_speed_before_operator (unit : LengthUnit) :
    ¬ BeginsWith SpeedUnit.symbol (unit.symbol.toList ++ (op.symbol.toList ++ rest)) := by
  apply not_beginsWith_of_prefix (prefix_unit_operator op rest unit.symbol)
  intro speed
  cases unit <;> cases op <;> cases speed <;> decide

/-- Only the `m` of meters and `in` go together to a unit of time. -/
theorem LengthUnit.not_time_before_operator {unit : LengthUnit}
    (h : ¬ (unit = .meter ∧ op = .inWord)) :
    ¬ BeginsWith TimeUnit.symbol (unit.symbol.toList ++ (op.symbol.toList ++ rest)) := by
  apply not_beginsWith_of_prefix (prefix_unit_operator op rest unit.symbol)
  intro time
  revert h
  cases unit <;> cases op <;> cases time <;> decide

theorem not_mile_before_operator (h : op ≠ .inWord) : ¬ LengthUnit.mile.symbol.toList <+:
    LengthUnit.meter.symbol.toList ++ (op.symbol.toList ++ rest) := by
  apply not_prefix_of_prefix (prefix_unit_operator op rest LengthUnit.meter.symbol)
  revert h
  cases op <;> decide

/-- Behind the unit of a component stand its operator or the digits of the next one. -/
theorem not_pace_of_components {d : List Char} {unit : TimeUnit} {run : Components}
    (hrun : ∀ c ∈ (d, unit) :: run, Digits c.1) :
    ¬ BeginsWith PaceUnit.symbol
      (unit.symbol.toList ++ (Components.text run ++ (op.symbol.toList ++ rest))) := by
  rcases run with _ | ⟨⟨e, next⟩, run⟩
  · exact unit.not_pace_before_operator op rest
  · obtain ⟨c, e, rfl, hc⟩ := (hrun (e, next) (by simp)).exists_cons
    apply not_beginsWith_of_prefix (u := unit.symbol.toList ++ [c])
    · rw [Components.text_cons, List.prefix_append_right_inj]
      exact ⟨_, rfl⟩
    · intro pace
      have hslash : c ≠ '/' := by
        rintro rfl
        cases hc
      cases unit <;> cases pace <;>
        simp [TimeUnit.symbol, PaceUnit.symbol, hslash]

end BeforeOperator

/-- An operand is read alike with an operator behind it, unless they are
meters and `in`. -/
theorem Reads.before_operator {units : UnitSystem} {s : List Char} {v : Value}
    (h : Reads units s v []) (op : Operator) (rest : List Char)
    (hmeters : ¬ (InMeters s ∧ op = .inWord)) :
    Reads units (s ++ (op.symbol.toList ++ rest)) v (op.symbol.toList ++ rest) := by
  have hop := beginsWith_append Operator.symbol op rest
  have hbreaks := Operator.words.breaks hop
  cases h with
  | operator other =>
    rw [List.append_nil]
    exact .operator other _
  | marathon _ hc => exact .marathon (op.symbol.toList ++ rest) hc
  | halfMarathon _ hc hd => exact .halfMarathon (op.symbol.toList ++ rest) hc hd
  | clockPace unit _ hd he =>
    simp only [List.append_nil, List.append_assoc, List.cons_append]
    exact .clockPace unit _ hd he
  | clock unit _ hd he =>
    simp only [List.append_nil, List.append_assoc, List.cons_append]
    exact .clock unit _ hd he (unit.not_pace_before_operator op rest)
  | barePace _ hd he =>
    simp only [List.append_nil, List.append_assoc, List.cons_append]
    exact .barePace _ hd he hbreaks.noDigit (Operator.apart_pace.not_beginsWith hop)
      (Operator.apart_time.not_beginsWith hop)
  | wholePace unit _ hd =>
    simp only [List.append_nil, List.append_assoc]
    exact .wholePace unit _ hd
  | components _ hrun =>
    -- An operator begins with no digit, so the run stays the longest.
    rw [List.append_nil]
    exact .components _ hrun (not_pace_of_components op rest hrun.digits)
      (longest_of_noDigit hrun.digits hbreaks.noDigit)
  | speed unit _ hn =>
    simp only [List.append_nil, List.append_assoc]
    exact .speed unit _ hn
  | @distance n x unit _ hn =>
    rw [List.append_nil] at hmeters ⊢
    have hin : ¬ (unit = .meter ∧ op = .inWord) := by
      rintro ⟨rfl, hop⟩
      exact hmeters ⟨⟨n, x, hn, rfl⟩, hop⟩
    rw [List.append_assoc]
    refine .distance unit _ hn (unit.not_speed_before_operator op rest)
      (fun _ => LengthUnit.not_time_before_operator op rest hin) ?_
    rintro rfl
    exact not_mile_before_operator op rest fun hop => hin ⟨rfl, hop⟩
  | constant _ hn =>
    rw [List.append_nil]
    exact .constant _ hn (Or.inr hop)

/-! ## Meters before `in` -/

section Meters

variable (units : UnitSystem) (rest : List Char)

/-- Digits and `min` are a pace or a time, whatever stands behind them. -/
theorem no_distance_of_minutes {d : List Char} (hd : Digits d) :
    ∃ v left, matchToken units (d ++ (TimeUnit.minute.symbol.toList ++ rest)) = some (v, left) ∧
      v.isDistance = false := by
  have htime := beginsWith_append TimeUnit.symbol .minute rest
  by_cases hpace : BeginsWith PaceUnit.symbol (TimeUnit.minute.symbol.toList ++ rest)
  · obtain ⟨pace, left, hpace⟩ := hpace
    rw [← hpace]
    exact ⟨_, _, matchToken_of_reads (.wholePace pace left hd), rfl⟩
  · obtain ⟨seconds, left, hreads⟩ :=
      reads_of_time units hd (TimeUnit.words.breaks htime).noDigit hpace htime
    exact ⟨_, _, matchToken_of_reads hreads, rfl⟩

/-- No token begins with the `n` that is left where `mi` is read of `min`. -/
theorem matchToken_n : matchToken units ('n' :: rest) = none := by
  have hoperator : ¬ BeginsWith Operator.symbol ('n' :: rest) := by
    apply Operator.words.not_beginsWith_cons
    intro op
    cases op <;> decide
  have hm : ¬ ('n' = 'm' ∨ 'n' = 'M') := by decide
  have hh : ¬ ('n' = 'h' ∨ 'n' = 'H') := by decide
  rw [matchToken_of_noDigit (by simp [NoDigit]), matchOperator_of_not_beginsWith hoperator,
    matchMarathon_cons, if_neg hm, matchHalfMarathon_of_other hh rest]
  rfl

/-- A number with a point is never a time, so of `1.5min` it reads miles. -/
theorem matchToken_of_decimal_minutes {d f : List Char} (hd : Digits d) (hf : Digits f) :
    matchToken units ((d ++ '.' :: f) ++ (TimeUnit.minute.symbol.toList ++ rest)) =
      some (.distance (.plain (LengthUnit.mile.toMeters (digitsNumber (d ++ f) f.length))),
        'n' :: rest) := by
  have hspeed : ¬ BeginsWith SpeedUnit.symbol (LengthUnit.mile.symbol.toList ++ 'n' :: rest) := by
    apply not_beginsWith_of_prefix (List.prefix_append TimeUnit.minute.symbol.toList rest)
    intro unit
    cases unit <;> decide
  exact matchToken_of_reads (.distance .mile _ (.decimal hd hf) hspeed
    (fun h => absurd h (not_digits_decimal d f)) (by simp))

/-- The `m` of meters and the `in` behind it are read as minutes or miles, and
miles leave an `n` behind that no token begins with. -/
theorem misread_meters {n : List Char} {x : Binary64} (hn : NumberText n x) {v : Value}
    (hv : v.isDistance = true) (parts : List Value) :
    readTokens units ((n ++ LengthUnit.meter.symbol.toList) ++
      (Operator.inWord.symbol.toList ++ rest)) ≠ (v :: parts, []) := by
  intro h
  have hminutes : (n ++ LengthUnit.meter.symbol.toList) ++
      (Operator.inWord.symbol.toList ++ rest) = n ++ (TimeUnit.minute.symbol.toList ++ rest) := by
    rw [List.append_assoc]
    rfl
  rw [hminutes] at h
  cases hn with
  | whole hd =>
    obtain ⟨w, left, hmatch, hw⟩ := no_distance_of_minutes units rest hd
    rw [readTokens_of_some hmatch, Prod.mk.injEq, List.cons.injEq] at h
    rw [h.1.1, hv] at hw
    cases hw
  | decimal hd hf =>
    rw [readTokens_of_some (matchToken_of_decimal_minutes units rest hd hf),
      readTokens_of_none (matchToken_n units rest)] at h
    cases h

/-- Meters are read as a distance where nothing stands behind them. -/
theorem matchToken_meters {n : List Char} {x : Binary64} (hn : NumberText n x) :
    matchToken units (n ++ LengthUnit.meter.symbol.toList) = some (.distance (.plain x), []) := by
  have hspeed : ¬ BeginsWith SpeedUnit.symbol LengthUnit.meter.symbol.toList := by
    rintro ⟨unit, h⟩
    revert h
    cases unit <;> decide
  have htime : ¬ BeginsWith TimeUnit.symbol LengthUnit.meter.symbol.toList := by
    rintro ⟨unit, h⟩
    revert h
    cases unit <;> decide
  exact matchToken_of_reads (.distance .meter [] hn hspeed (fun _ => htime) (by decide))

end Meters

/-! ## Operands and operators in turn -/

/-- A text that is one token on its own, and no operator. -/
structure Operand (units : UnitSystem) where
  text : String
  value : Value
  read : matchToken units text.toList = some (value, [])
  plain : value.isOperator = false

/-- An operand, and more of them with an operator before each. -/
structure Alternation (units : UnitSystem) where
  first : Operand units
  more : List (Operator × Operand units)

namespace Alternation

variable {units : UnitSystem}

/-- The texts, each with its value. -/
def words (e : Alternation units) : List (String × Value) :=
  (e.first.text, e.first.value) ::
    e.more.flatMap fun (op, a) => [(op.symbol, .operator op), (a.text, a.value)]

def texts (e : Alternation units) : List String := e.words.map Prod.fst

def values (e : Alternation units) : List Value := e.words.map Prod.snd

/-- The texts with a blank between any two. -/
def spaced (e : Alternation units) : String := " ".intercalate e.texts

/-- Somewhere `in` stands behind meters. -/
def MetersBeforeIn (e : Alternation units) : Prop :=
  ∃ text, InMeters text.toList ∧ [text, Operator.inWord.symbol] <:+: e.texts

end Alternation

section Alternation

variable {units : UnitSystem} (a b : Operand units) (op : Operator)
  (more : List (Operator × Operand units))

theorem Alternation.texts_nil : (Alternation.mk a []).texts = [a.text] := rfl

theorem Alternation.values_nil : (Alternation.mk a []).values = [a.value] := rfl

theorem Alternation.texts_cons : (Alternation.mk a ((op, b) :: more)).texts =
    a.text :: op.symbol :: (Alternation.mk b more).texts := rfl

theorem Alternation.values_cons : (Alternation.mk a ((op, b) :: more)).values =
    a.value :: .operator op :: (Alternation.mk b more).values := rfl

theorem not_inMeters_operator : ¬ InMeters op.symbol.toList := by
  rintro ⟨n, x, hn, htext⟩
  apply hn.not_noDigit LengthUnit.meter.symbol.toList
  rw [← htext]
  exact (Operator.words op).2.noDigit

theorem Alternation.metersBeforeIn_nil : ¬ (Alternation.mk a []).MetersBeforeIn := by
  rintro ⟨text, _, hinfix⟩
  have hlen := hinfix.length_le
  simp [Alternation.texts_nil] at hlen

theorem Alternation.metersBeforeIn_cons : (Alternation.mk a ((op, b) :: more)).MetersBeforeIn ↔
    (InMeters a.text.toList ∧ op = .inWord) ∨ (Alternation.mk b more).MetersBeforeIn := by
  unfold MetersBeforeIn
  rw [Alternation.texts_cons]
  constructor
  · rintro ⟨text, hmeters, hinfix⟩
    rcases List.infix_cons_iff.1 hinfix with hfirst | hinfix
    · simp only [List.cons_prefix_cons, List.nil_prefix, and_true] at hfirst
      obtain ⟨rfl, hsymbol⟩ := hfirst
      have hop : op.symbol.toList <+: Operator.inWord.symbol.toList :=
        hsymbol ▸ List.prefix_refl _
      exact Or.inl ⟨hmeters, Operator.prefixFree _ _ hop⟩
    · rcases List.infix_cons_iff.1 hinfix with hsecond | hinfix
      · rw [List.cons_prefix_cons] at hsecond
        rw [hsecond.1] at hmeters
        exact absurd hmeters (not_inMeters_operator op)
      · exact Or.inr ⟨text, hmeters, hinfix⟩
  · rintro (⟨hmeters, rfl⟩ | ⟨text, hmeters, hinfix⟩)
    · exact ⟨a.text, hmeters, List.infix_cons_iff.2 (Or.inl (by simp))⟩
    · exact ⟨text, hmeters, List.infix_cons (List.infix_cons hinfix)⟩

/-- Meters before `in` lose their value. -/
theorem Operand.misread {a : Operand units} (h : InMeters a.text.toList) (rest : List Char)
    (parts : List Value) :
    readTokens units (a.text.toList ++ (Operator.inWord.symbol.toList ++ rest)) ≠
      (a.value :: parts, []) := by
  obtain ⟨n, x, hn, htext⟩ := h
  have hvalue : a.value = .distance (.plain x) := by
    have hread := a.read
    rw [htext, matchToken_meters units hn] at hread
    exact (congrArg Prod.fst (Option.some.inj hread)).symm
  rw [htext]
  exact misread_meters units rest hn (by rw [hvalue]; rfl) parts

/-- Any other operand is read, then the operator, then what stands behind it. -/
theorem Operand.readTokens {a : Operand units} (rest : List Char)
    (h : ¬ (InMeters a.text.toList ∧ op = .inWord)) :
    readTokens units (a.text.toList ++ (op.symbol.toList ++ rest)) =
      (a.value :: .operator op :: (readTokens units rest).1, (readTokens units rest).2) := by
  have hfirst := (reads_of_matchToken a.read).before_operator op rest h
  rw [readTokens_of_some (matchToken_of_reads hfirst),
    readTokens_of_some (matchToken_of_reads (.operator op rest))]

/-- The texts one behind the other are read as their values exactly where no
`in` stands behind meters. -/
theorem Alternation.readTokens_iff (e : Alternation units) :
    readTokens units (e.texts.map String.toList).flatten = (e.values, []) ↔
      ¬ e.MetersBeforeIn := by
  obtain ⟨a, more⟩ := e
  induction more generalizing a with
  | nil =>
    have hread : readTokens units a.text.toList = ([a.value], []) := by
      rw [readTokens_of_some a.read, readTokens_of_none rfl]
    simpa [Alternation.texts_nil, Alternation.values_nil, hread]
      using Alternation.metersBeforeIn_nil a
  | cons pair more ih =>
    obtain ⟨op, b⟩ := pair
    rw [Alternation.metersBeforeIn_cons, Alternation.texts_cons, Alternation.values_cons]
    simp only [List.map_cons, List.flatten_cons]
    by_cases hmeters : InMeters a.text.toList ∧ op = .inWord
    · obtain ⟨hmeters, rfl⟩ := hmeters
      exact ⟨fun h => absurd h (Operand.misread hmeters _ _),
        fun h => absurd (Or.inl ⟨hmeters, rfl⟩) h⟩
    · -- The first operand and its operator stand on both sides: what is left is `ih`.
      rw [Operand.readTokens op _ hmeters, or_iff_right hmeters, ← ih b, Prod.mk.injEq,
        List.cons.injEq, List.cons.injEq, Prod.ext_iff]
      simp only [true_and]

/-- Taking the blanks away leaves the texts one behind the other. -/
theorem withoutBlanks_intercalate {texts : List String} (h : ∀ text ∈ texts, Solid text.toList) :
    withoutBlanks (" ".intercalate texts).toList = (texts.map String.toList).flatten := by
  induction texts with
  | nil => rfl
  | cons text texts ih =>
    have htext := (h text (by simp)).withoutBlanks
    have hmore := ih fun t ht => h t (List.mem_cons_of_mem _ ht)
    cases texts with
    | nil => simpa using htext
    | cons next texts =>
      have hblank : withoutBlanks " ".toList = [] := by decide
      rw [String.intercalate_cons_cons, String.toList_append, String.toList_append,
        withoutBlanks_append, withoutBlanks_append, htext, hblank, hmore, List.append_nil]
      rfl

/-- Each text is on its own one token of its value. -/
theorem Alternation.matchToken_word (e : Alternation units) {word : String × Value}
    (h : word ∈ e.words) : matchToken units word.1.toList = some (word.2, []) := by
  rcases List.mem_cons.1 h with rfl | h
  · exact e.first.read
  · obtain ⟨⟨op, a⟩, _, h⟩ := List.mem_flatMap.1 h
    simp only [List.mem_cons, List.not_mem_nil, or_false] at h
    rcases h with rfl | rfl
    · have hop := matchToken_of_reads (Reads.operator op [] : Reads units _ _ _)
      rwa [List.append_nil] at hop
    · exact a.read

theorem Alternation.withoutBlanks_spaced (e : Alternation units) :
    withoutBlanks e.spaced.toList = (e.texts.map String.toList).flatten := by
  apply withoutBlanks_intercalate
  intro text htext
  obtain ⟨word, hword, rfl⟩ := List.mem_map.1 htext
  exact solid_of_reads (reads_of_matchToken (e.matchToken_word hword))

theorem Alternation.not_error_of_values (e : Alternation units) {v : Value} (h : v ∈ e.values) :
    v.isError = false := by
  obtain ⟨word, hword, rfl⟩ := List.mem_map.1 h
  exact not_error_of_matchToken (e.matchToken_word hword)

/-- The parts are the values where the texts are read as their values. -/
theorem Alternation.readTokens_of_parts {e : Alternation units}
    (h : (Calculation.ofExpression units e.spaced).parts = e.values) :
    readTokens units (e.texts.map String.toList).flatten = (e.values, []) := by
  cases hread : readTokens units (e.texts.map String.toList).flatten with
  | mk parts left =>
    rw [← e.withoutBlanks_spaced] at hread
    by_cases hleft : left = []
    · subst hleft
      rw [Calculation.ofExpression_of_readTokens hread] at h
      rw [← h]
    · rw [Calculation.ofExpression_of_left hread hleft] at h
      have herror := e.not_error_of_values (v := .error (String.ofList left)) (by rw [← h]; simp)
      cases herror

end Alternation

/-! ## The law -/

/-- Where no `in` stands behind meters, an alternation with blanks between its
texts is read text by text, each as the value that it has on its own. Where
one does, it never is. -/
theorem a_spaced_alternation_is_read_text_by_text (units : UnitSystem) :
    (∀ e : Alternation units,
      (e.texts.map fun text => matchToken units text.toList) =
        e.values.map (fun v => some (v, [])) ∧
      (¬ e.MetersBeforeIn →
        Calculation.ofExpression units e.spaced = ⟨e.values, calculate e.values⟩) ∧
      (e.MetersBeforeIn → (Calculation.ofExpression units e.spaced).parts ≠ e.values)) ∧
    ∀ a b : Operand units, a.value.isDistance = true → b.value.isDuration = true →
      ((Calculation.ofExpression units (" ".intercalate [a.text, "in", b.text])).parts =
        [a.value, .operator .inWord, b.value] ↔ ¬ InMeters a.text.toList) := by
  have hparts (e : Alternation units) :
      (Calculation.ofExpression units e.spaced).parts = e.values → ¬ e.MetersBeforeIn :=
    fun h => e.readTokens_iff.1 (Alternation.readTokens_of_parts h)
  have hread (e : Alternation units) (h : ¬ e.MetersBeforeIn) :
      Calculation.ofExpression units e.spaced = ⟨e.values, calculate e.values⟩ := by
    apply Calculation.ofExpression_of_readTokens
    rw [e.withoutBlanks_spaced]
    exact e.readTokens_iff.2 h
  refine ⟨fun e => ⟨?_, hread e, fun h hvalues => hparts e hvalues h⟩, ?_⟩
  · unfold Alternation.values Alternation.texts
    rw [List.map_map, List.map_map]
    exact List.map_congr_left fun word hword => e.matchToken_word hword
  · intro a b _ _
    have hiff := Iff.intro (hparts ⟨a, [(.inWord, b)]⟩)
      fun h => congrArg Calculation.parts (hread _ h)
    rw [Alternation.spaced, Alternation.metersBeforeIn_cons, Alternation.texts_cons,
      Alternation.values_cons, Alternation.texts_nil, Alternation.values_nil,
      or_iff_left (Alternation.metersBeforeIn_nil b), and_iff_left rfl] at hiff
    exact hiff

/-- `M in 3:40h for 400m` has meters, but not before its `in`. -/
theorem marathon_pace_for_meters :
    ∃ e : Alternation .metric, e.spaced = "M in 3:40h for 400m" ∧ ¬ e.MetersBeforeIn ∧
      Calculation.ofExpression .metric "M in 3:40h for 400m" =
        ⟨[.distance .marathon, .operator .inWord, .duration 13200, .operator .forWord,
          .distance (.plain 400)], some (.duration 125)⟩ := by
  let e : Alternation .metric :=
    ⟨⟨"M", .distance .marathon, by decide +kernel, rfl⟩,
      [(.inWord, ⟨"3:40h", .duration 13200, by decide +kernel, rfl⟩),
        (.forWord, ⟨"400m", .distance (.plain 400), by decide +kernel, rfl⟩)]⟩
  have hspaced : e.spaced = "M in 3:40h for 400m" := by decide +kernel
  have hmeters : ¬ e.MetersBeforeIn := by
    have hrace : ¬ InMeters ['M'] := by
      rintro ⟨n, x, _, htext⟩
      have hlast := congrArg List.getLast? htext
      simp [LengthUnit.symbol] at hlast
    simp [e, Alternation.metersBeforeIn_cons, Alternation.metersBeforeIn_nil, hrace]
  refine ⟨e, hspaced, hmeters, ?_⟩
  rw [← hspaced, ((a_spaced_alternation_is_read_text_by_text .metric).1 e).2.1 hmeters]
  decide +kernel

/-- `400m in 2min` is read as `400min 2min`. -/
theorem meters_in_minutes_are_not_read_text_by_text :
    ∃ e : Alternation .metric, e.spaced = "400m in 2min" ∧
      e.values = [.distance (.plain 400), .operator .inWord, .duration 120] ∧
      (Calculation.ofExpression .metric e.spaced).parts = [.duration 24000, .duration 120] ∧
      (Calculation.ofExpression .metric e.spaced).parts ≠ e.values := by
  refine ⟨⟨⟨"400m", .distance (.plain 400), by decide +kernel, rfl⟩,
    [(.inWord, ⟨"2min", .duration 120, by decide +kernel, rfl⟩)]⟩, ?_⟩
  decide +kernel

end Stride
