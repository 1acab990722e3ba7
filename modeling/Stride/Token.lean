-- The tokens of an expression. A matcher reads one kind of value at the
-- start of a text without blanks. Several matchers accept the same start
-- (`4` can begin a pace, a duration, a distance or a constant), so their
-- order is part of the grammar.
import Stride.Text.Scan
import Stride.Value

namespace Stride

/-- What stands at the start of a text, and the text behind it. -/
abbrev Match := Option (Value × List Char)

/-! ## The eight matchers -/

/-- `4:30min/km`, `4min/mi` or `4:30`; without a unit the pace is that of
the unit system. A number with neither colon nor unit is no pace, nor is
one with a unit of time behind it. -/
def matchPace (units : UnitSystem) (s : List Char) : Match := do
  let (minutes, s) ← readInteger? s
  let (seconds, s) := optionally readColonInteger? s
  let total := minutes * minuteSeconds + seconds.getD 0
  match readSymbol? PaceUnit.symbol PaceUnit.all s with
  | some (unit, s) => some (.pace ⟨unit.perKilometer total, .pace⟩, s)
  | none =>
    if (readSymbol? TimeUnit.symbol TimeUnit.all s).isSome || seconds.isNone then none
    else some (.pace ⟨units.paceUnit.perKilometer total, .pace⟩, s)

/-- `15km/h` or `9.5mi/h`. -/
def matchSpeed (s : List Char) : Match := do
  let (amount, s) ← readNumber? s
  let (unit, s) ← readSymbol? SpeedUnit.symbol SpeedUnit.all s
  some (.pace ⟨unit.perKilometer amount, .speed⟩, s)

/-- Adds a whole number of one unit, if that is what stands next. -/
def addComponent : Option Binary64 × List Char → TimeUnit → Option Binary64 × List Char
  | (total, s), unit =>
    match readInteger? s with
    | none => (total, s)
    | some (amount, t) =>
      match readWord? unit.symbol.toList t with
      | none => (total, s)
      | some rest => (some (total.getD 0 + amount * unit.inSeconds), rest)

/-- `1h30min15s`, where parts may be left out. -/
def matchComponents (s : List Char) : Match :=
  match TimeUnit.all.foldl addComponent (none, s) with
  | (some total, rest) => some (.duration total, rest)
  | (none, _) => none

/-- `1:30:15h` or `4:30min`; the unit names the first number. -/
def matchClock (s : List Char) : Match := do
  let (first, s) ← readInteger? s
  let (second, s) := optionally readColonInteger? s
  let (third, s) := optionally readColonInteger? s
  let (unit, s) ← readSymbol? TimeUnit.symbol TimeUnit.all s
  some (.duration (unit.toSeconds first (second.getD 0) (third.getD 0)), s)

def matchDuration (s : List Char) : Match := (matchComponents s).or (matchClock s)

def matchOperator (s : List Char) : Match :=
  (readSymbol? Operator.symbol Operator.all s).map fun (op, s) => (.operator op, s)

/-- `400m`, `1.5km`, `5mi` or `100yd`. -/
def matchDistance (s : List Char) : Match := do
  let (amount, s) ← readNumber? s
  let (unit, s) ← readSymbol? LengthUnit.symbol LengthUnit.all s
  some (.distance (.plain (unit.toMeters amount)), s)

def matchMarathon (s : List Char) : Match :=
  (readKeyword? ['m'] s).map (.distance .marathon, ·)

def matchHalfMarathon (s : List Char) : Match :=
  (readKeyword? ['h', 'm'] s).map (.distance .halfMarathon, ·)

/-- A number at the end or before an operator. Anywhere else it was meant
to have a unit, and what follows is shown as an error. -/
def matchConstant (s : List Char) : Match := do
  let (amount, s) ← readNumber? s
  if s.isEmpty || (matchOperator s).isSome then some (.constant amount, s) else none

/-! ## The order of the matchers -/

/-- Only paces depend on the unit system. -/
inductive Matcher where
  | pace | speed | duration | operator | distance | marathon | halfMarathon | constant
deriving DecidableEq, Repr

namespace Matcher

def all : List Matcher :=
  [.pace, .speed, .duration, .operator, .distance, .marathon, .halfMarathon, .constant]

def name : Matcher → String
  | .pace => "pace"
  | .speed => "speed"
  | .duration => "duration"
  | .operator => "operator"
  | .distance => "distance"
  | .marathon => "marathon"
  | .halfMarathon => "half marathon"
  | .constant => "constant"

def read (units : UnitSystem) : Matcher → List Char → Match
  | .pace => matchPace units
  | .speed => matchSpeed
  | .duration => matchDuration
  | .operator => matchOperator
  | .distance => matchDistance
  | .marathon => matchMarathon
  | .halfMarathon => matchHalfMarathon
  | .constant => matchConstant

/-- The first match of a list of matchers. -/
def first (matchers : List Matcher) (units : UnitSystem) (s : List Char) : Match :=
  matchers.findSome? fun m => m.read units s

end Matcher

/-- The token at the start of a text. -/
def matchToken (units : UnitSystem) (s : List Char) : Match := Matcher.first Matcher.all units s

/-! ## A token is never empty -/

theorem consumes_of_readSymbol? {α : Type} {symbol : α → String} {candidates : List α}
    {s rest : List Char} {a : α} (h : readSymbol? symbol candidates s = some (a, rest))
    (hne : ∀ a, (symbol a).toList ≠ []) : Consumes s rest :=
  ⟨_, hne a, (eq_append_of_readSymbol? h).2⟩

theorem PaceUnit.symbol_ne_nil (u : PaceUnit) : u.symbol.toList ≠ [] := by cases u <;> decide
theorem SpeedUnit.symbol_ne_nil (u : SpeedUnit) : u.symbol.toList ≠ [] := by cases u <;> decide
theorem LengthUnit.symbol_ne_nil (u : LengthUnit) : u.symbol.toList ≠ [] := by cases u <;> decide
theorem TimeUnit.symbol_ne_nil (u : TimeUnit) : u.symbol.toList ≠ [] := by cases u <;> decide
theorem Operator.symbol_ne_nil (op : Operator) : op.symbol.toList ≠ [] := by cases op <;> decide

theorem consumes_of_matchPace {units : UnitSystem} {s rest : List Char} {v : Value}
    (h : matchPace units s = some (v, rest)) : Consumes s rest := by
  obtain ⟨⟨minutes, t⟩, hm, h⟩ := Option.bind_eq_some_iff.1 h
  have hs := (consumes_of_readInteger? hm).optionally consumes_of_readColonInteger?
  dsimp only at h
  split at h
  next hu =>
    cases h
    exact hs.trans (consumes_of_readSymbol? hu PaceUnit.symbol_ne_nil)
  next =>
    split at h
    · cases h
    · cases h; exact hs

theorem consumes_of_matchSpeed {s rest : List Char} {v : Value}
    (h : matchSpeed s = some (v, rest)) : Consumes s rest := by
  obtain ⟨⟨_, t⟩, hn, h⟩ := Option.bind_eq_some_iff.1 h
  obtain ⟨⟨_, _⟩, hu, h⟩ := Option.bind_eq_some_iff.1 h
  cases h
  exact (consumes_of_readNumber? hn).trans (consumes_of_readSymbol? hu SpeedUnit.symbol_ne_nil)

/-- A component that is added is read; one that is not leaves the text. -/
theorem addComponent_cases (total : Option Binary64) (s : List Char) (unit : TimeUnit) :
    addComponent (total, s) unit = (total, s) ∨
      ∃ t rest, addComponent (total, s) unit = (some t, rest) ∧ Consumes s rest := by
  simp only [addComponent]
  split
  · exact Or.inl rfl
  next amount t ht =>
    split
    · exact Or.inl rfl
    next rest hr =>
      exact Or.inr ⟨_, rest, rfl,
        (consumes_of_readInteger? ht).trans ⟨_, unit.symbol_ne_nil, eq_append_of_readWord? hr⟩⟩

theorem foldl_addComponent_cases (candidates : List TimeUnit) (total : Option Binary64)
    (s : List Char) : candidates.foldl addComponent (total, s) = (total, s) ∨
      ∃ t rest, candidates.foldl addComponent (total, s) = (some t, rest) ∧ Consumes s rest := by
  induction candidates generalizing total s with
  | nil => exact Or.inl rfl
  | cons unit candidates ih =>
    rw [List.foldl_cons]
    rcases addComponent_cases total s unit with h | ⟨t, rest, h, hc⟩ <;> rw [h]
    · exact ih total s
    · rcases ih (some t) rest with h' | ⟨t', rest', h', hc'⟩
      · exact Or.inr ⟨t, rest, h', hc⟩
      · exact Or.inr ⟨t', rest', h', hc.trans hc'⟩

theorem consumes_of_matchComponents {s rest : List Char} {v : Value}
    (h : matchComponents s = some (v, rest)) : Consumes s rest := by
  unfold matchComponents at h
  rcases foldl_addComponent_cases TimeUnit.all none s with hf | ⟨t, rest', hf, hc⟩
  · rw [hf] at h; cases h
  · rw [hf] at h; cases h; exact hc

theorem consumes_of_matchClock {s rest : List Char} {v : Value}
    (h : matchClock s = some (v, rest)) : Consumes s rest := by
  obtain ⟨⟨first, t⟩, hn, h⟩ := Option.bind_eq_some_iff.1 h
  obtain ⟨⟨unit, u⟩, hu, h⟩ := Option.bind_eq_some_iff.1 h
  cases h
  have hs := (consumes_of_readInteger? hn).optionally consumes_of_readColonInteger?
  have hs := hs.optionally consumes_of_readColonInteger?
  exact hs.trans (consumes_of_readSymbol? hu TimeUnit.symbol_ne_nil)

theorem consumes_of_matchDuration {s rest : List Char} {v : Value}
    (h : matchDuration s = some (v, rest)) : Consumes s rest := by
  rcases Option.or_eq_some_iff.1 h with h | ⟨_, h⟩
  · exact consumes_of_matchComponents h
  · exact consumes_of_matchClock h

theorem consumes_of_matchOperator {s rest : List Char} {v : Value}
    (h : matchOperator s = some (v, rest)) : Consumes s rest := by
  obtain ⟨⟨op, t⟩, hop, h⟩ := Option.map_eq_some_iff.1 h
  cases h
  exact consumes_of_readSymbol? hop Operator.symbol_ne_nil

theorem consumes_of_matchDistance {s rest : List Char} {v : Value}
    (h : matchDistance s = some (v, rest)) : Consumes s rest := by
  obtain ⟨⟨_, t⟩, hn, h⟩ := Option.bind_eq_some_iff.1 h
  obtain ⟨⟨_, _⟩, hu, h⟩ := Option.bind_eq_some_iff.1 h
  cases h
  exact (consumes_of_readNumber? hn).trans (consumes_of_readSymbol? hu LengthUnit.symbol_ne_nil)

theorem consumes_of_readKeyword? {word s rest : List Char} (hne : word ≠ [])
    (h : readKeyword? word s = some rest) : Consumes s rest := by
  obtain ⟨t, ht, rfl⟩ := eq_append_of_readKeyword? h
  refine ⟨t, ?_, rfl⟩
  rintro rfl
  exact hne (List.length_eq_zero_iff.1 ht.symm)

theorem consumes_of_matchConstant {s rest : List Char} {v : Value}
    (h : matchConstant s = some (v, rest)) : Consumes s rest := by
  obtain ⟨⟨_, t⟩, hn, h⟩ := Option.bind_eq_some_iff.1 h
  dsimp only at h
  split at h
  · cases h; exact consumes_of_readNumber? hn
  · cases h

theorem Matcher.consumes {m : Matcher} {units : UnitSystem} {s rest : List Char} {v : Value}
    (h : m.read units s = some (v, rest)) : Consumes s rest := by
  cases m with
  | pace => exact consumes_of_matchPace h
  | speed => exact consumes_of_matchSpeed h
  | duration => exact consumes_of_matchDuration h
  | operator => exact consumes_of_matchOperator h
  | distance => exact consumes_of_matchDistance h
  | marathon =>
    obtain ⟨t, ht, h⟩ := Option.map_eq_some_iff.1 h
    cases h
    exact consumes_of_readKeyword? (by decide) ht
  | halfMarathon =>
    obtain ⟨t, ht, h⟩ := Option.map_eq_some_iff.1 h
    cases h
    exact consumes_of_readKeyword? (by decide) ht
  | constant => exact consumes_of_matchConstant h

theorem consumes_of_matchToken {units : UnitSystem} {s rest : List Char} {v : Value}
    (h : matchToken units s = some (v, rest)) : Consumes s rest := by
  obtain ⟨_, _, h⟩ := List.exists_of_findSome?_eq_some h
  exact Matcher.consumes h

end Stride
