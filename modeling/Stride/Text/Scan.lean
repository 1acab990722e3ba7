-- Reading at the start of a text: digits, numbers, words. A reader gives
-- what it read and the text behind it, or nothing at all; what it reads is
-- never empty.
import Stride.Binary64

namespace Stride

/-- `rest` is `s` without some characters at its start. -/
def Consumes (s rest : List Char) : Prop := ∃ t, t ≠ [] ∧ s = t ++ rest

theorem Consumes.length_lt {s rest : List Char} (h : Consumes s rest) :
    rest.length < s.length := by
  obtain ⟨t, ht, rfl⟩ := h
  have := List.length_pos_iff.2 ht
  simp only [List.length_append]; omega

theorem Consumes.append_left {s rest : List Char} (h : Consumes s rest) (t : List Char) :
    Consumes (t ++ s) rest := by
  obtain ⟨u, hu, rfl⟩ := h
  exact ⟨t ++ u, by simp [hu], by simp⟩

theorem Consumes.trans {s t rest : List Char} (h : Consumes s t) (h' : Consumes t rest) :
    Consumes s rest := by
  obtain ⟨u, _, rfl⟩ := h
  exact h'.append_left u

/-- What a reader reads, or nothing and the whole text. -/
def optionally {α : Type} (read : List Char → Option (α × List Char)) (s : List Char) :
    Option α × List Char :=
  match read s with
  | some (a, rest) => (some a, rest)
  | none => (none, s)

/-! ## Words -/

/-- The text behind `word`, if it stands at the start. -/
def readWord? : List Char → List Char → Option (List Char)
  | [], s => some s
  | _ :: _, [] => none
  | w :: word, c :: s => if c = w then readWord? word s else none

/-- As `readWord?`, with letters of either case. -/
def readKeyword? : List Char → List Char → Option (List Char)
  | [], s => some s
  | _ :: _, [] => none
  | w :: word, c :: s => if c.toLower = w.toLower then readKeyword? word s else none

/-- The first of the symbols that stands at the start. -/
def readSymbol? {α : Type} (symbol : α → String) (candidates : List α) (s : List Char) :
    Option (α × List Char) :=
  candidates.findSome? fun a => (readWord? (symbol a).toList s).map (a, ·)

/-! ## Numbers -/

/-- The value of a hexadecimal digit, of either case. -/
def hexValue? (c : Char) : Option Nat :=
  if '0' ≤ c ∧ c ≤ '9' then some (c.toNat - '0'.toNat)
  else if 'a' ≤ c ∧ c ≤ 'f' then some (c.toNat - 'a'.toNat + 10)
  else if 'A' ≤ c ∧ c ≤ 'F' then some (c.toNat - 'A'.toNat + 10)
  else none

/-- The number `digits · 10^-places`. -/
def digitsNumber (digits : List Char) (places : Nat) : Binary64 :=
  Binary64.ofDecimal false (Nat.ofDigitChars 10 digits 0) (-(places : Int))

/-- One digit or more. -/
def readInteger? (s : List Char) : Option (Binary64 × List Char) :=
  match s.takeWhile Char.isDigit with
  | [] => none
  | digits => some (digitsNumber digits 0, s.dropWhile Char.isDigit)

/-- Digits behind a colon. -/
def readColonInteger? : List Char → Option (Binary64 × List Char)
  | ':' :: s => readInteger? s
  | _ => none

/-- The digits behind a point, and the text behind them. A point without
digits is not read. -/
def readPlaces : List Char → List Char × List Char
  | '.' :: s =>
    match s.takeWhile Char.isDigit with
    | [] => ([], '.' :: s)
    | places => (places, s.dropWhile Char.isDigit)
  | s => ([], s)

/-- Digits, and perhaps a point with more digits. -/
def readNumber? (s : List Char) : Option (Binary64 × List Char) :=
  match s.takeWhile Char.isDigit with
  | [] => none
  | whole =>
    let (places, rest) := readPlaces (s.dropWhile Char.isDigit)
    some (digitsNumber (whole ++ places) places.length, rest)

/-! ## What is read is not empty -/

theorem Consumes.optionally {α : Type} {read : List Char → Option (α × List Char)}
    {s t : List Char} (h : Consumes s t)
    (hread : ∀ {a rest}, read t = some (a, rest) → Consumes t rest) :
    Consumes s (optionally read t).2 := by
  unfold Stride.optionally
  split
  next ha => exact h.trans (hread ha)
  next => exact h

theorem eq_append_of_readWord? {word s rest : List Char} (h : readWord? word s = some rest) :
    s = word ++ rest := by
  fun_induction readWord? word s with
  | case1 s => simpa using h
  | case2 => cases h
  | case3 w word s ih => rw [ih h]; rfl
  | case4 => cases h

theorem eq_append_of_readKeyword? {word s rest : List Char} (h : readKeyword? word s = some rest) :
    ∃ t, t.length = word.length ∧ s = t ++ rest := by
  fun_induction readKeyword? word s with
  | case1 s => exact ⟨[], rfl, by simpa using h⟩
  | case2 => cases h
  | case3 w word c s _ ih =>
    obtain ⟨t, ht, rfl⟩ := ih h
    exact ⟨c :: t, by simp [ht], rfl⟩
  | case4 => cases h

theorem eq_append_of_readSymbol? {α : Type} {symbol : α → String} {candidates : List α}
    {s rest : List Char} {a : α} (h : readSymbol? symbol candidates s = some (a, rest)) :
    a ∈ candidates ∧ s = (symbol a).toList ++ rest := by
  obtain ⟨b, hb, h⟩ := List.exists_of_findSome?_eq_some h
  obtain ⟨r, hr, h⟩ := Option.map_eq_some_iff.1 h
  cases h
  exact ⟨hb, eq_append_of_readWord? hr⟩

theorem consumes_of_readInteger? {s rest : List Char} {x : Binary64}
    (h : readInteger? s = some (x, rest)) : Consumes s rest := by
  unfold readInteger? at h
  split at h
  · cases h
  next hne =>
    cases h
    exact ⟨s.takeWhile Char.isDigit, hne, List.takeWhile_append_dropWhile.symm⟩

theorem consumes_of_readColonInteger? {s rest : List Char} {x : Binary64}
    (h : readColonInteger? s = some (x, rest)) : Consumes s rest := by
  unfold readColonInteger? at h
  split at h
  next s => exact (consumes_of_readInteger? h).append_left [':']
  next => cases h

theorem readPlaces_append (s : List Char) : ∃ t, s = t ++ (readPlaces s).2 := by
  unfold readPlaces
  split
  next s =>
    split
    next => exact ⟨[], rfl⟩
    next =>
      exact ⟨'.' :: s.takeWhile Char.isDigit, by simp [List.takeWhile_append_dropWhile]⟩
  next => exact ⟨[], rfl⟩

theorem consumes_of_readNumber? {s rest : List Char} {x : Binary64}
    (h : readNumber? s = some (x, rest)) : Consumes s rest := by
  unfold readNumber? at h
  split at h
  · cases h
  next hne =>
    cases h
    obtain ⟨t, ht⟩ := readPlaces_append (s.dropWhile Char.isDigit)
    refine ⟨s.takeWhile Char.isDigit ++ t, fun he => hne (List.append_eq_nil_iff.1 he).1, ?_⟩
    change s = _ ++ (readPlaces (s.dropWhile Char.isDigit)).2
    rw [List.append_assoc, ← ht, List.takeWhile_append_dropWhile]

end Stride
