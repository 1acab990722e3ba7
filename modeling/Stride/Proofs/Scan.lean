-- What the readers of `Stride.Text.Scan` read, said of the text alone: a
-- word is read where it begins the text, a number takes every digit there is.
import Stride.Token

namespace Stride

/-! ## Words and symbols -/

theorem readWord?_append (word rest : List Char) : readWord? word (word ++ rest) = some rest := by
  induction word with
  | nil => rfl
  | cons w word ih => simpa [readWord?] using ih

theorem readWord?_eq_none_iff {word s : List Char} : readWord? word s = none ↔ ¬ word <+: s := by
  constructor
  · rintro h ⟨rest, rfl⟩
    rw [readWord?_append] at h
    cases h
  · intro h
    cases hr : readWord? word s with
    | none => rfl
    | some rest => exact absurd ⟨rest, (eq_append_of_readWord? hr).symm⟩ h

/-- A symbol of the kind begins the text. -/
def BeginsWith {α : Type} (symbol : α → String) (s : List Char) : Prop :=
  ∃ a, (symbol a).toList <+: s

theorem beginsWith_append {α : Type} (symbol : α → String) (a : α) (rest : List Char) :
    BeginsWith symbol ((symbol a).toList ++ rest) := ⟨a, rest, rfl⟩

theorem readSymbol?_eq_none {α : Type} {symbol : α → String} {s : List Char}
    (candidates : List α) (h : ¬ BeginsWith symbol s) : readSymbol? symbol candidates s = none := by
  unfold readSymbol?
  rw [List.findSome?_eq_none_iff]
  intro a _
  rw [Option.map_eq_none_iff, readWord?_eq_none_iff]
  exact fun ha => h ⟨a, ha⟩

/-- No symbol of the kind begins another one. -/
def PrefixFree {α : Type} (symbol : α → String) : Prop :=
  ∀ a b, (symbol a).toList <+: (symbol b).toList → a = b

theorem PrefixFree.eq {α : Type} {symbol : α → String} {s : List Char} {a b : α}
    (h : PrefixFree symbol) (ha : (symbol a).toList <+: s) (hb : (symbol b).toList <+: s) :
    a = b := by
  rcases List.prefix_or_prefix_of_prefix ha hb with hab | hba
  · exact h a b hab
  · exact (h b a hba).symm

theorem PrefixFree.readSymbol? {α : Type} {symbol : α → String} {candidates : List α} {a : α}
    (h : PrefixFree symbol) (ha : a ∈ candidates) (rest : List Char) :
    readSymbol? symbol candidates ((symbol a).toList ++ rest) = some (a, rest) := by
  induction candidates with
  | nil => cases ha
  | cons b candidates ih =>
    unfold Stride.readSymbol? at *
    rw [List.findSome?_cons]
    by_cases hb : (symbol b).toList <+: (symbol a).toList ++ rest
    · obtain rfl := h.eq hb (List.prefix_append _ _)
      rw [readWord?_append]
      rfl
    · rw [readWord?_eq_none_iff.2 hb]
      refine ih ?_
      rcases List.mem_cons.1 ha with rfl | ha
      · exact absurd (List.prefix_append _ _) hb
      · exact ha

theorem PaceUnit.prefixFree : PrefixFree PaceUnit.symbol := by
  intro a b; cases a <;> cases b <;> decide

theorem SpeedUnit.prefixFree : PrefixFree SpeedUnit.symbol := by
  intro a b; cases a <;> cases b <;> decide

theorem TimeUnit.prefixFree : PrefixFree TimeUnit.symbol := by
  intro a b; cases a <;> cases b <;> decide

theorem Operator.prefixFree : PrefixFree Operator.symbol := by
  intro a b; cases a <;> cases b <;> decide

theorem PaceUnit.mem_all (u : PaceUnit) : u ∈ PaceUnit.all := by cases u <;> decide
theorem SpeedUnit.mem_all (u : SpeedUnit) : u ∈ SpeedUnit.all := by cases u <;> decide
theorem TimeUnit.mem_all (u : TimeUnit) : u ∈ TimeUnit.all := by cases u <;> decide
theorem Operator.mem_all (op : Operator) : op ∈ Operator.all := by cases op <;> decide

/-- Of the lengths, `m` begins `mi`, so `mi` is tried before it. -/
theorem readSymbol?_length (u : LengthUnit) (rest : List Char)
    (hmile : u = .meter → ¬ LengthUnit.mile.symbol.toList <+: u.symbol.toList ++ rest) :
    readSymbol? LengthUnit.symbol LengthUnit.all (u.symbol.toList ++ rest) = some (u, rest) := by
  cases u with
  | mile => rfl
  | meter =>
    have hnone := readWord?_eq_none_iff.2 (hmile rfl)
    rw [readSymbol?, LengthUnit.all, List.findSome?_cons, hnone, List.findSome?_cons,
      readWord?_append]
    rfl
  | kilometer => rfl
  | yard => rfl

/-- A word begins no text whose start neither begins with it nor begins it. -/
theorem not_prefix_of_prefix {w u s : List Char} (hu : u <+: s)
    (h : ¬ w <+: u ∧ ¬ u <+: w) : ¬ w <+: s := by
  intro hw
  rcases List.prefix_or_prefix_of_prefix hw hu with hwu | huw
  · exact h.1 hwu
  · exact h.2 huw

theorem not_beginsWith_of_prefix {α : Type} {symbol : α → String} {u s : List Char} (hu : u <+: s)
    (h : ∀ a, ¬ (symbol a).toList <+: u ∧ ¬ u <+: (symbol a).toList) : ¬ BeginsWith symbol s := by
  rintro ⟨a, ha⟩
  exact not_prefix_of_prefix hu (h a) ha

/-- No symbol of one kind begins one of the other, either way. -/
def Apart {α β : Type} (symbol : α → String) (other : β → String) : Prop :=
  ∀ a b, ¬ (symbol a).toList <+: (other b).toList ∧ ¬ (other b).toList <+: (symbol a).toList

theorem Apart.not_beginsWith {α β : Type} {symbol : α → String} {other : β → String}
    {s : List Char} (h : Apart symbol other) (hs : BeginsWith symbol s) :
    ¬ BeginsWith other s := by
  obtain ⟨a, ha⟩ := hs
  exact not_beginsWith_of_prefix ha fun b => (h a b).symm

theorem SpeedUnit.apart_pace : Apart SpeedUnit.symbol PaceUnit.symbol := by
  intro a b; cases a <;> cases b <;> decide

theorem SpeedUnit.apart_time : Apart SpeedUnit.symbol TimeUnit.symbol := by
  intro a b; cases a <;> cases b <;> decide

theorem Operator.apart_pace : Apart Operator.symbol PaceUnit.symbol := by
  intro a b; cases a <;> cases b <;> decide

theorem Operator.apart_speed : Apart Operator.symbol SpeedUnit.symbol := by
  intro a b; cases a <;> cases b <;> decide

theorem Operator.apart_time : Apart Operator.symbol TimeUnit.symbol := by
  intro a b; cases a <;> cases b <;> decide

theorem Operator.apart_length : Apart Operator.symbol LengthUnit.symbol := by
  intro a b; cases a <;> cases b <;> decide

/-! ## Letters of either case -/

/-- The small letter of a character, by code points. -/
theorem toNat_toLower (c : Char) :
    c.toLower.toNat = if 65 ≤ c.toNat ∧ c.toNat ≤ 90 then c.toNat + 32 else c.toNat := by
  unfold Char.toLower
  have hiff : (c.val ≥ 'A'.val ∧ c.val ≤ 'Z'.val) ↔ 65 ≤ c.toNat ∧ c.toNat ≤ 90 := Iff.rfl
  by_cases h : 65 ≤ c.toNat ∧ c.toNat ≤ 90
  · rw [dif_pos (hiff.2 h), if_pos h]
    have hval : c.val.toNat = c.toNat := rfl
    have hgap : ('a'.val - 'A'.val).toNat = 32 := by decide
    change (c.val + ('a'.val - 'A'.val)).toNat = c.toNat + 32
    rw [UInt32.toNat_add, hval, hgap]
    omega
  · rw [dif_neg (fun h' => h (hiff.1 h')), if_neg h]

theorem toLower_eq_iff {c small large : Char} (hsmall : 97 ≤ small.toNat ∧ small.toNat ≤ 122)
    (hlarge : large.toNat + 32 = small.toNat) : c.toLower = small ↔ c = small ∨ c = large := by
  simp only [← Char.toNat_inj, toNat_toLower]
  split <;> omega

theorem toLower_eq_m {c : Char} : c.toLower = 'm'.toLower ↔ c = 'm' ∨ c = 'M' :=
  toLower_eq_iff (by decide) (by decide)

theorem toLower_eq_h {c : Char} : c.toLower = 'h'.toLower ↔ c = 'h' ∨ c = 'H' :=
  toLower_eq_iff (by decide) (by decide)

/-! ## Digits -/

/-- One digit or more. -/
def Digits (d : List Char) : Prop := d ≠ [] ∧ ∀ c ∈ d, c.isDigit

instance (d : List Char) : Decidable (Digits d) :=
  decidable_of_iff (d ≠ [] ∧ d.all Char.isDigit) (by simp [Digits])

/-- The text does not begin with a digit. -/
def NoDigit (s : List Char) : Prop := ∀ c ∈ s.head?, c.isDigit = false

/-- The text does not go on with a number: with a digit, a colon or a point. -/
def Breaks (s : List Char) : Prop := ∀ c ∈ s.head?, c.isDigit = false ∧ c ≠ ':' ∧ c ≠ '.'

theorem Breaks.noDigit {s : List Char} (h : Breaks s) : NoDigit s := fun c hc => (h c hc).1

theorem breaks_nil : Breaks [] := by simp [Breaks]

instance : (s : List Char) → Decidable (Breaks s)
  | [] => isTrue breaks_nil
  | c :: s => decidable_of_iff (c.isDigit = false ∧ c ≠ ':' ∧ c ≠ '.') (by simp [Breaks])

theorem breaks_append {w rest : List Char} (hne : w ≠ []) (hw : Breaks w) : Breaks (w ++ rest) := by
  cases w with
  | nil => exact absurd rfl hne
  | cons c w => simpa [Breaks] using hw

/-- Where a symbol of the kind stands, no number goes on. -/
def Words {α : Type} (symbol : α → String) : Prop :=
  ∀ a, (symbol a).toList ≠ [] ∧ Breaks (symbol a).toList

theorem Words.breaks {α : Type} {symbol : α → String} {s : List Char} (h : Words symbol)
    (hs : BeginsWith symbol s) : Breaks s := by
  obtain ⟨a, rest, rfl⟩ := hs
  exact breaks_append (h a).1 (h a).2

theorem PaceUnit.words : Words PaceUnit.symbol := by intro u; cases u <;> decide
theorem SpeedUnit.words : Words SpeedUnit.symbol := by intro u; cases u <;> decide
theorem TimeUnit.words : Words TimeUnit.symbol := by intro u; cases u <;> decide
theorem LengthUnit.words : Words LengthUnit.symbol := by intro u; cases u <;> decide
theorem Operator.words : Words Operator.symbol := by intro op; cases op <;> decide

theorem Digits.exists_cons {d : List Char} (hd : Digits d) :
    ∃ c e, d = c :: e ∧ c.isDigit = true := by
  obtain ⟨hne, hdigit⟩ := hd
  cases d with
  | nil => exact absurd rfl hne
  | cons c e => exact ⟨c, e, rfl, hdigit c (by simp)⟩

theorem Digits.not_noDigit {d : List Char} (hd : Digits d) (t : List Char) :
    ¬ NoDigit (d ++ t) := by
  obtain ⟨c, e, rfl, hc⟩ := hd.exists_cons
  intro h
  have hno := h c (by simp)
  rw [hc] at hno
  cases hno

theorem not_digits_decimal (d f : List Char) : ¬ Digits (d ++ '.' :: f) := by
  intro h
  have hpoint := h.2 '.' (by simp)
  cases hpoint

/-- A word begins no text that digits begin. -/
theorem Words.not_beginsWith_digits {α : Type} {symbol : α → String} {d : List Char}
    (h : Words symbol) (hd : Digits d) (t : List Char) : ¬ BeginsWith symbol (d ++ t) :=
  fun hs => hd.not_noDigit t (h.breaks hs).noDigit

theorem Words.not_beginsWith_colon {α : Type} {symbol : α → String} (h : Words symbol)
    (s : List Char) : ¬ BeginsWith symbol (':' :: s) :=
  fun hs => (h.breaks hs ':' (by simp)).2.1 rfl

theorem Words.not_beginsWith_point {α : Type} {symbol : α → String} (h : Words symbol)
    (s : List Char) : ¬ BeginsWith symbol ('.' :: s) :=
  fun hs => (h.breaks hs '.' (by simp)).2.2 rfl

theorem Words.not_beginsWith_nil {α : Type} {symbol : α → String} (h : Words symbol) :
    ¬ BeginsWith symbol [] := by
  rintro ⟨a, ha⟩
  exact (h a).1 (List.prefix_nil.1 ha)

/-- A word begins no text with another first character. -/
theorem Words.not_beginsWith_cons {α : Type} {symbol : α → String} {c : Char} (h : Words symbol)
    (hc : ∀ a, (symbol a).toList.head? ≠ some c) (s : List Char) :
    ¬ BeginsWith symbol (c :: s) := by
  rintro ⟨a, rest, hs⟩
  cases ha : (symbol a).toList with
  | nil => exact (h a).1 ha
  | cons x w =>
    rw [ha] at hs
    apply hc a
    rw [ha, List.head?_cons, (List.cons.inj hs).1]

theorem takeWhile_digits {d t : List Char} (hd : Digits d) (ht : NoDigit t) :
    (d ++ t).takeWhile Char.isDigit = d := by
  rw [List.takeWhile_append_of_pos hd.2]
  cases t with
  | nil => simp
  | cons c t => simp [ht c (by simp)]

theorem dropWhile_digits {d t : List Char} (hd : Digits d) (ht : NoDigit t) :
    (d ++ t).dropWhile Char.isDigit = t := by
  rw [List.dropWhile_append_of_pos hd.2]
  cases t with
  | nil => rfl
  | cons c t => simp [ht c (by simp)]

theorem takeWhile_of_noDigit {s : List Char} (h : NoDigit s) : s.takeWhile Char.isDigit = [] := by
  cases s with
  | nil => rfl
  | cons c s => simp [h c (by simp)]

/-- The digits at the start of a text are told apart from what follows. -/
theorem digits_append_inj {d e t u : List Char} (hd : Digits d) (he : Digits e) (ht : NoDigit t)
    (hu : NoDigit u) (h : d ++ t = e ++ u) : d = e ∧ t = u := by
  have htake := congrArg (List.takeWhile Char.isDigit) h
  rw [takeWhile_digits hd ht, takeWhile_digits he hu] at htake
  subst htake
  exact ⟨rfl, List.append_cancel_left h⟩

/-- A text begins with digits or does not. -/
theorem noDigit_or_digits (s : List Char) :
    NoDigit s ∨ ∃ d t, Digits d ∧ NoDigit t ∧ s = d ++ t := by
  by_cases h : s.takeWhile Char.isDigit = []
  · left
    cases s with
    | nil => simp [NoDigit]
    | cons c s =>
      intro a ha
      cases ha
      cases hc : c.isDigit with
      | false => rfl
      | true => simp [hc] at h
  · right
    refine ⟨s.takeWhile Char.isDigit, s.dropWhile Char.isDigit, ⟨h, ?_⟩, ?_, ?_⟩
    · exact List.all_eq_true.1 List.all_takeWhile
    · intro c hc
      have hhead := List.head?_dropWhile_not Char.isDigit s
      rw [Option.mem_def.1 hc] at hhead
      exact hhead
    · exact List.takeWhile_append_dropWhile.symm

/-! ## Numbers -/

theorem readInteger?_digits {d t : List Char} (hd : Digits d) (ht : NoDigit t) :
    readInteger? (d ++ t) = some (digitsNumber d 0, t) := by
  unfold readInteger?
  rw [takeWhile_digits hd ht, dropWhile_digits hd ht]
  cases d with
  | nil => exact absurd rfl hd.1
  | cons c d => rfl

theorem readInteger?_of_noDigit {s : List Char} (h : NoDigit s) : readInteger? s = none := by
  unfold readInteger?
  rw [takeWhile_of_noDigit h]

theorem readColonInteger?_digits {e t : List Char} (he : Digits e) (ht : NoDigit t) :
    readColonInteger? (':' :: (e ++ t)) = some (digitsNumber e 0, t) := readInteger?_digits he ht

theorem readColonInteger?_of_breaks {s : List Char} (h : Breaks s) :
    readColonInteger? s = none := by
  unfold readColonInteger?
  split
  · exact absurd rfl (h ':' (by simp)).2.1
  · rfl

/-- Behind a colon there are digits to read, or nothing is read. -/
theorem readColonInteger?_cases (s : List Char) :
    readColonInteger? s = none ∨ ∃ e t, Digits e ∧ NoDigit t ∧ s = ':' :: (e ++ t) := by
  unfold readColonInteger?
  split
  next s =>
    rcases noDigit_or_digits s with h | ⟨e, t, he, ht, rfl⟩
    · exact Or.inl (readInteger?_of_noDigit h)
    · exact Or.inr ⟨e, t, he, ht, rfl⟩
  next => exact Or.inl rfl

/-- The text of a number, with the number that it stands for. -/
inductive NumberText : List Char → Binary64 → Prop
  | whole {d : List Char} : Digits d → NumberText d (digitsNumber d 0)
  | decimal {d f : List Char} : Digits d → Digits f →
      NumberText (d ++ '.' :: f) (digitsNumber (d ++ f) f.length)

theorem NumberText.not_noDigit {n : List Char} {x : Binary64} (h : NumberText n x)
    (t : List Char) : ¬ NoDigit (n ++ t) := by
  cases h with
  | whole hd => exact hd.not_noDigit t
  | decimal hd _ =>
    rw [List.append_assoc]
    exact hd.not_noDigit _

theorem readNumber?_of_noDigit {s : List Char} (h : NoDigit s) : readNumber? s = none := by
  unfold readNumber?
  rw [takeWhile_of_noDigit h]

theorem readNumber?_digits {d t : List Char} (hd : Digits d) (ht : NoDigit t) :
    readNumber? (d ++ t) =
      some (digitsNumber (d ++ (readPlaces t).1) (readPlaces t).1.length, (readPlaces t).2) := by
  unfold readNumber?
  rw [takeWhile_digits hd ht, dropWhile_digits hd ht]
  cases d with
  | nil => exact absurd rfl hd.1
  | cons c d => rfl

theorem readPlaces_digits {f t : List Char} (hf : Digits f) (ht : NoDigit t) :
    readPlaces ('.' :: (f ++ t)) = (f, t) := by
  simp only [readPlaces, takeWhile_digits hf ht, dropWhile_digits hf ht]
  cases f with
  | nil => exact absurd rfl hf.1
  | cons c f => rfl

theorem readPlaces_of_breaks {t : List Char} (h : Breaks t) : readPlaces t = ([], t) := by
  unfold readPlaces
  split
  · exact absurd rfl (h '.' (by simp)).2.2
  · rfl

/-- Behind a point there are digits to read, or nothing is read. -/
theorem readPlaces_cases (s : List Char) :
    readPlaces s = ([], s) ∨ ∃ f t, Digits f ∧ NoDigit t ∧ s = '.' :: (f ++ t) := by
  unfold readPlaces
  split
  next s =>
    rcases noDigit_or_digits s with h | ⟨f, t, hf, ht, rfl⟩
    · rw [takeWhile_of_noDigit h]
      exact Or.inl rfl
    · exact Or.inr ⟨f, t, hf, ht, rfl⟩
  next => exact Or.inl rfl

theorem readNumber?_colon {d : List Char} (hd : Digits d) (s : List Char) :
    readNumber? (d ++ ':' :: s) = some (digitsNumber d 0, ':' :: s) := by
  rw [readNumber?_digits hd (by simp [NoDigit])]
  simp [readPlaces]

theorem readNumber?_append {n t : List Char} {x : Binary64} (hn : NumberText n x)
    (ht : Breaks t) : readNumber? (n ++ t) = some (x, t) := by
  cases hn with
  | whole hd =>
    rw [readNumber?_digits hd ht.noDigit, readPlaces_of_breaks ht]
    simp
  | @decimal d f hd hf =>
    rw [List.append_assoc, List.cons_append, readNumber?_digits hd (by simp [NoDigit]),
      readPlaces_digits hf ht.noDigit]

theorem exists_numberText {s t : List Char} {x : Binary64} (h : readNumber? s = some (x, t)) :
    ∃ n, NumberText n x ∧ s = n ++ t := by
  rcases noDigit_or_digits s with hs | ⟨d, u, hd, hu, rfl⟩
  · rw [readNumber?_of_noDigit hs] at h
    cases h
  rw [readNumber?_digits hd hu] at h
  rcases readPlaces_cases u with hplaces | ⟨f, w, hf, hw, rfl⟩
  · simp only [hplaces, List.append_nil] at h
    cases h
    exact ⟨d, .whole hd, rfl⟩
  · simp only [readPlaces_digits hf hw] at h
    cases h
    exact ⟨d ++ '.' :: f, .decimal hd hf, by simp⟩

end Stride
