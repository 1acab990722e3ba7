-- Reading JSON text after writing it. Whatever the layout, the document that
-- is read is the one that was written, and the text behind it is left.
import Stride.Json.Write
import Stride.Proofs.JsonNumbers

namespace Stride.Json

/-! ## Strings -/

/-- The two digits that are written of a control character are read as it. -/
theorem hexUnit?_hexDigit : ∀ n < 0x20,
    hexUnit? '0' '0' (hexDigit (n / 16)) (hexDigit (n % 16)) = some n := by decide +kernel

theorem readUnits_plain {c : Char} (s : List Char) (hquote : c ≠ '"') (hslash : c ≠ '\\')
    (hcontrol : ¬ c.toNat < 0x20) :
    readUnits (c :: s) = (readUnits s).map fun (units, rest) => (c.toNat :: units, rest) := by
  rw [readUnits.eq_def]
  split
  next heq => cases heq
  next heq => exact absurd (List.cons.inj heq).1 hquote
  next heq => exact absurd (List.cons.inj heq).1 hslash
  next heq => exact absurd (List.cons.inj heq).1 hslash
  next heq =>
    obtain ⟨rfl, rfl⟩ := List.cons.inj heq
    rw [if_neg hcontrol]

/-- A backslash and a letter other than `u` are one character. -/
theorem readUnits_unescape {e c : Char} (s : List Char) (hunicode : e ≠ 'u')
    (he : unescape? e = some c) :
    readUnits ('\\' :: e :: s) =
      (readUnits s).map fun (units, rest) => (c.toNat :: units, rest) := by
  rw [readUnits.eq_def]
  split
  next heq => cases heq
  next heq => cases heq
  next heq => exact absurd (List.cons.inj (List.cons.inj heq).2).1 hunicode
  next heq =>
    cases heq
    rw [he]
    cases readUnits s <;> rfl
  next hother heq =>
    obtain ⟨rfl, rfl⟩ := List.cons.inj heq
    exact absurd rfl (hother e s rfl)

theorem readUnits_escapeChar (c : Char) (s : List Char) :
    readUnits (escapeChar c ++ s) =
      (readUnits s).map fun (units, rest) => (c.toNat :: units, rest) := by
  unfold escapeChar
  split
  next h => subst h; exact readUnits_unescape s (by decide) rfl
  split
  next h => subst h; exact readUnits_unescape s (by decide) rfl
  split
  next h => subst h; exact readUnits_unescape s (by decide) rfl
  split
  next h => subst h; exact readUnits_unescape s (by decide) rfl
  split
  next h => subst h; exact readUnits_unescape s (by decide) rfl
  split
  next h => subst h; exact readUnits_unescape s (by decide) rfl
  split
  next h => subst h; exact readUnits_unescape s (by decide) rfl
  split
  next h =>
    simp only [List.cons_append, List.nil_append, readUnits, hexUnit?_hexDigit _ h]
    cases readUnits s <;> rfl
  next hquote hslash _ _ _ _ _ hcontrol => exact readUnits_plain s hquote hslash hcontrol

theorem readUnits_quote (s rest : List Char) :
    readUnits (s.flatMap escapeChar ++ '"' :: rest) = some (s.map Char.toNat, rest) := by
  induction s with
  | nil => rfl
  | cons c s ih =>
    rw [List.flatMap_cons, List.append_assoc, readUnits_escapeChar, ih]
    rfl

/-- A character is no half of a surrogate pair. -/
theorem not_surrogate (c : Char) :
    isHighSurrogate c.toNat = false ∧ isLowSurrogate c.toNat = false := by
  have hvalid : c.toNat < 0xD800 ∨ 0xDFFF < c.toNat ∧ c.toNat < 0x110000 := c.valid
  unfold isHighSurrogate isLowSurrogate
  simp only [Bool.and_eq_false_iff, decide_eq_false_iff_not]
  omega

theorem joinSurrogates_toNat (s : List Char) : joinSurrogates (s.map Char.toNat) = some s := by
  induction s with
  | nil => rfl
  | cons c s ih =>
    obtain ⟨hhigh, hlow⟩ := not_surrogate c
    cases s with
    | nil => simp [joinSurrogates, hhigh, hlow, Char.ofNat_toNat]
    | cons d s =>
      simp only [List.map_cons] at ih ⊢
      simp [joinSurrogates, hhigh, hlow, ih, Char.ofNat_toNat]

theorem readString?_quote (s : String) (rest : List Char) :
    readString? (s.toList.flatMap escapeChar ++ '"' :: rest) = some (some s, rest) := by
  unfold readString?
  rw [readUnits_quote, Option.map_some]
  simp only [joinSurrogates_toNat, Option.map_some, String.ofList_toList]

/-! ## Layouts -/

/-- Only characters that a reader passes over. -/
def Blank (s : List Char) : Prop := ∀ c ∈ s, isSpace c = true

/-- The layout adds nothing but blanks. -/
structure Layout.Blank (layout : Layout) : Prop where
  newline : ∀ depth, Json.Blank (layout.newline depth)
  colon : ∃ blanks, Json.Blank blanks ∧ layout.colon = ':' :: blanks

theorem blank_compactLayout : compactLayout.Blank where
  newline _ := by simp [Blank, compactLayout]
  colon := ⟨[], by simp [Blank], rfl⟩

theorem blank_prettyLayout : prettyLayout.Blank where
  newline depth := by
    intro c hc
    rcases List.mem_cons.1 hc with rfl | hc
    · rfl
    · rw [List.eq_of_mem_replicate hc]
      rfl
  colon := ⟨[' '], by simp [Blank, isSpace], rfl⟩

/-- Blanks are passed over down to the first other character. -/
theorem skipSpace_append {blanks : List Char} (hblanks : Blank blanks) {c : Char}
    (hc : isSpace c = false) (s : List Char) : skipSpace (blanks ++ c :: s) = c :: s := by
  unfold skipSpace
  rw [List.dropWhile_append_of_pos hblanks, List.dropWhile_cons_of_neg (by simp [hc])]

theorem skipSpace_cons {c : Char} (hc : isSpace c = false) (s : List Char) :
    skipSpace (c :: s) = c :: s := List.dropWhile_cons_of_neg (by simp [hc])

/-! ## Documents -/

mutual

/-- A text can hold the document: nothing in it is cut short, every string
can be kept, and every number is in digits. -/
def Writable : Json → Prop
  | .null | .bool _ => True
  | .number n => n.Writable
  | .string s => s.isSome
  | .array items => AllWritable items
  | .object members => MembersWritable members
  | .unreadable => False

def AllWritable : List Json → Prop
  | [] => True
  | item :: rest => item.Writable ∧ AllWritable rest

def MembersWritable : List (Option String × Json) → Prop
  | [] => True
  | (key, value) :: rest => key.isSome ∧ value.Writable ∧ MembersWritable rest

end

theorem writable_array_map {α : Type} {write : α → Json} {items : List α}
    (h : ∀ a ∈ items, (write a).Writable) : (array (items.map write)).Writable := by
  show AllWritable (items.map write)
  induction items with
  | nil => trivial
  | cons a items ih =>
    exact ⟨h a List.mem_cons_self, ih fun b hb => h b (List.mem_cons_of_mem _ hb)⟩

theorem writable_ofFields {fields : List (String × Json)}
    (h : ∀ name j, (name, j) ∈ fields → j.Writable) : (ofFields fields).Writable := by
  show MembersWritable (fields.map fun field => (some field.1, field.2))
  induction fields with
  | nil => trivial
  | cons field fields ih =>
    exact ⟨rfl, h _ _ List.mem_cons_self, ih fun name j hj => h name j (List.mem_cons_of_mem _ hj)⟩

/-- A number begins with a minus sign or a digit. -/
theorem Number.Writable.exists_cons {n : Number} (h : n.Writable) :
    ∃ c s, n.text = c :: s ∧ (c = '-' ∨ c.isDigit = true) := by
  obtain ⟨c, e, hwhole, hc⟩ := h.whole.exists_cons
  unfold Number.text
  rw [hwhole]
  cases n.negative with
  | true => exact ⟨'-', _, rfl, Or.inl rfl⟩
  | false => exact ⟨c, _, rfl, Or.inr hc⟩

/-- A document begins with a character that is neither a blank nor the end of
a container. -/
theorem exists_cons_write (layout : Layout) (depth : Nat) {j : Json} (h : j.Writable) :
    ∃ c s, write layout depth j = c :: s ∧ isSpace c = false ∧ c ≠ ']' ∧ c ≠ '\x7d' := by
  cases j with
  | null => exact ⟨_, _, rfl, by decide⟩
  | bool b => cases b <;> exact ⟨_, _, rfl, by decide⟩
  | number n =>
    obtain ⟨c, s, htext, hc⟩ := Number.Writable.exists_cons h
    refine ⟨c, s, htext, ?_, ?_, ?_⟩
    · simp only [isSpace, Bool.or_eq_false_iff, beq_eq_false_iff_ne]
      refine ⟨⟨⟨?_, ?_⟩, ?_⟩, ?_⟩ <;> rintro rfl <;> revert hc <;> decide
    · rintro rfl
      revert hc
      decide
    · rintro rfl
      revert hc
      decide
  | string s =>
    cases s with
    | none => cases h
    | some s => exact ⟨_, _, rfl, by decide⟩
  | array items => cases items <;> exact ⟨_, _, rfl, by decide⟩
  | object members => rcases members with _ | ⟨⟨_, _⟩, _⟩ <;> exact ⟨_, _, rfl, by decide⟩
  | unreadable => cases h

/-- Where a digit or a minus sign stands, a number is read. -/
theorem readValue_number {n : Number} (h : n.Writable) (fuel : Nat) {blanks rest : List Char}
    (hblanks : Blank blanks) (hrest : NumberEnds rest) :
    readValue (fuel + 1) (blanks ++ (n.text ++ rest)) = (.number n, some rest) := by
  obtain ⟨c, s, htext, hspace, _, _⟩ := exists_cons_write compactLayout 0 (j := .number n) h
  obtain ⟨c', s', htext', hc⟩ := h.exists_cons
  obtain ⟨rfl, rfl⟩ := List.cons.inj (htext.symm.trans htext')
  have hread := readNumber?_text h hrest
  rw [htext', List.cons_append] at hread ⊢
  rw [readValue, skipSpace_append hblanks hspace]
  split
  all_goals first
    | next heq =>
      exfalso
      rw [(List.cons.inj heq).1] at hc
      revert hc
      decide
    | rw [hread]

/-- A number ends before a comma and where a container ends. -/
theorem numberEnds_cons {c : Char} (hc : c ∈ [',', ']', '\x7d']) (s : List Char) :
    NumberEnds (c :: s) := by
  simp only [NumberEnds, List.head?_cons, Option.mem_some_iff, forall_eq']
  simp only [List.mem_cons, List.not_mem_nil, or_false] at hc
  rcases hc with rfl | rfl | rfl <;> decide

theorem numberEnds_blank {blanks : List Char} (hblanks : Blank blanks) {c : Char}
    (hc : c ∈ [',', ']', '\x7d']) (s : List Char) : NumberEnds (blanks ++ c :: s) := by
  cases blanks with
  | nil => exact numberEnds_cons hc s
  | cons b blanks =>
    have hspace := hblanks b (by simp)
    simp only [isSpace, Bool.or_eq_true, beq_iff_eq] at hspace
    simp only [NumberEnds, List.cons_append, List.head?_cons, Option.mem_some_iff, forall_eq']
    rcases hspace with ((rfl | rfl) | rfl) | rfl <;> decide

theorem readValue_string (s : String) (fuel : Nat) {blanks : List Char} (hblanks : Blank blanks)
    (rest : List Char) :
    readValue (fuel + 1) (blanks ++ (quote s.toList ++ rest)) = (.string (some s), some rest) := by
  have hread := readString?_quote s rest
  unfold quote
  rw [List.append_assoc, List.cons_append, List.singleton_append, readValue,
    skipSpace_append hblanks (by decide)]
  simp only [hread]

section Member

variable {fuel : Nat} (key : String) {blanks colon text s t : List Char} {value : Json}
  (hblanks : Blank blanks) (htext : text = ':' :: colon)
  (hvalue : readValue fuel (colon ++ s) = (value, some t))
include hblanks htext hvalue

/-- A member is its key, its colon and its value; a comma may follow. -/
theorem readMembers_next {u : List Char} {members : List (Option String × Json)}
    {rest : Option (List Char)} (hcomma : skipSpace t = ',' :: u)
    (hmembers : readMembers fuel u = (members, rest)) :
    readMembers (fuel + 1) (blanks ++ (quote key.toList ++ (text ++ s))) =
      ((some key, value) :: members, rest) := by
  subst htext
  unfold quote
  rw [readMembers, List.append_assoc, List.cons_append, List.singleton_append,
    skipSpace_append hblanks (by decide)]
  simp only [List.cons_append, readString?_quote key (':' :: (colon ++ s)),
    skipSpace_cons (c := ':') (by decide), hvalue, hcomma, hmembers]

theorem readMembers_last {rest : List Char} (hend : skipSpace t = '\x7d' :: rest) :
    readMembers (fuel + 1) (blanks ++ (quote key.toList ++ (text ++ s))) =
      ([(some key, value)], some rest) := by
  subst htext
  unfold quote
  rw [readMembers, List.append_assoc, List.cons_append, List.singleton_append,
    skipSpace_append hblanks (by decide)]
  simp only [List.cons_append, readString?_quote key (':' :: (colon ++ s)),
    skipSpace_cons (c := ':') (by decide), hvalue, hend]

end Member

section Read

variable {layout : Layout} (hlayout : layout.Blank)
include hlayout

mutual

theorem readValue_write : ∀ (j : Json) (depth fuel : Nat) (blanks rest : List Char), j.Writable →
    Blank blanks → NumberEnds rest → 2 * (write layout depth j).length ≤ fuel →
    readValue fuel (blanks ++ (write layout depth j ++ rest)) = (j, some rest)
  | j, depth, 0, _, _, hj, _, _, hfuel => by
    obtain ⟨c, s, htext, _⟩ := exists_cons_write layout depth hj
    rw [htext, List.length_cons] at hfuel
    omega
  | .null, depth, fuel + 1, blanks, rest, _, hblanks, _, _ => by
    rw [write, List.cons_append, readValue, skipSpace_append hblanks (by decide)]
    rfl
  | .bool true, depth, fuel + 1, blanks, rest, _, hblanks, _, _ => by
    rw [write, List.cons_append, readValue, skipSpace_append hblanks (by decide)]
    rfl
  | .bool false, depth, fuel + 1, blanks, rest, _, hblanks, _, _ => by
    rw [write, List.cons_append, readValue, skipSpace_append hblanks (by decide)]
    rfl
  | .number n, depth, fuel + 1, blanks, rest, hj, hblanks, hrest, _ => by
    rw [write]
    exact readValue_number hj fuel hblanks hrest
  | .string none, _, _, _, _, hj, _, _, _ => by cases hj
  | .string (some s), depth, fuel + 1, blanks, rest, _, hblanks, _, _ => by
    rw [write, Option.elim_some]
    exact readValue_string s fuel hblanks rest
  | .array [], depth, fuel + 1, blanks, rest, _, hblanks, _, _ => by
    rw [write, List.cons_append, readValue, skipSpace_append hblanks (by decide)]
    rfl
  | .array (item :: items), depth, fuel + 1, blanks, rest, hj, hblanks, _, hfuel => by
    rw [write] at hfuel ⊢
    simp only [List.length_append, List.length_cons, List.length_nil] at hfuel
    have hread := readItems_write item items (depth + 1) fuel [] (layout.newline depth) rest hj.1
      hj.2 (by simp [Blank]) (hlayout.newline depth) (by omega)
    obtain ⟨c, s, htext, hspace, hbracket, _⟩ := exists_cons_write layout (depth + 1) hj.1
    rw [List.nil_append, htext, List.cons_append] at hread
    simp only [List.append_assoc, List.cons_append, List.nil_append, htext]
    rw [readValue, skipSpace_append hblanks (by decide)]
    simp only [skipSpace_append (hlayout.newline (depth + 1)) hspace]
    split
    next heq => exact absurd (List.cons.inj heq).1 hbracket
    next => rw [hread]
  | .object [], depth, fuel + 1, blanks, rest, _, hblanks, _, _ => by
    rw [write, List.cons_append, readValue, skipSpace_append hblanks (by decide)]
    rfl
  | .object ((none, _) :: _), _, _, _, _, hj, _, _, _ => by cases hj.1
  | .object ((some key, value) :: members), depth, fuel + 1, blanks, rest, hj, hblanks, _,
      hfuel => by
    rw [write, Option.elim_some] at hfuel ⊢
    simp only [List.length_append, List.length_cons, List.length_nil] at hfuel
    have hread := readMembers_write key value members (depth + 1) fuel [] (layout.newline depth)
      rest hj.2.1 hj.2.2 (by simp [Blank]) (hlayout.newline depth) (by omega)
    rw [List.nil_append, quote, List.cons_append] at hread
    simp only [List.append_assoc, List.cons_append, List.nil_append, quote] at hread ⊢
    rw [readValue, skipSpace_append hblanks (by decide)]
    simp only [skipSpace_append (hlayout.newline (depth + 1)) (c := '"') (by decide)]
    split
    next heq => exact absurd (List.cons.inj heq).1 (by decide)
    next => rw [hread]
  | .unreadable, _, _, _, _, hj, _, _, _ => by cases hj

theorem readItems_write : ∀ (item : Json) (items : List Json) (depth fuel : Nat)
    (blanks closing rest : List Char), item.Writable → AllWritable items → Blank blanks →
    Blank closing →
    2 * ((write layout depth item).length + (writeItems layout depth items).length) + 1 ≤ fuel →
    readItems fuel (blanks ++ (write layout depth item ++ (writeItems layout depth items ++
      (closing ++ ']' :: rest)))) = (item :: items, some rest)
  | _, _, _, 0, _, _, _, _, _, _, _, hfuel => by omega
  | item, [], depth, fuel + 1, blanks, closing, rest, hitem, _, hblanks, hclosing, hfuel => by
    have hread := readValue_write item depth fuel blanks (closing ++ ']' :: rest) hitem hblanks
      (numberEnds_blank hclosing (by decide) rest) (by omega)
    rw [readItems, writeItems, List.nil_append, hread]
    simp only [skipSpace_append hclosing (c := ']') (by decide)]
  | item, next :: items, depth, fuel + 1, blanks, closing, rest, hitem, hitems, hblanks, hclosing,
      hfuel => by
    rw [writeItems] at hfuel ⊢
    simp only [List.length_append, List.length_cons] at hfuel
    simp only [List.append_assoc, List.cons_append]
    rw [readItems, readValue_write item depth fuel blanks _ hitem hblanks
      (numberEnds_cons (by decide) _) (by omega)]
    simp only [skipSpace_cons (c := ',') (by decide)]
    rw [readItems_write next items depth fuel (layout.newline depth) closing rest hitems.1
      hitems.2 (hlayout.newline depth) hclosing (by omega)]

theorem readMembers_write : ∀ (key : String) (value : Json) (members : List (Option String × Json))
    (depth fuel : Nat) (blanks closing rest : List Char), value.Writable → MembersWritable members →
    Blank blanks → Blank closing →
    2 * ((quote key.toList).length + layout.colon.length + (write layout depth value).length +
      (writeMembers layout depth members).length) + 1 ≤ fuel →
    readMembers fuel (blanks ++ (quote key.toList ++ (layout.colon ++ (write layout depth value ++
      (writeMembers layout depth members ++ (closing ++ '\x7d' :: rest)))))) =
      ((some key, value) :: members, some rest)
  | _, _, _, _, 0, _, _, _, _, _, _, _, hfuel => by omega
  | key, value, [], depth, fuel + 1, blanks, closing, rest, hvalue, _, hblanks, hclosing,
      hfuel => by
    obtain ⟨colon, hcolon, hlayoutColon⟩ := hlayout.colon
    have hread := readValue_write value depth fuel colon (closing ++ '\x7d' :: rest) hvalue hcolon
      (numberEnds_blank hclosing (by decide) rest) (by omega)
    rw [writeMembers, List.nil_append]
    exact readMembers_last key hblanks hlayoutColon hread
      (skipSpace_append hclosing (by decide) rest)
  | key, value, (none, _) :: _, _, _ + 1, _, _, _, _, hmembers, _, _, _ => by cases hmembers.1
  | key, value, (some next, other) :: members, depth, fuel + 1, blanks, closing, rest, hvalue,
      hmembers, hblanks, hclosing, hfuel => by
    obtain ⟨colon, hcolon, hlayoutColon⟩ := hlayout.colon
    rw [writeMembers, Option.elim_some] at hfuel ⊢
    simp only [List.length_append, List.length_cons] at hfuel
    simp only [List.append_assoc, List.cons_append]
    have hmore := readMembers_write next other members depth fuel (layout.newline depth) closing
      rest hmembers.2.1 hmembers.2.2 (hlayout.newline depth) hclosing (by omega)
    exact readMembers_next key hblanks hlayoutColon (readValue_write value depth fuel colon _ hvalue
      hcolon (numberEnds_cons (by decide) _) (by omega)) (skipSpace_cons (by decide) _) hmore

end

/-- A document that is written is read as itself, and the text ends with
it. -/
theorem read_write {j : Json} (hj : j.Writable) : read (write layout 0 j) = (j, true) := by
  have hread := readValue_write hlayout j 0 (2 * (write layout 0 j).length + 2) [] [] hj
    (by simp [Blank]) (by simp [NumberEnds]) (by omega)
  rw [List.nil_append, List.append_nil] at hread
  unfold read
  rw [hread]
  rfl

end Read

end Stride.Json
