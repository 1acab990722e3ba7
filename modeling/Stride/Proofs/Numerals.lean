-- The text of a finite number: digits by threes, at most three places, no
-- zero that could be left out. Without its commas it is the number with three
-- places, as far as those say something.
import Stride.Proofs.Rendering
import Stride.Proofs.WholeNumbers

namespace Stride

open Binary64

/-! ## What a numeral is -/

/-- Digits by threes: up to three digits, and then groups of three. -/
structure Grouping where
  first : List Char
  groups : List (List Char)
  digits_first : Digits first
  length_first : first.length ≤ 3
  groups_of_three : ∀ g ∈ groups, Digits g ∧ g.length = 3

namespace Grouping

def digits (g : Grouping) : List Char := g.first ++ g.groups.flatten

/-- A comma is before each group of three. -/
def text (g : Grouping) : List Char := g.first ++ g.groups.flatMap (',' :: ·)

end Grouping

/-- The places behind a point, if there are any. -/
def pointed (places : List Char) : List Char := if places = [] then [] else '.' :: places

/-- A number in text with nothing that could be left out: no zero in front of
another digit, none at the end of the places, no sign of zero. -/
structure Numeral where
  negative : Bool
  whole : Grouping
  places : List Char
  digits_places : ∀ c ∈ places, c.isDigit
  length_places : places.length ≤ 3
  zero_in_front : whole.digits.head? = some '0' → whole.digits = ['0']
  no_zero_at_end : places.getLast? ≠ some '0'
  no_negative_zero : negative = true → ∃ c ∈ whole.digits ++ places, c ≠ '0'

namespace Numeral

def sign (negative : Bool) : List Char := if negative then ['-'] else []

def text (n : Numeral) : List Char := sign n.negative ++ n.whole.text ++ pointed n.places

end Numeral

/-! ## A number with three places -/

/-- The three places of a count of thousandths. -/
def threePlaces (count : Nat) : List Char := (Nat.toDigits 10 (count % 1000 + 1000)).drop 1

/-- A finite number with all of its three places: `-0.500`, `1234.000`, and
`-0.000` where a number below zero was rounded to nothing. -/
def fixedText : Binary64 → List Char
  | .finite negative units _ =>
    Numeral.sign negative ++ Nat.toDigits 10 (thousandths units / 1000) ++
      '.' :: threePlaces (thousandths units)
  | _ => []

/-- Neither the zeros at the end, nor a point that they leave there. -/
def withoutFinalZeros (s : List Char) : List Char :=
  ((s.reverse.dropWhile (· == '0')).dropWhile (· == '.')).reverse

/-- A digit other than zero. -/
def significant (c : Char) : Bool := c.isDigit && c != '0'

/-- A sign only where there is a digit other than zero. -/
def withoutZeroSign : List Char → List Char
  | '-' :: s => if s.any significant then '-' :: s else s
  | s => s

/-! ## The whole digits -/

theorem ne_of_isDigit {c other : Char} (hc : c.isDigit = true) (hother : other.isDigit = false) :
    c ≠ other := by
  rintro rfl
  rw [hother] at hc
  cases hc

theorem Digits.comma_not_mem {d : List Char} (hd : Digits d) : ',' ∉ d :=
  fun h => ne_of_isDigit (hd.2 ',' h) rfl rfl

theorem Digits.head?_append_ne {d : List Char} (hd : Digits d) (s : List Char) {other : Char}
    (hother : other.isDigit = false) : (d ++ s).head? ≠ some other := by
  obtain ⟨first, rest, rfl, hfirst⟩ := hd.exists_cons
  intro hhead
  rw [List.cons_append, List.head?_cons, Option.some.injEq] at hhead
  exact ne_of_isDigit hfirst hother hhead

theorem filter_comma_eq_self {s : List Char} (h : ',' ∉ s) : s.filter (· != ',') = s := by
  rw [List.filter_eq_self]
  intro c hc
  have hne : c ≠ ',' := by
    rintro rfl
    exact h hc
  simpa using hne

namespace Grouping

theorem digits_digits (g : Grouping) : Digits g.digits := by
  refine ⟨List.append_ne_nil_of_left_ne_nil g.digits_first.1 _, ?_⟩
  intro c hc
  rcases List.mem_append.1 hc with hfirst | hrest
  · exact g.digits_first.2 c hfirst
  · obtain ⟨d, hd, hmem⟩ := List.mem_flatten.1 hrest
    exact (g.groups_of_three d hd).1.2 c hmem

/-- Behind the first digits there are threes only. -/
theorem length_digits (g : Grouping) : g.digits.length % 3 = g.first.length % 3 := by
  have hgroups : ∀ groups : List (List Char), (∀ d ∈ groups, Digits d ∧ d.length = 3) →
      groups.flatten.length % 3 = 0 := by
    intro groups h
    induction groups with
    | nil => rfl
    | cons d groups ih =>
      have hrest := ih fun e he => h e (List.mem_cons_of_mem _ he)
      have hthree := (h d List.mem_cons_self).2
      rw [List.flatten_cons, List.length_append]
      omega
  have hrest := hgroups g.groups g.groups_of_three
  unfold digits
  rw [List.length_append]
  omega

theorem filter_text (g : Grouping) : g.text.filter (· != ',') = g.digits := by
  have hgroups : ∀ groups : List (List Char), (∀ d ∈ groups, Digits d ∧ d.length = 3) →
      (groups.flatMap (',' :: ·)).filter (· != ',') = groups.flatten := by
    intro groups h
    induction groups with
    | nil => rfl
    | cons d groups ih =>
      have hd := (h d List.mem_cons_self).1
      rw [List.flatMap_cons, List.cons_append, List.filter_cons_of_neg (by simp),
        List.filter_append, filter_comma_eq_self hd.comma_not_mem,
        ih fun e he => h e (List.mem_cons_of_mem _ he), List.flatten_cons]
  unfold text digits
  rw [List.filter_append, filter_comma_eq_self g.digits_first.comma_not_mem,
    hgroups g.groups g.groups_of_three]

section Digit

variable (digit : Char) (hdigit : digit.isDigit)

def single : Grouping where
  first := [digit]
  groups := []
  digits_first := ⟨by simp, by simpa using hdigit⟩
  length_first := by simp
  groups_of_three := by simp

/-- The digit stands before a full group. -/
def before (g : Grouping) (h : g.first.length = 3) : Grouping where
  first := [digit]
  groups := g.first :: g.groups
  digits_first := ⟨by simp, by simpa using hdigit⟩
  length_first := by simp
  groups_of_three := List.forall_mem_cons.2 ⟨⟨g.digits_first, h⟩, g.groups_of_three⟩

/-- The digit stands with the first ones, which are less than three. -/
def beside (g : Grouping) (h : g.first.length < 3) : Grouping where
  first := digit :: g.first
  groups := g.groups
  digits_first := ⟨by simp, List.forall_mem_cons.2 ⟨hdigit, g.digits_first.2⟩⟩
  length_first := h
  groups_of_three := g.groups_of_three

end Digit

end Grouping

/-- Only zero itself is written with a zero in front. -/
theorem toDigits_of_head?_eq_zero {n : Nat} (h : (Nat.toDigits 10 n).head? = some '0') :
    Nat.toDigits 10 n = ['0'] := by
  by_cases hzero : n = 0
  · rw [hzero]
    rfl
  · exact absurd h (head?_toDigits_ne_zero hzero)

/-- The commas are where a grouping has them. -/
theorem exists_grouping {ds : List Char} (h : Digits ds) :
    ∃ g : Grouping, g.digits = ds ∧ g.text = groupThousands ds := by
  fun_induction groupThousands ds with
  | case1 => exact absurd rfl h.1
  | case2 digit => exact ⟨.single digit (h.2 digit List.mem_cons_self), rfl, rfl⟩
  | case3 digit rest hne hthirds ih =>
    obtain ⟨hdigit, hrest⟩ := List.forall_mem_cons.1 h.2
    obtain ⟨g, rfl, htext⟩ := ih ⟨hne, hrest⟩
    have hfull : g.first.length = 3 := by
      have hpos := List.length_pos_iff.2 g.digits_first.1
      have hle := g.length_first
      rw [g.length_digits] at hthirds
      omega
    refine ⟨g.before digit hdigit hfull, rfl, ?_⟩
    rw [← htext]
    rfl
  | case4 digit rest hne hthirds ih =>
    obtain ⟨hdigit, hrest⟩ := List.forall_mem_cons.1 h.2
    obtain ⟨g, rfl, htext⟩ := ih ⟨hne, hrest⟩
    have hroom : g.first.length < 3 := by
      have hle := g.length_first
      rw [g.length_digits] at hthirds
      omega
    refine ⟨g.beside digit hdigit hroom, rfl, ?_⟩
    rw [← htext]
    rfl

/-! ## The places -/

/-- A thousand more is a digit in front of the places. -/
theorem toDigits_add_thousand (count : Nat) :
    ∃ a b c, Nat.toDigits 10 (count % 1000 + 1000) = ['1', a, b, c] ∧
      threePlaces count = [a, b, c] := by
  have hlt : count % 1000 < 1000 := Nat.mod_lt _ (by decide)
  have hfirst : (count % 1000 + 1000) / 10 / 10 / 10 = 1 := by omega
  have hdigits : ∃ a b c, Nat.toDigits 10 (count % 1000 + 1000) = ['1', a, b, c] := by
    rw [Nat.toDigits_eq_if (by decide), if_neg (by omega), Nat.toDigits_eq_if (by decide),
      if_neg (by omega), Nat.toDigits_eq_if (by decide), if_neg (by omega), hfirst]
    exact ⟨_, _, _, rfl⟩
  obtain ⟨a, b, c, h⟩ := hdigits
  refine ⟨a, b, c, h, ?_⟩
  unfold threePlaces
  rw [h]
  rfl

theorem digits_threePlaces (count : Nat) : ∀ c ∈ threePlaces count, c.isDigit :=
  fun c hc => (digits_toDigits _).2 c (List.mem_of_mem_drop hc)

theorem length_threePlaces (count : Nat) : (threePlaces count).length = 3 := by
  obtain ⟨a, b, c, _, hplaces⟩ := toDigits_add_thousand count
  rw [hplaces]
  rfl

theorem ofDigitChars_threePlaces (count : Nat) :
    Nat.ofDigitChars 10 (threePlaces count) 0 = count % 1000 := by
  obtain ⟨a, b, c, hdigits, hplaces⟩ := toDigits_add_thousand count
  have hvalue : Nat.ofDigitChars 10 ['1', a, b, c] 0 = count % 1000 + 1000 := by
    rw [← hdigits, Nat.ofDigitChars_ten_toDigits]
  have hone : 10 * 0 + ('1'.toNat - '0'.toNat) = 1 := by decide
  have hlength : [a, b, c].length = 3 := rfl
  rw [Nat.ofDigitChars_cons, hone, Nat.ofDigitChars_eq_ofDigitChars_zero, hlength] at hvalue
  rw [hplaces]
  omega

/-- The places that are shown, and the zeros behind them that are not. -/
theorem fractionText_spec (count : Nat) :
    ∃ places z, fractionText count = pointed places ∧
      threePlaces count = places ++ List.replicate z '0' ∧ places.getLast? ≠ some '0' := by
  obtain ⟨z, hz⟩ := exists_zeros_at_end (threePlaces count)
  refine ⟨_, z, ?_, hz, ?_⟩
  · unfold fractionText pointed threePlaces
    dsimp only
    split
    next hnone => rw [if_pos hnone]
    next hsome => rw [if_neg hsome]
  · rw [List.getLast?_reverse]
    intro hzero
    have hnot := List.head?_dropWhile_not (· == '0') (threePlaces count).reverse
    rw [hzero] at hnot
    simp at hnot

theorem mem_pointed_of_mem {places : List Char} {c : Char} (h : c ∈ places) :
    c ∈ pointed places := by
  unfold pointed
  rw [if_neg (List.ne_nil_of_mem h)]
  exact List.mem_cons_of_mem _ h

theorem mem_pointed {places : List Char} {c : Char} (h : c ∈ pointed places) :
    c = '.' ∨ c ∈ places := by
  unfold pointed at h
  split at h
  next => cases h
  next => exact List.mem_cons.1 h

/-! ## What is left out -/

/-- The point goes with the zeros if there is no other place. -/
theorem withoutFinalZeros_append {whole places : List Char} (z : Nat) (hwhole : Digits whole)
    (hdigits : ∀ c ∈ places, c.isDigit) (hlast : places.getLast? ≠ some '0') (s : List Char) :
    withoutFinalZeros (s ++ whole ++ '.' :: (places ++ List.replicate z '0')) =
      s ++ whole ++ pointed places := by
  -- Backwards the zeros come first, and then the places, if there are any.
  have hzeros : ∀ c ∈ List.replicate z '0', (c == '0') = true := by
    intro c hc
    rw [List.eq_of_mem_replicate hc]
    rfl
  have hreverse : (s ++ whole ++ '.' :: (places ++ List.replicate z '0')).reverse =
      List.replicate z '0' ++ (places.reverse ++ '.' :: (whole.reverse ++ s.reverse)) := by
    simp
  unfold withoutFinalZeros
  rw [hreverse, List.dropWhile_append_of_pos hzeros]
  rcases List.eq_nil_or_concat places with rfl | ⟨front, last, rfl⟩
  · obtain ⟨front, last, rfl⟩ := List.eq_nil_or_concat whole |>.resolve_left hwhole.1
    have hpoint : last ≠ '.' := ne_of_isDigit (hwhole.2 last (by simp)) rfl
    simp [pointed, hpoint]
  · have hzero : last ≠ '0' := by
      rintro rfl
      simp at hlast
    have hpoint : last ≠ '.' := ne_of_isDigit (hdigits last (by simp)) rfl
    simp [pointed, hzero, hpoint]

theorem withoutZeroSign_append (negative : Bool) {s : List Char} (h : s.head? ≠ some '-') :
    withoutZeroSign (Numeral.sign negative ++ s) =
      Numeral.sign (negative && s.any significant) ++ s := by
  cases negative with
  | false =>
    change withoutZeroSign s = s
    unfold withoutZeroSign
    split
    next => exact absurd rfl h
    next => rfl
  | true =>
    change (if s.any significant then '-' :: s else s) = _
    cases s.any significant <;> rfl

section Significant

variable {count z : Nat} {places : List Char}

/-- A count above zero has a digit above zero: the first of the whole digits,
or else the last of the places. -/
theorem exists_digit_ne_zero (hplaces : threePlaces count = places ++ List.replicate z '0')
    (hlast : places.getLast? ≠ some '0') (h : count ≠ 0) :
    ∃ c ∈ Nat.toDigits 10 (count / 1000) ++ places, c ≠ '0' := by
  by_cases hwhole : count / 1000 = 0
  · have hvalue := ofDigitChars_threePlaces count
    rcases List.eq_nil_or_concat places with rfl | ⟨front, last, rfl⟩
    · rw [hplaces, List.nil_append, Nat.ofDigitChars_replicate_zero] at hvalue
      omega
    · refine ⟨last, by simp, ?_⟩
      rintro rfl
      simp at hlast
  · have hhead := head?_toDigits_ne_zero hwhole
    obtain ⟨first, rest, hdigits, _⟩ := (digits_toDigits (count / 1000)).exists_cons
    rw [hdigits] at hhead
    refine ⟨first, by simp [hdigits], ?_⟩
    rintro rfl
    exact hhead rfl

theorem eq_zero_of_mem (hplaces : threePlaces 0 = places ++ List.replicate z '0') {c : Char}
    (hc : c ∈ Nat.toDigits 10 0 ++ places) : c = '0' := by
  have hzeros : threePlaces 0 = List.replicate 3 '0' := rfl
  rcases List.mem_append.1 hc with hc | hc
  · exact List.mem_singleton.1 hc
  · apply List.eq_of_mem_replicate (n := 3)
    rw [← hzeros, hplaces]
    exact List.mem_append_left _ hc

theorem any_significant (hplaces : threePlaces count = places ++ List.replicate z '0')
    (hlast : places.getLast? ≠ some '0') :
    (Nat.toDigits 10 (count / 1000) ++ pointed places).any significant = (count != 0) := by
  by_cases hzero : count = 0
  · subst hzero
    rw [bne_self_eq_false, List.any_eq_false]
    intro c hc
    rcases List.mem_append.1 hc with hwhole | hpointed
    · rw [eq_zero_of_mem hplaces (List.mem_append_left _ hwhole)]
      decide
    · rcases mem_pointed hpointed with rfl | hplace
      · decide
      · rw [eq_zero_of_mem hplaces (List.mem_append_right _ hplace)]
        decide
  · obtain ⟨c, hc, hne⟩ := exists_digit_ne_zero hplaces hlast hzero
    have hdigit : c.isDigit := by
      rcases List.mem_append.1 hc with hwhole | hplace
      · exact (digits_toDigits _).2 c hwhole
      · apply digits_threePlaces count
        rw [hplaces]
        exact List.mem_append_left _ hplace
    have hmem : c ∈ Nat.toDigits 10 (count / 1000) ++ pointed places := by
      rcases List.mem_append.1 hc with hwhole | hplace
      · exact List.mem_append_left _ hwhole
      · exact List.mem_append_right _ (mem_pointed_of_mem hplace)
    rw [bne_iff_ne.2 hzero, List.any_eq_true]
    exact ⟨c, hmem, by simp [significant, hdigit, hne]⟩

end Significant

/-! ## The numeral of a count -/

namespace Numeral

theorem filter_text (n : Numeral) :
    n.text.filter (· != ',') = sign n.negative ++ n.whole.digits ++ pointed n.places := by
  have hsign : ',' ∉ sign n.negative := by
    cases n.negative <;> decide
  have hplaces : ',' ∉ pointed n.places := by
    intro h
    rcases mem_pointed h with h | h
    · cases h
    · exact ne_of_isDigit (n.digits_places ',' h) rfl rfl
  unfold text
  rw [List.filter_append, List.filter_append, n.whole.filter_text, filter_comma_eq_self hsign,
    filter_comma_eq_self hplaces]

theorem text_ne_negative_zero (n : Numeral) : n.text ≠ ['-', '0'] := by
  intro h
  have hplain : sign n.negative ++ n.whole.digits ++ pointed n.places = ['-', '0'] := by
    rw [← n.filter_text, h]
    rfl
  cases hnegative : n.negative with
  | false =>
    rw [hnegative] at hplain
    exact n.whole.digits_digits.head?_append_ne (pointed n.places) rfl (congrArg List.head? hplain)
  | true =>
    rw [hnegative] at hplain
    obtain ⟨c, hc, hne⟩ := n.no_negative_zero hnegative
    have hmem : c ∈ n.whole.digits ++ pointed n.places := by
      rcases List.mem_append.1 hc with hwhole | hplace
      · exact List.mem_append_left _ hwhole
      · exact List.mem_append_right _ (mem_pointed_of_mem hplace)
    have hzero : n.whole.digits ++ pointed n.places = ['0'] := List.tail_eq_of_cons_eq hplain
    rw [hzero] at hmem
    exact hne (List.mem_singleton.1 hmem)

end Numeral

theorem exists_numeral (negative : Bool) (count : Nat) : ∃ (n : Numeral) (z : Nat),
    n.negative = (negative && count != 0) ∧
    n.whole.digits = Nat.toDigits 10 (count / 1000) ∧
    threePlaces count = n.places ++ List.replicate z '0' ∧
    n.text = Numeral.sign n.negative ++
      (groupThousands (Nat.toDigits 10 (count / 1000)) ++ fractionText count) := by
  obtain ⟨whole, hwhole, hgroups⟩ := exists_grouping (digits_toDigits (count / 1000))
  obtain ⟨places, z, hfraction, hplaces, hlast⟩ := fractionText_spec count
  have hlength : places.length ≤ 3 := by
    have hthree := congrArg List.length hplaces
    rw [length_threePlaces, List.length_append] at hthree
    omega
  have hdigits : ∀ c ∈ places, c.isDigit := by
    intro c hc
    apply digits_threePlaces count
    rw [hplaces]
    exact List.mem_append_left _ hc
  have hfront : whole.digits.head? = some '0' → whole.digits = ['0'] := by
    rw [hwhole]
    exact toDigits_of_head?_eq_zero
  have hsign : (negative && count != 0) = true → ∃ c ∈ whole.digits ++ places, c ≠ '0' := by
    rw [hwhole, Bool.and_eq_true, bne_iff_ne]
    exact fun h => exists_digit_ne_zero hplaces hlast h.2
  refine ⟨⟨negative && count != 0, whole, places, hdigits, hlength, hfront, hlast, hsign⟩, z, rfl,
    hwhole, hplaces, ?_⟩
  rw [← hgroups, hfraction]
  exact List.append_assoc _ _ _

/-! ## The numeral of a number -/

theorem isFinite_round_div_thousand {x : Binary64} (hx : x.isFinite = true) :
    (x.round / 1000).isFinite = true := by
  have hthousand : (1000 : Binary64) = ofNat 1000 := rfl
  rw [hthousand]
  exact isFinite_div_ofNat (isFinite_round hx) (by decide) (by decide)

theorem isFinite_roundThousandths {x : Binary64} (hx : x.isFinite = true) :
    (roundThousandths x).isFinite = true := by
  unfold roundThousandths
  dsimp only
  split
  next hscaled => exact isFinite_round_div_thousand hscaled
  next => exact hx

theorem numeral_finite {x : Binary64} {negative : Bool} {u : Nat} {hu : Representable u}
    (h : roundThousandths x = .finite negative u hu) :
    numeral x = Numeral.sign (negative && thousandths u != 0) ++
      (groupThousands (Nat.toDigits 10 (thousandths u / 1000)) ++
        fractionText (thousandths u)) := by
  unfold numeral
  rw [h]
  dsimp only
  cases negative && thousandths u != 0 <;> rfl

/-! ## What a numeral shows -/

/-- The number in a text without a sign, in thousandths. -/
def shownThousandths (s : List Char) : Nat :=
  let plain := s.filter (· != ',')
  let places := (plain.dropWhile Char.isDigit).drop 1
  Nat.ofDigitChars 10 (plain.takeWhile Char.isDigit) 0 * 1000 +
    Nat.ofDigitChars 10 (places.rightpad 3 '0') 0

theorem shownThousandths_numeral {x : Binary64} {u : Nat} {hu : Representable u}
    (h : roundThousandths x = .finite false u hu) :
    shownThousandths (numeral x) = thousandths u := by
  obtain ⟨n, z, hnegative, hwhole, hplaces, htext⟩ := exists_numeral false (thousandths u)
  have hplain : (numeral x).filter (· != ',') = n.whole.digits ++ pointed n.places := by
    rw [numeral_finite h, ← hnegative, ← htext, n.filter_text, hnegative]
    rfl
  have hpointed : NoDigit (pointed n.places) := by
    unfold pointed
    split <;> simp [NoDigit]
  have hdrop : (pointed n.places).drop 1 = n.places := by
    unfold pointed
    split
    next hnone => exact hnone.symm
    next => rfl
  have hpad : n.places.rightpad 3 '0' = threePlaces (thousandths u) := by
    have hlength := congrArg List.length hplaces
    rw [length_threePlaces, List.length_append, List.length_replicate] at hlength
    have hz : 3 - n.places.length = z := by omega
    rw [hplaces, List.rightpad, hz]
  have hdigits := n.whole.digits_digits
  unfold shownThousandths
  dsimp only
  rw [hplain, takeWhile_digits hdigits hpointed, dropWhile_digits hdigits hpointed, hdrop, hpad,
    hwhole, Nat.ofDigitChars_ten_toDigits, ofDigitChars_threePlaces]
  exact Nat.div_add_mod' _ 1000

/-! ## The law -/

/-- The text of a finite number is a numeral: digits in groups of three, at
most three places, no zero too many, and no `-0`. Without the commas it is the
rounded number with three places, less the zeros at the end, the point if it
is last then, and the sign of zero. -/
theorem finite_numbers_have_a_numeral {x : Binary64} (hx : x.isFinite = true) :
    (roundThousandths x).isFinite = true ∧
      (∃ n : Numeral, numeral x = n.text) ∧ numeral x ≠ ['-', '0'] ∧
      (numeral x).filter (· != ',') =
        withoutZeroSign (withoutFinalZeros (fixedText (roundThousandths x))) := by
  have hfinite := isFinite_roundThousandths hx
  cases hrounded : roundThousandths x with
  | nan => rw [hrounded] at hfinite; cases hfinite
  | infinite negative => rw [hrounded] at hfinite; cases hfinite
  | finite negative u hu =>
    obtain ⟨n, z, hnegative, hwhole, hplaces, htext⟩ := exists_numeral negative (thousandths u)
    have hnumeral : numeral x = n.text := by
      rw [numeral_finite hrounded, htext, hnegative]
    have hfixed : fixedText (.finite negative u hu) = Numeral.sign negative ++ n.whole.digits ++
        '.' :: (n.places ++ List.replicate z '0') := by
      rw [← hplaces, hwhole]
      rfl
    have hdigits := n.whole.digits_digits
    have hminus : (n.whole.digits ++ pointed n.places).head? ≠ some '-' :=
      hdigits.head?_append_ne _ rfl
    refine ⟨rfl, ⟨n, hnumeral⟩, ?_, ?_⟩
    · rw [hnumeral]
      exact n.text_ne_negative_zero
    · rw [hnumeral, n.filter_text, hfixed,
        withoutFinalZeros_append z hdigits n.digits_places n.no_zero_at_end, List.append_assoc,
        List.append_assoc, withoutZeroSign_append negative hminus, hwhole,
        any_significant hplaces n.no_zero_at_end, hnegative]

/-- A sign, two commas and a place, of which the zeros behind it are not shown. -/
theorem a_negative_number_has_a_numeral :
    (ofDecimal true 12345675 (-1)).isFinite = true ∧
      numeral (ofDecimal true 12345675 (-1)) = "-1,234,567.5".toList ∧
      fixedText (roundThousandths (ofDecimal true 12345675 (-1))) = "-1234567.500".toList ∧
      withoutZeroSign (withoutFinalZeros "-1234567.500".toList) = "-1234567.5".toList := by
  have hfinite : (ofDecimal true 12345675 (-1)).isFinite = true := by decide +kernel
  have htext : numeral (ofDecimal true 12345675 (-1)) = "-1,234,567.5".toList := by decide +kernel
  have hfixed : fixedText (roundThousandths (ofDecimal true 12345675 (-1))) =
      "-1234567.500".toList := by decide +kernel
  have hplain : "-1,234,567.5".toList.filter (· != ',') = "-1234567.5".toList := by decide +kernel
  have hlaw := (finite_numbers_have_a_numeral hfinite).2.2.2
  rw [htext, hfixed, hplain] at hlaw
  exact ⟨hfinite, htext, hfixed, hlaw.symm⟩

/-- What is rounded to zero from below has no sign. -/
example : numeral (ofDecimal true 1 (-4)) = ['0'] := by decide +kernel

end Stride
