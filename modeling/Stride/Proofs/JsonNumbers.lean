-- Numbers in JSON text: what is written is read again digit by digit, and a
-- finite number is written so that what is read counts as the same number.
import Mathlib.Data.List.Basic
import Stride.Json.Read
import Stride.Proofs.Decimals
import Stride.Proofs.Scan

namespace Stride

/-! ## Digits -/

/-- A list is what is left without the zeros at its end, and zeros. -/
theorem exists_zeros_at_end (l : List Char) :
    ∃ z, l = (l.reverse.dropWhile (· == '0')).reverse ++ List.replicate z '0' := by
  have hzeros : ∀ c ∈ l.reverse.takeWhile (· == '0'), c = '0' := by
    intro c hc
    have hall := List.all_eq_true.1 (List.all_takeWhile (p := (· == '0')) (l := l.reverse)) c hc
    exact eq_of_beq hall
  refine ⟨(l.reverse.takeWhile (· == '0')).length, ?_⟩
  conv => lhs; rw [← l.reverse_reverse, ← List.takeWhile_append_dropWhile (p := (· == '0'))
    (l := l.reverse), List.reverse_append]
  rw [List.eq_replicate_of_mem hzeros, List.reverse_replicate, List.length_replicate]

theorem digits_toDigits (n : Nat) : Digits (Nat.toDigits 10 n) :=
  ⟨Nat.toDigits_ne_nil, fun _ hc => Nat.isDigit_of_mem_toDigits (by decide) (by decide) hc⟩

/-- A positive number is written without zeros in front. -/
theorem head?_toDigits_ne_zero {n : Nat} (h : n ≠ 0) : (Nat.toDigits 10 n).head? ≠ some '0' := by
  induction n using Nat.strongRecOn with
  | ind n ih =>
    rw [Nat.toDigits_eq_if (by decide)]
    split
    next hlt =>
      intro hhead
      rw [List.head?_cons, Option.some.injEq] at hhead
      have hvalue := Nat.toNat_digitChar_sub_48_of_lt_ten hlt
      rw [hhead] at hvalue
      exact h hvalue.symm
    next hle =>
      rw [List.head?_append_of_ne_nil _ Nat.toDigits_ne_nil]
      exact ih (n / 10) (by omega) (by omega)

namespace Json

/-! ## Numbers that a text can have -/

namespace Number

/-- The digits are digits, with no zeros in front. -/
structure Writable (n : Number) : Prop where
  whole : Digits n.whole
  leading : n.whole = ['0'] ∨ n.whole.head? ≠ some '0'
  fraction : ∀ c ∈ n.fraction, c.isDigit

end Number

/-- No number goes on here. -/
def NumberEnds (s : List Char) : Prop :=
  ∀ c ∈ s.head?, c.isDigit = false ∧ c ≠ '.' ∧ c ≠ 'e' ∧ c ≠ 'E'

theorem NumberEnds.noDigit {s : List Char} (h : NumberEnds s) : NoDigit s := fun c hc => (h c hc).1

theorem readSign_append (negative : Bool) {d t : List Char} (hd : Digits d) :
    readSign ((if negative then ['-'] else []) ++ (d ++ t)) = (negative, d ++ t) := by
  cases negative with
  | true => rfl
  | false =>
    obtain ⟨c, e, rfl, hc⟩ := hd.exists_cons
    have hminus : c ≠ '-' := by
      rintro rfl
      cases hc
    simp [readSign, hminus]

theorem readWhole?_append {d t : List Char} (hd : Digits d)
    (hleading : d = ['0'] ∨ d.head? ≠ some '0') (ht : NoDigit t) :
    readWhole? (d ++ t) = some (d, t) := by
  unfold readWhole?
  rw [takeWhile_digits hd ht, dropWhile_digits hd ht]
  split
  next => exact absurd rfl hd.1
  next c e =>
    rcases hleading with h | h
    · cases h
    · exact absurd rfl h
  next => rfl

theorem readFraction?_append {f t : List Char} (hf : ∀ c ∈ f, c.isDigit) (ht : NoDigit t)
    (hpoint : t.head? ≠ some '.') :
    readFraction? ((if f.isEmpty then [] else '.' :: f) ++ t) = some (f, t) := by
  cases f with
  | nil =>
    simp only [List.isEmpty_nil, if_true, List.nil_append, readFraction?]
    split
    next => exact absurd rfl hpoint
    next => rfl
  | cons c f =>
    have hd : Digits (c :: f) := ⟨by simp, hf⟩
    simp only [List.isEmpty_cons, Bool.false_eq_true, if_false, List.cons_append, readFraction?]
    rw [← List.cons_append, takeWhile_digits hd ht, dropWhile_digits hd ht]

theorem readExponent?_none {t : List Char} (ht : NumberEnds t) :
    readExponent? t = some (none, t) := by
  unfold readExponent?
  split
  next => exact absurd rfl (ht 'e' (by simp)).2.2.1
  next => exact absurd rfl (ht 'E' (by simp)).2.2.2
  next => rfl

theorem exponentSign_cons (exponent : Int) (s : List Char) :
    exponentSign ((if exponent < 0 then '-' else '+') :: s) = (decide (exponent < 0), s) := by
  by_cases h : exponent < 0 <;> simp [h, exponentSign, readSign]

theorem readExponent?_text (exponent : Int) {t : List Char} (ht : NumberEnds t) :
    readExponent? (Number.exponentText exponent ++ t) = some (some exponent, t) := by
  have hd := digits_toDigits exponent.natAbs
  unfold Number.exponentText
  rw [List.cons_append, List.cons_append, readExponent?]
  simp only [exponentSign_cons, decide_eq_true_eq]
  rw [takeWhile_digits hd ht.noDigit, dropWhile_digits hd ht.noDigit]
  split
  next hnil => exact absurd hnil hd.1
  next =>
    rw [Nat.ofDigitChars_ten_toDigits]
    congr 3
    split <;> omega

/-- A number that was written is read as it is. -/
theorem readNumber?_text {n : Number} (h : n.Writable) {rest : List Char}
    (hrest : NumberEnds rest) :
    readNumber? (n.text ++ rest) = some (n, rest) := by
  obtain ⟨negative, whole, fraction, exponent⟩ := n
  obtain ⟨hwhole, hleading, hfraction⟩ := h
  -- What stands behind the whole digits and behind the fraction.
  have hexponent : NoDigit (exponent.elim [] Number.exponentText ++ rest) ∧
      (exponent.elim [] Number.exponentText ++ rest).head? ≠ some '.' ∧
      readExponent? (exponent.elim [] Number.exponentText ++ rest) = some (exponent, rest) := by
    cases exponent with
    | none =>
      refine ⟨hrest.noDigit, ?_, readExponent?_none hrest⟩
      intro hpoint
      exact (hrest '.' hpoint).2.1 rfl
    | some e =>
      refine ⟨?_, by simp [Number.exponentText], readExponent?_text e hrest⟩
      simp [NoDigit, Number.exponentText]
  have hnoDigit : NoDigit ((if fraction.isEmpty then [] else '.' :: fraction) ++
      (exponent.elim [] Number.exponentText ++ rest)) := by
    cases fraction with
    | nil => exact hexponent.1
    | cons c f => simp [NoDigit]
  unfold readNumber? Number.text
  simp only [List.append_assoc]
  rw [readSign_append negative hwhole]
  simp only [Option.bind_eq_bind, readWhole?_append hwhole hleading hnoDigit,
    readFraction?_append hfraction hexponent.1 hexponent.2.1, hexponent.2.2, Option.bind_some]
  rfl

end Json

/-! ## The text of a finite number -/

section Significant

variable {d : Decimal}

/-- The digits of a decimal are the significant ones and zeros, which its
point takes into account. -/
theorem Decimal.exists_zeros (d : Decimal) : ∃ z : Nat,
    Nat.toDigits 10 d.digits = d.significant ++ List.replicate z '0' ∧
    d.digits = Nat.ofDigitChars 10 d.significant 0 * 10 ^ z ∧
    d.point = d.significant.length + z + d.exponent := by
  obtain ⟨z, hz⟩ := exists_zeros_at_end (Nat.toDigits 10 d.digits)
  refine ⟨z, hz, ?_, ?_⟩
  · have hvalue := congrArg (Nat.ofDigitChars 10 · 0) hz
    simp only [Nat.ofDigitChars_ten_toDigits, Nat.ofDigitChars_append,
      Nat.ofDigitChars_replicate_zero] at hvalue
    rw [Nat.mul_comm]
    exact hvalue
  · have hlength := congrArg List.length hz
    rw [List.length_append, List.length_replicate] at hlength
    unfold Decimal.point decimalLength
    rw [hlength]
    unfold Decimal.significant
    omega

theorem Decimal.digits_significant (h : d.digits ≠ 0) :
    Digits d.significant ∧ d.significant.head? ≠ some '0' := by
  obtain ⟨z, hz, hvalue, _⟩ := d.exists_zeros
  have hne : d.significant ≠ [] := by
    intro hnil
    rw [hnil, Nat.ofDigitChars_nil, Nat.zero_mul] at hvalue
    exact h hvalue
  refine ⟨⟨hne, fun c hc => (digits_toDigits d.digits).2 c ?_⟩, ?_⟩
  · rw [hz]
    exact List.mem_append_left _ hc
  · have hhead := head?_toDigits_ne_zero h
    rwa [hz, List.head?_append_of_ne_nil _ hne] at hhead

/-- A decimal counts as its significant digits, set by the point. -/
theorem Decimal.ofDecimal_significant (negative : Bool) (d : Decimal) :
    Binary64.ofDecimal negative d.digits d.exponent =
      Binary64.ofDecimal negative (Nat.ofDigitChars 10 d.significant 0)
        (d.point - d.significant.length) := by
  obtain ⟨z, _, hvalue, hpoint⟩ := d.exists_zeros
  rw [hvalue, Binary64.ofDecimal_mul_pow, hpoint]
  congr 1
  omega

end Significant

namespace Json.Number

theorem ofDigitChars_zeros_append (k : Nat) (ds : List Char) :
    Nat.ofDigitChars 10 ('0' :: (List.replicate k '0' ++ ds)) 0 = Nat.ofDigitChars 10 ds 0 := by
  rw [← List.cons_append, ← List.replicate_succ, Nat.ofDigitChars_append,
    Nat.ofDigitChars_replicate_zero, Nat.mul_zero]

section OfDecimal

variable (negative : Bool) {d : Decimal}

/-- The digits before the point, between them, or zeros behind them: in each
case the same digits with the same point. -/
theorem positional_spec (h : d.digits ≠ 0) :
    (positional negative d).Writable ∧
    (positional negative d).toBinary64 = Binary64.ofDecimal negative d.digits d.exponent := by
  obtain ⟨hdigits, hhead⟩ := Decimal.digits_significant h
  rw [Decimal.ofDecimal_significant]
  unfold positional
  dsimp only
  generalize d.significant = ds at hdigits hhead ⊢
  generalize d.point = point
  have hlength : 0 < ds.length := List.length_pos_iff.2 hdigits.1
  by_cases hbefore : point ≤ 0
  · -- `0.00ds`
    have hpoint : point.toNat = 0 := by omega
    obtain ⟨k, hk⟩ : ∃ k, (-point).toNat = k := ⟨_, rfl⟩
    have hfraction : (List.replicate k '0' ++ ds).isEmpty = false := by
      cases ds with
      | nil => cases hlength
      | cons c ds => cases k <;> rfl
    simp only [hpoint, hk, List.take_zero, List.drop_zero, Nat.zero_sub, List.replicate_zero,
      List.append_nil, List.isEmpty_nil, if_true, hfraction, Bool.false_eq_true, if_false]
    refine ⟨⟨⟨by simp, by simp⟩, Or.inl rfl, ?_⟩, ?_⟩
    · intro c hc
      rcases List.mem_append.1 hc with hc | hc
      · rw [List.eq_of_mem_replicate hc]
        rfl
      · exact hdigits.2 c hc
    · simp only [toBinary64, Number.digits, List.cons_append, List.nil_append, Option.getD_none,
        ofDigitChars_zeros_append, List.length_append, List.length_replicate]
      congr 1
      omega
  · obtain ⟨p, rfl⟩ : ∃ p : Nat, point = p := ⟨point.toNat, by omega⟩
    have hp : 0 < p := by omega
    have hzeros : (-(p : Int)).toNat = 0 := by omega
    have hwhole : (ds.take p ++ List.replicate (p - ds.length) '0').isEmpty = false := by
      cases ds with
      | nil => cases hlength
      | cons c ds =>
        cases p with
        | zero => cases hp
        | succ p => rfl
    have hwritable (f : List Char) (hf : ∀ c ∈ f, c.isDigit) : Writable
        ⟨negative, ds.take p ++ List.replicate (p - ds.length) '0', f, none⟩ := by
      refine ⟨⟨by simpa using hwhole, ?_⟩, Or.inr ?_, hf⟩
      · intro c hc
        rcases List.mem_append.1 hc with hc | hc
        · exact hdigits.2 c (List.mem_of_mem_take hc)
        · rw [List.eq_of_mem_replicate hc]
          rfl
      · cases ds with
        | nil => cases hlength
        | cons c ds =>
          cases p with
          | zero => cases hp
          | succ p => simpa using hhead
    simp only [Int.toNat_natCast, hzeros, List.replicate_zero, List.nil_append, hwhole,
      Bool.false_eq_true, if_false]
    by_cases hinside : p < ds.length
    · -- `d.s`
      have hnil : p - ds.length = 0 := by omega
      have hdrop : (ds.drop p).isEmpty = false := by simpa using hinside
      simp only [hdrop, Bool.false_eq_true, if_false]
      refine ⟨hwritable _ fun c hc => hdigits.2 c (List.mem_of_mem_drop hc), ?_⟩
      simp only [toBinary64, Number.digits, hnil, List.replicate_zero, List.append_nil,
        List.take_append_drop, Option.getD_none, List.length_drop]
      congr 1
      omega
    · -- `ds00.0`
      have htake : ds.take p = ds := List.take_of_length_le (by omega)
      have hdrop : ds.drop p = [] := List.drop_of_length_le (by omega)
      simp only [hdrop, List.isEmpty_nil, if_true]
      refine ⟨hwritable _ (by simp), ?_⟩
      have hzero : ['0'] = List.replicate 1 '0' := rfl
      simp only [toBinary64, Number.digits, htake, hzero, List.append_assoc,
        List.replicate_append_replicate, Nat.ofDigitChars_append, Nat.ofDigitChars_replicate_zero,
        Option.getD_none, List.length_replicate]
      rw [Nat.mul_comm, Binary64.ofDecimal_mul_pow]
      congr 1
      omega

theorem scientific_spec (h : d.digits ≠ 0) :
    (scientific negative d).Writable ∧
    (scientific negative d).toBinary64 = Binary64.ofDecimal negative d.digits d.exponent := by
  obtain ⟨hdigits, hhead⟩ := Decimal.digits_significant h
  rw [Decimal.ofDecimal_significant]
  unfold scientific
  generalize d.significant = ds at hdigits hhead ⊢
  generalize d.point = point
  obtain ⟨c, ds, rfl, hc⟩ := hdigits.exists_cons
  refine ⟨⟨⟨by simp, by simpa using hc⟩, Or.inr hhead, ?_⟩, ?_⟩
  · intro e he
    exact hdigits.2 e (List.mem_of_mem_drop he)
  · simp only [toBinary64, Number.digits, List.take_append_drop, Option.getD_some,
      List.length_drop, List.length_cons]
    congr 1
    omega

theorem ofDecimal_spec (d : Decimal) :
    (Number.ofDecimal negative d).Writable ∧
    (Number.ofDecimal negative d).toBinary64 =
      Binary64.ofDecimal negative d.digits d.exponent := by
  unfold Number.ofDecimal
  split
  next hzero =>
    refine ⟨⟨⟨by simp, by simp⟩, Or.inl rfl, by simp⟩, ?_⟩
    rw [hzero, Binary64.ofDecimal_zero]
    exact Binary64.ofDecimal_zero negative _
  next hzero =>
    split
    · exact positional_spec negative hzero
    · exact scientific_spec negative hzero

end OfDecimal

/-- What is written of a finite number counts as that number. -/
theorem ofBinary64?_spec {x : Binary64} {n : Number} (h : ofBinary64? x = some n) :
    n.Writable ∧ n.toBinary64 = x := by
  cases x with
  | nan => cases h
  | infinite negative => cases h
  | finite negative u hu =>
    cases h
    have hspec := ofDecimal_spec negative (Decimal.shortest (.finite negative u hu))
    rwa [Decimal.ofDecimal_shortest] at hspec

theorem ofBinary64?_eq_none {x : Binary64} (h : x.isFinite = false) : ofBinary64? x = none := by
  cases x with
  | nan => rfl
  | infinite negative => rfl
  | finite negative u hu => cases h

theorem exists_ofBinary64? {x : Binary64} (h : x.isFinite = true) :
    ∃ n, ofBinary64? x = some n := by
  cases x with
  | nan => cases h
  | infinite negative => cases h
  | finite negative u hu => exact ⟨_, rfl⟩

end Json.Number

end Stride
