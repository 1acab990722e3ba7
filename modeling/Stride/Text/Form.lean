-- Form encoding of queries: names and values with `%` escapes and `+` for
-- a blank.
import Stride.Text.Scan
import Stride.Text.Split

namespace Stride

/-- A `+` stands for a blank. -/
def plusByte (b : UInt8) : UInt8 := if b = 0x2B then 0x20 else b

def hexByte? (high low : UInt8) : Option UInt8 := do
  let h ← hexValue? (Char.ofNat high.toNat)
  let l ← hexValue? (Char.ofNat low.toNat)
  return UInt8.ofNat (16 * h + l)

/-- The bytes that a part of a query stands for. A `%` without two
hexadecimal digits behind it stands for itself. -/
def formBytes : List UInt8 → List UInt8
  | [] => []
  | b :: high :: low :: rest =>
    match if b = 0x25 then hexByte? high low else none with
    | some byte => byte :: formBytes rest
    | none => plusByte b :: formBytes (high :: low :: rest)
  | b :: rest => plusByte b :: formBytes rest

/-! ## Text from bytes that may be no text -/

/-- How many bytes follow a first byte, and the range of the one after it. -/
def sequenceShape? (b : Nat) : Option (Nat × Nat × Nat) :=
  if 0xC2 ≤ b ∧ b ≤ 0xDF then some (1, 0x80, 0xBF)
  else if b = 0xE0 then some (2, 0xA0, 0xBF)
  else if b = 0xED then some (2, 0x80, 0x9F)
  else if 0xE1 ≤ b ∧ b ≤ 0xEF then some (2, 0x80, 0xBF)
  else if b = 0xF0 then some (3, 0x90, 0xBF)
  else if 0xF1 ≤ b ∧ b ≤ 0xF3 then some (3, 0x80, 0xBF)
  else if b = 0xF4 then some (3, 0x80, 0x8F)
  else none

/-- Continuation bytes: the code point with their bits added, if all of
them are there, and what is behind the last that fits. -/
def continueSequence : Nat → Nat → Nat → Nat → List UInt8 → Option Nat × List UInt8
  | 0, _, _, code, rest => (some code, rest)
  | _ + 1, _, _, _, [] => (none, [])
  | more + 1, first, last, code, b :: rest =>
    if first ≤ b.toNat ∧ b.toNat ≤ last then
      continueSequence more 0x80 0xBF (code * 64 + (b.toNat - 0x80)) rest
    else (none, b :: rest)

theorem length_continueSequence (more first last code : Nat) (bytes : List UInt8) :
    (continueSequence more first last code bytes).2.length ≤ bytes.length := by
  fun_induction continueSequence more first last code bytes with
  | case1 => exact Nat.le_refl _
  | case2 => exact Nat.le_refl _
  | case3 more first last code b rest _ ih =>
    exact Nat.le_trans ih (Nat.le_succ _)
  | case4 => exact Nat.le_refl _

/-- The characters of UTF-8. Each longest start of a sequence that does not
go on becomes one replacement character. -/
def decodeLossy : List UInt8 → List Char
  | [] => []
  | b :: rest =>
    if b.toNat < 0x80 then Char.ofNat b.toNat :: decodeLossy rest
    else
      match sequenceShape? b.toNat with
      | none => '\uFFFD' :: decodeLossy rest
      | some (more, first, last) =>
        match _h : continueSequence more first last (b.toNat % 1 <<< (6 - more)) rest with
        | (some code, rest') => Char.ofNat code :: decodeLossy rest'
        | (none, rest') => '\uFFFD' :: decodeLossy rest'
termination_by bytes => bytes.length
decreasing_by
  all_goals simp only [List.length_cons]
  · omega
  · omega
  all_goals
    have := length_continueSequence more first last (b.toNat % 1 <<< (6 - more)) rest
    rw [_h] at this
    simp only at this
    omega

/-! ## Queries -/

def formText (s : List Char) : String :=
  String.ofList (decodeLossy (formBytes (String.ofList s).toUTF8.toList))

/-- The names and values of a query, in order. A part without `=` is a name
with an empty value; empty parts are no names. -/
def parseQuery (query : List Char) : List (String × String) :=
  ((splitAtChar '&' query).filter (!·.isEmpty)).map fun part =>
    (formText (part.takeWhile (· != '=')), formText ((part.dropWhile (· != '=')).drop 1))

end Stride
