-- An expression as the slices that its tokens were read from. Nothing of the
-- text is lost: behind the last token stands nothing, or the text that is
-- shown as an error.
import Stride.Calculation
import Stride.Proofs.Grammar

namespace Stride

/-! ## Slices -/

/-- A token is the text that it was read from and its value. `Slices units s
tokens left`: `s` is the texts of the tokens and then `left`, where no token
starts. -/
inductive Slices (units : UnitSystem) : List Char → List (List Char × Value) → List Char → Prop
  | stop {s : List Char} : matchToken units s = none → Slices units s [] s
  | token {t s : List Char} {v : Value} {tokens : List (List Char × Value)} {left : List Char} :
      t ≠ [] → matchToken units (t ++ s) = some (v, s) → Slices units s tokens left →
      Slices units (t ++ s) ((t, v) :: tokens) left

/-- The text of some tokens, one behind the other. -/
def sliceText (tokens : List (List Char × Value)) : List Char := (tokens.map Prod.fst).flatten

section Slices

variable {units : UnitSystem} {s left : List Char} {tokens : List (List Char × Value)}

theorem Slices.text (h : Slices units s tokens left) : s = sliceText tokens ++ left := by
  induction h with
  | stop _ => rfl
  | token _ _ _ ih =>
    unfold sliceText at ih ⊢
    rw [List.map_cons, List.flatten_cons, List.append_assoc, ← ih]

theorem Slices.left_unread (h : Slices units s tokens left) : matchToken units left = none := by
  induction h with
  | stop hnone => exact hnone
  | token _ _ _ ih => exact ih

/-- No rule of the grammar gives an error. -/
theorem not_error_of_matchToken {rest : List Char} {v : Value}
    (h : matchToken units s = some (v, rest)) : v.isError = false := by
  cases reads_of_matchToken h <;> rfl

/-- Each token was read where its text begins, with some text behind it. -/
theorem Slices.exists_match (h : Slices units s tokens left) :
    ∀ token ∈ tokens, token.1 ≠ [] ∧
      ∃ rest, matchToken units (token.1 ++ rest) = some (token.2, rest) := by
  induction h with
  | stop _ =>
    intro token htoken
    cases htoken
  | token ht hmatch _ ih =>
    intro token htoken
    rcases List.mem_cons.1 htoken with rfl | htoken
    · exact ⟨ht, _, hmatch⟩
    · exact ih token htoken

theorem Slices.values (h : Slices units s tokens left) :
    ∀ token ∈ tokens, token.1 ≠ [] ∧ token.2.isError = false := by
  intro token htoken
  obtain ⟨hne, rest, hmatch⟩ := h.exists_match token htoken
  exact ⟨hne, not_error_of_matchToken hmatch⟩

/-- Wherever the tokens are cut in two, the second part is sliced alike. -/
theorem Slices.behind {before after : List (List Char × Value)}
    (h : Slices units s (before ++ after) left) :
    Slices units (sliceText after ++ left) after left := by
  induction before generalizing s with
  | nil =>
    have htext := h.text
    rw [List.nil_append] at h htext
    rwa [← htext]
  | cons token before ih =>
    cases h with
    | token _ _ hs => exact ih hs

theorem Slices.read_first {t : List Char} {v : Value} (h : Slices units s ((t, v) :: tokens) left) :
    matchToken units (t ++ (sliceText tokens ++ left)) = some (v, sliceText tokens ++ left) := by
  cases h with
  | token _ hmatch hs =>
    obtain rfl := hs.text
    exact hmatch

/-! ## Reading gives slices -/

theorem readTokens_of_none (h : matchToken units s = none) : readTokens units s = ([], s) := by
  rw [readTokens]
  split
  next => rfl
  next hsome => rw [h] at hsome; cases hsome

theorem readTokens_of_some {rest : List Char} {v : Value}
    (h : matchToken units s = some (v, rest)) :
    readTokens units s = (v :: (readTokens units rest).1, (readTokens units rest).2) := by
  rw [readTokens]
  split
  next hnone => rw [h] at hnone; cases hnone
  next hsome => rw [h] at hsome; cases hsome; rfl

/-- A match leaves less text than there was, so every text is sliced. -/
theorem exists_slices (units : UnitSystem) (s : List Char) :
    ∃ tokens left, Slices units s tokens left := by
  induction hn : s.length using Nat.strongRecOn generalizing s with
  | ind n ih =>
    cases hmatch : matchToken units s with
    | none => exact ⟨[], s, .stop hmatch⟩
    | some found =>
      obtain ⟨v, rest⟩ := found
      have hshorter := (consumes_of_matchToken hmatch).length_lt
      obtain ⟨t, ht, rfl⟩ := consumes_of_matchToken hmatch
      obtain ⟨tokens, left, hslices⟩ := ih rest.length (by omega) rest rfl
      exact ⟨(t, v) :: tokens, left, .token ht hmatch hslices⟩

theorem Slices.readTokens (h : Slices units s tokens left) :
    readTokens units s = (tokens.map Prod.snd, left) := by
  induction h with
  | stop hnone => exact readTokens_of_none hnone
  | token _ hmatch _ ih => rw [readTokens_of_some hmatch, ih]; rfl

theorem Calculation.ofExpression_of_readTokens {input : String} {parts : List Value}
    (h : readTokens units (withoutBlanks input.toList) = (parts, [])) :
    Calculation.ofExpression units input = ⟨parts, calculate parts⟩ := by
  unfold Calculation.ofExpression
  rw [h]

theorem Calculation.ofExpression_of_left {input : String} {parts : List Value}
    (h : readTokens units (withoutBlanks input.toList) = (parts, left)) (hleft : left ≠ []) :
    Calculation.ofExpression units input = ⟨parts ++ [.error (String.ofList left)], none⟩ := by
  unfold Calculation.ofExpression
  rw [h]
  cases left with
  | nil => exact absurd rfl hleft
  | cons c left => rfl

end Slices

/-! ## The law -/

/-- A match takes some text and leaves the rest of it. So a text without its
blanks is the slices that the tokens were read from, each read where the ones
before it end, and what is left. Either nothing is left and there is no error,
or no token starts there, and what is left is the one error, the last part. -/
theorem an_expression_is_read_without_loss (units : UnitSystem) (input : String) :
    (∀ s v rest, matchToken units s = some (v, rest) →
      rest.length < s.length ∧ ∃ t, t ≠ [] ∧ s = t ++ rest) ∧
    ∃ tokens left,
      withoutBlanks input.toList = sliceText tokens ++ left ∧
      (∀ token ∈ tokens, token.1 ≠ [] ∧ token.2.isError = false) ∧
      (∀ before text value after, tokens = before ++ (text, value) :: after →
        withoutBlanks input.toList = sliceText before ++ (text ++ (sliceText after ++ left)) ∧
        matchToken units (text ++ (sliceText after ++ left)) =
          some (value, sliceText after ++ left)) ∧
      ((left = [] ∧ Calculation.ofExpression units input =
          ⟨tokens.map Prod.snd, calculate (tokens.map Prod.snd)⟩) ∨
        (left ≠ [] ∧ matchToken units left = none ∧ Calculation.ofExpression units input =
          ⟨tokens.map Prod.snd ++ [.error (String.ofList left)], none⟩)) := by
  refine ⟨fun s v rest h => ⟨(consumes_of_matchToken h).length_lt, consumes_of_matchToken h⟩, ?_⟩
  obtain ⟨tokens, left, h⟩ := exists_slices units (withoutBlanks input.toList)
  refine ⟨tokens, left, h.text, h.values, ?_, ?_⟩
  · rintro before text value after rfl
    refine ⟨?_, ?_⟩
    · rw [h.text]
      simp [sliceText]
    · exact h.behind.read_first
  · by_cases hleft : left = []
    · subst hleft
      exact Or.inl ⟨rfl, Calculation.ofExpression_of_readTokens h.readTokens⟩
    · exact Or.inr ⟨hleft, h.left_unread, Calculation.ofExpression_of_left h.readTokens hleft⟩

example : Calculation.ofExpression .metric "5km in 20 weeks" =
    ⟨[.distance (.plain 5000), .operator .inWord, .error "20weeks"], none⟩ := by decide +kernel

end Stride
