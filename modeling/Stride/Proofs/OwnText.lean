-- A token apart from what stands behind it. What follows may decide which token
-- is read, as the `in` does that makes minutes of `400m in`. But the slice that is
-- read as a token is that token with nothing behind it too, and so it means the
-- same wherever it is read.
import Stride.Proofs.Spellings

namespace Stride

/-! ## Symbols -/

/-- What begins a word begins it also where the text goes on. -/
theorem not_beginsWith_alone {α : Type} {symbol : α → String} {word rest : List Char}
    (h : ¬ BeginsWith symbol (word ++ rest)) : ¬ BeginsWith symbol (word ++ []) := by
  rw [List.append_nil]
  rintro ⟨a, ha⟩
  exact h ⟨a, ha.trans (List.prefix_append word rest)⟩

/-! ## A token alone -/

/-- A rule that reads the start of a text reads that start alone. What may not
stand behind a token does not stand there then, and nothing is longer. -/
theorem Reads.exists_slice {units : UnitSystem} {s rest : List Char} {v : Value}
    (h : Reads units s v rest) : ∃ t, s = t ++ rest ∧ Reads units t v [] := by
  have hnil : NoDigit [] := breaks_nil.noDigit
  cases h with
  | operator op => exact ⟨_, by simp, .operator op []⟩
  | @marathon c _ hc => exact ⟨[c], rfl, .marathon [] hc⟩
  | @halfMarathon c d _ hc hd => exact ⟨[c, d], rfl, .halfMarathon [] hc hd⟩
  | clockPace unit _ hd he => exact ⟨_, by simp, .clockPace unit [] hd he⟩
  | clock unit _ hd he hpace =>
    exact ⟨_, by simp, .clock unit [] hd he (not_beginsWith_alone hpace)⟩
  | barePace _ hd he =>
    exact ⟨_, by simp, .barePace [] hd he hnil PaceUnit.words.not_beginsWith_nil
      TimeUnit.words.not_beginsWith_nil⟩
  | wholePace unit _ hd => exact ⟨_, by simp, .wholePace unit [] hd⟩
  | components _ hrun hpace =>
    -- A run may end before digits that have no unit; alone it ends the text.
    rw [← List.append_assoc] at hpace
    have halone := not_beginsWith_alone hpace
    rw [List.append_assoc] at halone
    exact ⟨_, by simp, .components [] hrun halone (longest_of_noDigit hrun.digits hnil)⟩
  | speed unit _ hn => exact ⟨_, by simp, .speed unit [] hn⟩
  | distance unit _ hn hspeed htime hmile =>
    refine ⟨_, by simp, .distance unit [] hn (not_beginsWith_alone hspeed)
      (fun hdigits => not_beginsWith_alone (htime hdigits)) ?_⟩
    intro hunit hmiles
    rw [List.append_nil] at hmiles
    exact hmile hunit (hmiles.trans (List.prefix_append _ _))
  | constant _ hn => exact ⟨_, by simp, .constant [] hn (Or.inl rfl)⟩

section Tokens

variable {units : UnitSystem} {t rest : List Char} {v : Value}

theorem reads_alone (h : matchToken units (t ++ rest) = some (v, rest)) : Reads units t v [] := by
  obtain ⟨u, hu, hreads⟩ := (reads_of_matchToken h).exists_slice
  obtain rfl := List.append_cancel_right hu
  exact hreads

theorem Slices.reads_alone {s left : List Char} {tokens : List (List Char × Value)}
    (h : Slices units s tokens left) : ∀ token ∈ tokens, Reads units token.1 token.2 [] := by
  intro token htoken
  obtain ⟨_, rest, hmatch⟩ := h.exists_match token htoken
  exact Stride.reads_alone hmatch

end Tokens

/-! ## The law -/

/-- The slice that a token is read from is read as the same token when it stands
alone. So a slice that is read as a token in two texts has one value, whatever
stands behind it, and each slice of an expression is, as an expression of its
own, the one part that was read of it. -/
theorem a_slice_means_the_same_alone (units : UnitSystem) :
    (∀ s v rest, matchToken units s = some (v, rest) →
      ∃ t, t ≠ [] ∧ s = t ++ rest ∧ matchToken units t = some (v, [])) ∧
    (∀ t v w rest left, matchToken units (t ++ rest) = some (v, rest) →
      matchToken units (t ++ left) = some (w, left) → v = w) ∧
    ∀ s tokens left, Slices units s tokens left → ∀ token ∈ tokens,
      Calculation.ofExpression units (String.ofList token.1) =
        ⟨[token.2], calculate [token.2]⟩ := by
  refine ⟨?_, ?_, ?_⟩
  · intro s v rest h
    obtain ⟨t, ht, rfl⟩ := consumes_of_matchToken h
    exact ⟨t, ht, rfl, matchToken_of_reads (reads_alone h)⟩
  · intro t v w rest left hv hw
    have hfirst := matchToken_of_reads (reads_alone hv)
    have hsecond := matchToken_of_reads (reads_alone hw)
    rw [hfirst] at hsecond
    cases hsecond
    rfl
  · intro s tokens left h token htoken
    exact Calculation.ofExpression_of_reads (h.reads_alone token htoken)

/-- Before `in` it is minutes that are read, and `400min` alone is the same
minutes; `400m` alone is no slice of that text. -/
theorem minutes_are_minutes_alone :
    matchToken .metric "400min2min".toList = some (.duration 24000, "2min".toList) ∧
      matchToken .metric "400min".toList = some (.duration 24000, []) ∧
      matchToken .metric "400m".toList = some (.distance (.plain 400), []) := by
  have hread : matchToken .metric "400min2min".toList =
      some (.duration 24000, "2min".toList) := by decide +kernel
  obtain ⟨t, _, htext, halone⟩ := (a_slice_means_the_same_alone .metric).1 _ _ _ hread
  have hcut : "400min".toList ++ "2min".toList = t ++ "2min".toList := htext
  obtain rfl := List.append_cancel_right hcut
  exact ⟨hread, halone, by decide +kernel⟩

end Stride
