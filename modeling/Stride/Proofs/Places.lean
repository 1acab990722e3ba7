-- Where a report points. Tokens are read of the text without its blanks, and the
-- places of a report are those of the text as it was typed: the counting of
-- characters that are not blank leads back from the one to the other.
import Stride.Proofs.UnitSystems
import Stride.Proofs.Alternation
import Stride.Report

namespace Stride

/-! ## Blanks at the ends -/

def Blank (s : List Char) : Prop := ∀ c ∈ s, isBlank c = true

theorem withoutBlanks_eq_nil_iff {s : List Char} : withoutBlanks s = [] ↔ Blank s := by
  unfold withoutBlanks Blank
  simp [List.filter_eq_nil_iff]

theorem withoutBlanks_of_not_blank {c : Char} (hc : isBlank c = false) (s : List Char) :
    withoutBlanks (c :: s) = c :: withoutBlanks s := by
  unfold withoutBlanks
  simp [hc]

theorem exists_first {s : List Char} (h : withoutBlanks s ≠ []) :
    ∃ blanks c rest, s = blanks ++ c :: rest ∧ Blank blanks ∧ isBlank c = false := by
  obtain ⟨c, others, hcons⟩ := List.exists_cons_of_ne_nil h
  obtain ⟨blanks, rest, rfl, hblanks, hc, _⟩ := List.filter_eq_cons_iff.1 hcons
  exact ⟨blanks, c, rest, rfl, fun a ha => by simpa using hblanks a ha, by simpa using hc⟩

theorem exists_last {s : List Char} (h : withoutBlanks s ≠ []) :
    ∃ rest c blanks, s = rest ++ c :: blanks ∧ Blank blanks ∧ isBlank c = false := by
  have hreverse : withoutBlanks s.reverse ≠ [] := by
    unfold withoutBlanks at h ⊢
    rw [List.filter_reverse]
    simpa using h
  obtain ⟨blanks, c, rest, hs, hblanks, hc⟩ := exists_first hreverse
  refine ⟨rest.reverse, c, blanks.reverse, ?_, fun a ha => hblanks a (by simpa using ha), hc⟩
  rw [← List.reverse_reverse s, hs]
  simp

/-! ## A text in three -/

/-- A text is `before`, `middle` and `behind`. The middle neither begins nor ends
with a blank, and only blanks stand behind it. -/
structure Framed (s before middle behind : List Char) : Prop where
  text : s = before ++ (middle ++ behind)
  behind_blank : Blank behind
  first : ∃ c ∈ middle.head?, isBlank c = false
  last : ∃ c ∈ middle.getLast?, isBlank c = false

theorem exists_framed {s : List Char} (h : withoutBlanks s ≠ []) :
    ∃ before middle behind, Framed s before middle behind ∧ Blank before := by
  obtain ⟨before, c, rest, rfl, hbefore, hc⟩ := exists_first h
  have hrest : withoutBlanks (c :: rest) ≠ [] := by
    rw [withoutBlanks_of_not_blank hc]
    exact List.cons_ne_nil _ _
  obtain ⟨inner, d, behind, hcut, hbehind, hd⟩ := exists_last hrest
  have hfirst : (inner ++ [d]).head? = some c := by
    cases inner with
    | nil => rw [(List.cons.inj hcut).1]; rfl
    | cons a inner => rw [(List.cons.inj hcut).1]; rfl
  exact ⟨before, inner ++ [d], behind,
    ⟨by rw [hcut]; simp, hbehind, ⟨c, hfirst, hc⟩, ⟨d, by simp, hd⟩⟩, hbefore⟩

section Ends

variable {s t : List Char}

theorem takeWhile_isBlank (hs : Blank s) (ht : ∃ c ∈ t.head?, isBlank c = false) :
    (s ++ t).takeWhile isBlank = s := by
  obtain ⟨c, hc, hblank⟩ := ht
  obtain ⟨rest, rfl⟩ := List.head?_eq_some_iff.1 hc
  rw [List.takeWhile_append_of_pos hs, List.takeWhile_cons_of_neg (by simp [hblank]),
    List.append_nil]

theorem dropWhile_isBlank (hs : Blank s) (ht : ∃ c ∈ t.head?, isBlank c = false) :
    (s ++ t).dropWhile isBlank = t := by
  obtain ⟨c, hc, hblank⟩ := ht
  obtain ⟨rest, rfl⟩ := List.head?_eq_some_iff.1 hc
  rw [List.dropWhile_append_of_pos hs, List.dropWhile_cons_of_neg (by simp [hblank])]

theorem trimBlanksEnd_append (ht : ∃ c ∈ s.getLast?, isBlank c = false) (hs : Blank t) :
    trimBlanksEnd (s ++ t) = s := by
  unfold trimBlanksEnd
  rw [List.reverse_append, dropWhile_isBlank (fun c hc => hs c (by simpa using hc))
    (by simpa using ht), List.reverse_reverse]

end Ends

namespace Framed

variable {s before middle behind : List Char}

theorem first_append (h : Framed s before middle behind) :
    ∃ c ∈ (middle ++ behind).head?, isBlank c = false := by
  obtain ⟨c, hc, hblank⟩ := h.first
  obtain ⟨rest, rfl⟩ := List.head?_eq_some_iff.1 hc
  exact ⟨c, rfl, hblank⟩

theorem length_pos (h : Framed s before middle behind) : 0 < middle.length := by
  obtain ⟨c, hc, _⟩ := h.first
  obtain ⟨rest, rfl⟩ := List.head?_eq_some_iff.1 hc
  simp

theorem trimBlanksEnd_eq (h : Framed s before middle behind) :
    trimBlanksEnd s = before ++ middle := by
  obtain ⟨c, hc, hblank⟩ := h.last
  rw [h.text, ← List.append_assoc]
  refine trimBlanksEnd_append ⟨c, ?_, hblank⟩ h.behind_blank
  rw [List.getLast?_append, Option.mem_def.1 hc]
  rfl

theorem trimBlanks_eq (h : Framed s before middle behind) (hbefore : Blank before) :
    trimBlanks s = middle := by
  change trimBlanksEnd (s.dropWhile isBlank) = middle
  rw [h.text, dropWhile_isBlank hbefore h.first_append]
  exact trimBlanksEnd_append h.last h.behind_blank

theorem withoutBlanks_eq (h : Framed s before middle behind) :
    withoutBlanks s = withoutBlanks before ++ withoutBlanks middle := by
  rw [h.text, withoutBlanks_append, withoutBlanks_append,
    withoutBlanks_eq_nil_iff.2 h.behind_blank, List.append_nil]

end Framed

/-! ## Spans -/

namespace Span

/-- The text in front of a span, the text that it marks, and the text behind it. -/
def before (span : Span) (s : List Char) : List Char := s.take span.start
def marked (span : Span) (s : List Char) : List Char := (s.take span.stop).drop span.start
def behind (span : Span) (s : List Char) : List Char := s.drop span.stop

/-- Behind the significant characters of `before` the next one is at its end. -/
theorem indexOfSignificant?_append {c : Char} (hc : isBlank c = false)
    (before rest : List Char) :
    indexOfSignificant? (withoutBlanks before).length (before ++ c :: rest) =
      some before.length := by
  induction before with
  | nil => simp [indexOfSignificant?, withoutBlanks, hc]
  | cons a before ih =>
    rw [List.cons_append]
    unfold indexOfSignificant?
    cases ha : isBlank a with
    | true =>
      have hskip : withoutBlanks (a :: before) = withoutBlanks before := by
        simp [withoutBlanks, ha]
      rw [hskip, ih]
      rfl
    | false =>
      rw [withoutBlanks_of_not_blank ha]
      simp [ih]

variable {s before middle behind : List Char}

/-- The span of the middle of a text. -/
def ofMiddle (before middle : List Char) : Span := ⟨before.length, before.length + middle.length⟩

theorem stop_ofMiddle (before middle : List Char) :
    (ofMiddle before middle).stop = (before ++ middle).length := List.length_append.symm

theorem before_ofMiddle (h : Framed s before middle behind) :
    (ofMiddle before middle).before s = before := by
  unfold Span.before ofMiddle
  rw [h.text]
  exact List.take_left

theorem marked_ofMiddle (h : Framed s before middle behind) :
    (ofMiddle before middle).marked s = middle := by
  unfold Span.marked
  rw [h.text, ← List.append_assoc, stop_ofMiddle, List.take_left]
  exact List.drop_left

theorem behind_ofMiddle (h : Framed s before middle behind) :
    (ofMiddle before middle).behind s = behind := by
  unfold Span.behind
  rw [h.text, ← List.append_assoc, stop_ofMiddle]
  exact List.drop_left

/-- A span fits a text when it marks some of it, from a character that is not blank
to a character that is not blank. -/
structure Fits (span : Span) (s : List Char) : Prop where
  not_empty : span.start < span.stop
  inside : span.stop ≤ s.length
  first : ∃ c ∈ (span.marked s).head?, isBlank c = false
  last : ∃ c ∈ (span.marked s).getLast?, isBlank c = false

theorem fits_ofMiddle (h : Framed s before middle behind) : (ofMiddle before middle).Fits s where
  not_empty := Nat.lt_add_of_pos_right h.length_pos
  inside := by
    rw [h.text, ← List.append_assoc, stop_ofMiddle]
    exact (List.prefix_append _ _).length_le
  first := by
    rw [marked_ofMiddle h]
    exact h.first
  last := by
    rw [marked_ofMiddle h]
    exact h.last

/-- The blanks at the start of a text do not go into the middle. -/
theorem start_trimmed_le (h : Framed s before middle behind) :
    (trimmed s).start ≤ before.length := by
  change (s.takeWhile isBlank).length ≤ before.length
  obtain ⟨c, hc, hblank⟩ := h.first_append
  obtain ⟨rest, hrest⟩ := List.head?_eq_some_iff.1 hc
  rw [h.text, hrest, List.takeWhile_append]
  split
  · simp [hblank]
  · exact (List.takeWhile_sublist _).length_le

theorem stop_trimmed (h : Framed s before middle behind) :
    (trimmed s).stop = before.length + middle.length := by
  have hstart := start_trimmed_le h
  have hpos := h.length_pos
  -- the middle has a character, so the one place that is always marked is in it
  change max (trimBlanksEnd s).length ((trimmed s).start + 1) = _
  rw [h.trimBlanksEnd_eq, List.length_append]
  omega

theorem trimmed_eq (h : Framed s before middle behind) (hbefore : Blank before) :
    trimmed s = ofMiddle before middle := by
  have hstart : (trimmed s).start = before.length := by
    change (s.takeWhile isBlank).length = _
    rw [h.text, takeWhile_isBlank hbefore h.first_append]
  have hstop := stop_trimmed h
  unfold ofMiddle
  rw [← hstop, ← hstart]

/-- The span of a text that is left over begins where that text does. -/
theorem unmatched_eq (h : Framed s before middle behind) :
    unmatched s (withoutBlanks middle) = ofMiddle before middle := by
  have hpos := h.length_pos
  have hconsumed : (withoutBlanks s).length - (withoutBlanks middle).length =
      (withoutBlanks before).length := by
    rw [h.withoutBlanks_eq, List.length_append]
    omega
  have hindex : indexOfSignificant? (withoutBlanks before).length s = some before.length := by
    obtain ⟨c, hc, hblank⟩ := h.first_append
    obtain ⟨rest, hrest⟩ := List.head?_eq_some_iff.1 hc
    rw [h.text, hrest]
    exact indexOfSignificant?_append hblank before rest
  unfold unmatched ofMiddle
  simp only [hconsumed, hindex, stop_trimmed h, Option.getD_some]
  congr 1
  omega

end Span

/-! ## Reports -/

theorem Value.message?_eq_none {v : Value} (h : v.isError = false) : v.message? = none := by
  cases v with
  | error message => cases h
  | _ => rfl

/-- Where the report of an expression points. -/
def reportSpan (units : UnitSystem) (input : String) : Span :=
  ((Calculation.ofExpression units input).report input).span

section Reports

variable {units : UnitSystem} {input : String} {left : List Char}
  {tokens : List (List Char × Value)}

theorem Slices.findSome?_message? {s : List Char} (h : Slices units s tokens left) :
    (tokens.map Prod.snd).findSome? Value.message? = none := by
  rw [List.findSome?_eq_none_iff]
  intro v hv
  obtain ⟨token, htoken, rfl⟩ := List.mem_map.1 hv
  exact Value.message?_eq_none (h.values token htoken).2

/-- The one error among the parts is the text that was left over. -/
theorem Slices.error_mem_parts (h : Slices units (withoutBlanks input.toList) tokens left)
    {message : String} :
    Value.error message ∈ (Calculation.ofExpression units input).parts ↔
      left ≠ [] ∧ message = String.ofList left := by
  have htoken : Value.error message ∉ tokens.map Prod.snd := by
    intro hmem
    obtain ⟨token, htoken, herror⟩ := List.mem_map.1 hmem
    have hvalue := (h.values token htoken).2
    rw [herror] at hvalue
    cases hvalue
  rw [h.parts, List.mem_append, or_iff_right htoken, leftover]
  by_cases hleft : left = []
  · simp [hleft]
  · simp [hleft]

/-- Text that no token begins is what the report looks for. -/
theorem reportSpan_of_left (h : Slices units (withoutBlanks input.toList) tokens left)
    (hleft : left ≠ []) : reportSpan units input = .unmatched input.toList left := by
  have hparts : (Calculation.ofExpression units input).parts.findSome? Value.message? =
      some (String.ofList left) := by
    rw [h.parts, leftover, if_neg hleft, List.findSome?_append, h.findSome?_message?]
    rfl
  unfold reportSpan Calculation.report
  simp only [hparts, String.toList_ofList]

theorem reportSpan_of_read (h : Slices units (withoutBlanks input.toList) tokens []) :
    reportSpan units input = .trimmed input.toList := by
  have hparts : (Calculation.ofExpression units input).parts.findSome? Value.message? = none := by
    rw [h.parts, leftover, if_pos rfl, List.append_nil, h.findSome?_message?]
  unfold reportSpan Calculation.report
  rw [hparts]

/-- An expression without tokens comes to nothing, and that is no error. -/
theorem withoutBlanks_ne_nil_of_isError
    (h : (Calculation.ofExpression units input).isError = true) :
    withoutBlanks input.toList ≠ [] := by
  intro hnil
  have hread : readTokens units (withoutBlanks input.toList) = ([], []) := by
    rw [hnil]
    exact readTokens_of_none rfl
  rw [Calculation.ofExpression_of_readTokens hread] at h
  cases h

/-- Between the tokens and what is left over there may be blanks: they are in front
of the span. -/
theorem exists_framed_of_left (h : Slices units (withoutBlanks input.toList) tokens left)
    (hleft : left ≠ []) :
    ∃ before middle behind, Framed input.toList before middle behind ∧
      withoutBlanks middle = left ∧ withoutBlanks before = sliceText tokens := by
  obtain ⟨read, rest, hinput, hread, hrest⟩ := List.filter_eq_append_iff.1 h.text
  have hrest' : withoutBlanks rest = left := hrest
  obtain ⟨blanks, middle, behind, hframed, hblanks⟩ := exists_framed (by rw [hrest']; exact hleft)
  refine ⟨read ++ blanks, middle, behind, { hframed with text := ?_ }, ?_, ?_⟩
  · rw [hinput, hframed.text, List.append_assoc]
  · rw [← hrest', hframed.withoutBlanks_eq, withoutBlanks_eq_nil_iff.2 hblanks, List.nil_append]
  · rw [withoutBlanks_append, withoutBlanks_eq_nil_iff.2 hblanks, List.append_nil]
    exact hread

end Reports

/-! ## The law -/

/-- The report of an expression that went wrong marks some of what was typed, from
a character that is not blank to the last one that is not blank. If no token
begins somewhere, then without their blanks the marked text is what is left over
from there on, and the text in front of it is that of the tokens. Else the
expression could be read, and all of it is marked but for the blanks at its
ends. -/
theorem a_report_marks_what_went_wrong (units : UnitSystem) (input : String)
    (h : (Calculation.ofExpression units input).isError = true) :
    (reportSpan units input).Fits input.toList ∧
    Blank ((reportSpan units input).behind input.toList) ∧
    (∀ left, Value.error left ∈ (Calculation.ofExpression units input).parts →
      withoutBlanks ((reportSpan units input).marked input.toList) = left.toList ∧
      ∃ tokens, Slices units (withoutBlanks input.toList) tokens left.toList ∧
        (Calculation.ofExpression units input).parts = tokens.map Prod.snd ++ [.error left] ∧
        withoutBlanks ((reportSpan units input).before input.toList) = sliceText tokens) ∧
    ((∀ left, Value.error left ∉ (Calculation.ofExpression units input).parts) →
      (reportSpan units input).marked input.toList = trimBlanks input.toList ∧
      Blank ((reportSpan units input).before input.toList)) := by
  obtain ⟨tokens, left, hslices⟩ := exists_slices units (withoutBlanks input.toList)
  -- both spans are the middle of the input: the one is found from the blanks at the
  -- ends, the other by counting
  by_cases hleft : left = []
  · subst hleft
    obtain ⟨before, middle, behind, hframed, hbefore⟩ :=
      exists_framed (withoutBlanks_ne_nil_of_isError h)
    rw [reportSpan_of_read hslices, Span.trimmed_eq hframed hbefore, Span.before_ofMiddle hframed,
      Span.marked_ofMiddle hframed, Span.behind_ofMiddle hframed]
    refine ⟨Span.fits_ofMiddle hframed, hframed.behind_blank, fun left herror => ?_, fun _ =>
      ⟨(hframed.trimBlanks_eq hbefore).symm, hbefore⟩⟩
    exact absurd rfl (hslices.error_mem_parts.1 herror).1
  · obtain ⟨before, middle, behind, hframed, hmiddle, hbefore⟩ :=
      exists_framed_of_left hslices hleft
    rw [reportSpan_of_left hslices hleft, ← hmiddle, Span.unmatched_eq hframed,
      Span.before_ofMiddle hframed, Span.marked_ofMiddle hframed, Span.behind_ofMiddle hframed]
    refine ⟨Span.fits_ofMiddle hframed, hframed.behind_blank, fun message herror => ?_,
      fun hnone => absurd (hslices.error_mem_parts.2 ⟨hleft, rfl⟩) (hnone _)⟩
    obtain ⟨_, rfl⟩ := hslices.error_mem_parts.1 herror
    rw [String.toList_ofList]
    refine ⟨hmiddle, tokens, hslices, ?_, hbefore⟩
    rw [hslices.parts, leftover, if_neg hleft]

theorem twenty_weeks_are_marked :
    (Calculation.ofExpression .metric " 5km in 20 weeks ").isError = true ∧
    (reportSpan .metric " 5km in 20 weeks ").Fits " 5km in 20 weeks ".toList ∧
    withoutBlanks ((reportSpan .metric " 5km in 20 weeks ").marked " 5km in 20 weeks ".toList) =
      "20weeks".toList := by
  have herror : (Calculation.ofExpression .metric " 5km in 20 weeks ").isError = true := by
    decide +kernel
  obtain ⟨hfits, _, hleft, _⟩ := a_report_marks_what_went_wrong .metric " 5km in 20 weeks " herror
  exact ⟨herror, hfits, (hleft "20weeks" (by decide +kernel)).1⟩

example : reportSpan .metric " 5km in 20 weeks " = ⟨8, 16⟩ := by decide +kernel
example : reportSpan .metric " 5km for 5km " = ⟨1, 12⟩ := by decide +kernel

end Stride
