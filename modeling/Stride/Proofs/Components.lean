-- The components of a duration, as in `1h30min15s`. Reading them unit by unit
-- takes the longest run that the text begins with.
import Stride.Proofs.Scan

namespace Stride

/-! ## Runs of components -/

/-- `1h30min` as its components: digits, each with its unit. -/
abbrev Components := List (List Char × TimeUnit)

/-- Hours come before minutes and minutes before seconds, each at most once,
and each has digits. -/
structure Ordered (units : List TimeUnit) (run : Components) : Prop where
  sublist : (run.map Prod.snd).Sublist units
  digits : ∀ c ∈ run, Digits c.1

def Components.text (run : Components) : List Char :=
  run.flatMap fun (digits, unit) => digits ++ unit.symbol.toList

def Components.seconds (run : Components) : Binary64 :=
  run.foldl (fun total (digits, unit) => total + digitsNumber digits 0 * unit.inSeconds) 0

/-- No run of components at the start of the text is longer. -/
def Longest (run : Components) (s : List Char) : Prop :=
  ∀ other rest, Ordered TimeUnit.all other → s = Components.text other ++ rest →
    other.text.length ≤ run.text.length

/-! ## Reading unit by unit -/

theorem Components.text_first (d : List Char) (unit : TimeUnit) (run : Components) :
    Components.text ((d, unit) :: run) = d ++ (unit.symbol.toList ++ run.text) := by
  unfold Components.text
  rw [List.flatMap_cons, List.append_assoc]

theorem Components.text_cons (d : List Char) (unit : TimeUnit) (run : Components)
    (rest : List Char) : Components.text ((d, unit) :: run) ++ rest =
      d ++ (unit.symbol.toList ++ (run.text ++ rest)) := by
  rw [Components.text_first, List.append_assoc, List.append_assoc]

/-- A component at the start is added. -/
theorem addComponent_of_component {d : List Char} (hd : Digits d) (unit : TimeUnit)
    (rest : List Char) (total : Option Binary64) :
    addComponent (total, d ++ (unit.symbol.toList ++ rest)) unit =
      (some (total.getD 0 + digitsNumber d 0 * unit.inSeconds), rest) := by
  have hbreaks := TimeUnit.words.breaks (beginsWith_append TimeUnit.symbol unit rest)
  simp only [addComponent, readInteger?_digits hd hbreaks.noDigit, readWord?_append]

theorem addComponent_of_other {s : List Char} {unit : TimeUnit}
    (h : ∀ d rest, Digits d → s ≠ d ++ (unit.symbol.toList ++ rest)) (total : Option Binary64) :
    addComponent (total, s) unit = (total, s) := by
  rcases noDigit_or_digits s with hs | ⟨d, t, hd, ht, rfl⟩
  · simp only [addComponent, readInteger?_of_noDigit hs]
  · have hnone : readWord? unit.symbol.toList t = none := by
      rw [readWord?_eq_none_iff]
      rintro ⟨rest, rfl⟩
      exact h d rest hd rfl
    simp only [addComponent, readInteger?_digits hd ht, hnone]

/-- The total with one more component. -/
def addTime (total : Option Binary64) : List Char × TimeUnit → Option Binary64
  | (digits, unit) => some (total.getD 0 + digitsNumber digits 0 * unit.inSeconds)

theorem foldl_addTime (run : Components) (total : Binary64) :
    run.foldl addTime (some total) =
      some (run.foldl (fun total (digits, unit) => total + digitsNumber digits 0 * unit.inSeconds)
        total) := by
  induction run generalizing total with
  | nil => rfl
  | cons c run ih => exact ih _

theorem Ordered.of_cons {units : List TimeUnit} {d : List Char} {unit : TimeUnit}
    {run : Components} (h : Ordered (unit :: units) ((d, unit) :: run)) : Ordered units run :=
  ⟨List.cons_sublist_cons.1 h.sublist, fun c hc => h.digits c (List.mem_cons_of_mem _ hc)⟩

/-- Taking each unit's component in turn, where there is one, takes every run
that the text begins with. -/
theorem foldl_addComponent_longest (units : List TimeUnit) (s : List Char) :
    ∃ run rest, Ordered units run ∧ s = run.text ++ rest ∧
      (∀ total, units.foldl addComponent (total, s) = (run.foldl addTime total, rest)) ∧
      ∀ other rest', Ordered units other → s = other.text ++ rest' → other <+: run := by
  -- A unit whose component does not stand next is in no run from here on.
  induction units generalizing s with
  | nil =>
    refine ⟨[], s, ⟨List.Sublist.slnil, by simp⟩, rfl, fun _ => rfl, ?_⟩
    intro other rest' hother _
    obtain rfl := List.map_eq_nil_iff.1 (List.sublist_nil.1 hother.sublist)
    exact List.prefix_refl []
  | cons unit units ih =>
    by_cases h : ∃ d rest, Digits d ∧ s = d ++ (unit.symbol.toList ++ rest)
    · obtain ⟨d, rest, hd, rfl⟩ := h
      obtain ⟨run, left, hrun, rfl, hfold, hmax⟩ := ih rest
      refine ⟨(d, unit) :: run, left, ⟨hrun.sublist.cons_cons unit, ?_⟩,
        (Components.text_cons d unit run left).symm, ?_, ?_⟩
      · intro c hc
        rcases List.mem_cons.1 hc with rfl | hc
        · exact hd
        · exact hrun.digits c hc
      · intro total
        rw [List.foldl_cons, addComponent_of_component hd, hfold, List.foldl_cons]
        rfl
      · intro other rest' hother htext
        cases other with
        | nil => exact List.nil_prefix
        | cons c other =>
          obtain ⟨e, u⟩ := c
          rw [Components.text_cons] at htext
          obtain ⟨rfl, hbehind⟩ := digits_append_inj hd (hother.digits (e, u) (by simp))
            (TimeUnit.words.breaks (beginsWith_append _ unit _)).noDigit
            (TimeUnit.words.breaks (beginsWith_append _ u _)).noDigit htext
          obtain rfl := TimeUnit.prefixFree.eq ⟨_, rfl⟩ ⟨_, hbehind.symm⟩
          exact List.prefix_cons_inj _ |>.2
            (hmax other rest' hother.of_cons (List.append_cancel_left hbehind))
    · have hno : ∀ d rest, Digits d → s ≠ d ++ (unit.symbol.toList ++ rest) :=
        fun d rest hd he => h ⟨d, rest, hd, he⟩
      obtain ⟨run, left, hrun, htext, hfold, hmax⟩ := ih s
      refine ⟨run, left, ⟨hrun.sublist.cons unit, hrun.digits⟩, htext, ?_, ?_⟩
      · intro total
        rw [List.foldl_cons, addComponent_of_other hno, hfold]
      · intro other rest' hother hs
        cases other with
        | nil => exact List.nil_prefix
        | cons c other =>
          obtain ⟨e, u⟩ := c
          rcases List.sublist_cons_iff.1 hother.sublist with hsub | ⟨r, hr, hsub⟩
          · exact hmax _ rest' ⟨hsub, hother.digits⟩ hs
          · obtain rfl : u = unit := (List.cons.inj hr).1
            rw [Components.text_cons] at hs
            exact absurd hs (hno e _ (hother.digits (e, u) (by simp)))

/-- The components that a duration reads: none where no number with a unit of
time begins the text, and otherwise a run that every other run begins. -/
theorem matchComponents_cases (s : List Char) :
    (matchComponents s = none ∧
      ∀ d unit rest, Digits d → s ≠ d ++ ((TimeUnit.symbol unit).toList ++ rest)) ∨
    ∃ run rest, run ≠ [] ∧ Ordered TimeUnit.all run ∧ s = Components.text run ++ rest ∧
      matchComponents s = some (.duration (Components.seconds run), rest) ∧
      ∀ other rest', Ordered TimeUnit.all other → s = other.text ++ rest' → other <+: run := by
  obtain ⟨run, rest, hrun, htext, hfold, hmax⟩ := foldl_addComponent_longest TimeUnit.all s
  unfold matchComponents
  rw [hfold]
  cases run with
  | nil =>
    refine Or.inl ⟨rfl, ?_⟩
    intro d unit rest' hd hs
    have hone : Ordered TimeUnit.all [(d, unit)] :=
      ⟨List.singleton_sublist.2 unit.mem_all, by simpa using hd⟩
    have hprefix := hmax [(d, unit)] rest' hone (by simpa [Components.text] using hs)
    exact absurd (List.prefix_nil.1 hprefix) (List.cons_ne_nil _ _)
  | cons c run =>
    refine Or.inr ⟨c :: run, rest, List.cons_ne_nil _ _, hrun, htext, ?_, hmax⟩
    obtain ⟨d, unit⟩ := c
    have htotal : ((d, unit) :: run).foldl addTime none =
        some (Components.seconds ((d, unit) :: run)) := foldl_addTime run _
    rw [htotal]

/-- Where no number with a unit of time stands, there are no components. -/
theorem matchComponents_eq_none {s : List Char}
    (h : ∀ d unit rest, Digits d → s ≠ d ++ ((TimeUnit.symbol unit).toList ++ rest)) :
    matchComponents s = none := by
  rcases matchComponents_cases s with ⟨hnone, _⟩ | ⟨run, rest, hne, hrun, htext, _⟩
  · exact hnone
  · cases run with
    | nil => exact absurd rfl hne
    | cons c run =>
      obtain ⟨d, unit⟩ := c
      rw [Components.text_cons] at htext
      exact absurd htext (h d unit _ (hrun.digits (d, unit) (by simp)))

theorem Components.text_append (run more : Components) :
    Components.text (run ++ more) = run.text ++ more.text := List.flatMap_append

/-- The longest run of components is what is read. -/
theorem matchComponents_of_longest {run : Components} {rest : List Char} (hne : run ≠ [])
    (hrun : Ordered TimeUnit.all run) (hlongest : Longest run (run.text ++ rest)) :
    matchComponents (run.text ++ rest) = some (.duration run.seconds, rest) := by
  rcases matchComponents_cases (run.text ++ rest) with
    ⟨_, hno⟩ | ⟨all, left, _, hall, htext, hm, hmax⟩
  · cases run with
    | nil => exact absurd rfl hne
    | cons c run =>
      obtain ⟨d, unit⟩ := c
      exact absurd (Components.text_cons d unit run rest)
        (hno d unit _ (hrun.digits (d, unit) (by simp)))
  · obtain ⟨more, rfl⟩ := hmax run rest hrun rfl
    have hlen := hlongest _ _ hall htext
    have hmore : more = [] := by
      cases more with
      | nil => rfl
      | cons c more =>
        obtain ⟨d, unit⟩ := c
        have hdigits : 0 < d.length := List.length_pos_iff.2 (hall.digits (d, unit) (by simp)).1
        rw [Components.text_append, List.length_append, Components.text_first,
          List.length_append] at hlen
        omega
    subst hmore
    rw [List.append_nil] at hm htext
    rw [hm, List.append_cancel_left htext]

/-- A run that every other run begins is the longest. -/
theorem longest_of_prefix {run : Components} {s : List Char}
    (h : ∀ other rest, Ordered TimeUnit.all other → s = other.text ++ rest → other <+: run) :
    Longest run s := by
  intro other rest hother htext
  obtain ⟨more, rfl⟩ := h other rest hother htext
  rw [Components.text_append, List.length_append]
  omega

/-- A run of components ends where the text does not go on with a digit. -/
theorem longest_of_noDigit {run : Components} {rest : List Char} (hrun : ∀ c ∈ run, Digits c.1)
    (hrest : NoDigit rest) : Longest run (run.text ++ rest) := by
  apply longest_of_prefix
  intro other left hother htext
  have hdigits := hother.digits
  clear hother
  induction other generalizing run with
  | nil => exact List.nil_prefix
  | cons c other ih =>
    obtain ⟨e, u⟩ := c
    have he : Digits e := hdigits (e, u) (by simp)
    rw [Components.text_cons] at htext
    cases run with
    | nil =>
      obtain rfl : rest = e ++ (u.symbol.toList ++ (Components.text other ++ left)) := htext
      exact absurd hrest (he.not_noDigit _)
    | cons c run =>
      obtain ⟨d, unit⟩ := c
      rw [Components.text_cons] at htext
      obtain ⟨rfl, hbehind⟩ := digits_append_inj (hrun (d, unit) (by simp)) he
        (TimeUnit.words.breaks (beginsWith_append _ unit _)).noDigit
        (TimeUnit.words.breaks (beginsWith_append _ u _)).noDigit htext
      obtain rfl := TimeUnit.prefixFree.eq ⟨_, rfl⟩ ⟨_, hbehind.symm⟩
      exact (List.prefix_cons_inj _).2 (ih (fun c hc => hrun c (List.mem_cons_of_mem _ hc))
        (List.append_cancel_left hbehind) fun c hc => hdigits c (List.mem_cons_of_mem _ hc))

end Stride
