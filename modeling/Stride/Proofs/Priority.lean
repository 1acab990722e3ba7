-- Which orders of the matchers read the same tokens. Two matchers that accept
-- a text in common keep their order; any others may change places.
import Mathlib.Data.List.Basic
import Stride.Proofs.Grammar

namespace Stride

/-! ## The first of a list -/

section First

variable {α β : Type} [DecidableEq α] {f : α → Option β} {l : List α} {b : β}

/-- The value that is found is that of an element before all others that
have one. -/
theorem findSome?_eq_some_iff_idxOf : l.findSome? f = some b ↔
    ∃ a ∈ l, f a = some b ∧ ∀ c ∈ l, c ≠ a → (f c).isSome → l.idxOf a < l.idxOf c := by
  constructor
  · intro h
    obtain ⟨before, a, after, rfl, ha, hbefore⟩ := List.findSome?_eq_some_iff.1 h
    have hskipped : ∀ c, (f c).isSome → c ∉ before := by
      intro c hc hmem
      rw [hbefore c hmem] at hc
      cases hc
    refine ⟨a, by simp, ha, ?_⟩
    intro c _ hne hc
    rw [List.idxOf_append_of_notMem (hskipped a (by rw [ha]; rfl)),
      List.idxOf_append_of_notMem (hskipped c hc), List.idxOf_cons_self,
      List.idxOf_cons_ne _ hne.symm]
    omega
  · rintro ⟨a, hmem, ha, hfirst⟩
    induction l with
    | nil => cases hmem
    | cons x l ih =>
      by_cases hx : x = a
      · subst hx
        rw [List.findSome?_cons, ha]
      have hnone : f x = none := by
        by_contra hsome
        have hlt := hfirst x (by simp) hx (Option.isSome_iff_ne_none.2 hsome)
        rw [List.idxOf_cons_self] at hlt
        cases hlt
      rw [List.findSome?_cons, hnone]
      refine ih ((List.mem_cons.1 hmem).resolve_left (Ne.symm hx)) ?_
      intro c hc hne hsome
      have hcx : x ≠ c := by
        rintro rfl
        rw [hnone] at hsome
        cases hsome
      have hlt := hfirst c (List.mem_cons_of_mem _ hc) hne hsome
      rw [List.idxOf_cons_ne _ hx, List.idxOf_cons_ne _ hcx] at hlt
      exact Nat.lt_of_succ_lt_succ hlt

end First

namespace Matcher

variable {units : UnitSystem} {m : Matcher} {s rest : List Char} {v : Value}

theorem mem_all (m : Matcher) : m ∈ all := by cases m <;> decide

/-! ## Each matcher has a kind of its own -/

/-- The kind of the tokens that the matcher reads. -/
def kind : Matcher → Kind
  | .pace => .pace
  | .speed => .speed
  | .duration => .duration
  | .operator => .operator
  | .distance => .distance
  | .marathon => .marathon
  | .halfMarathon => .halfMarathon
  | .constant => .constant

theorem kind_injective {m n : Matcher} (h : m.kind = n.kind) : m = n := by
  revert h
  cases m <;> cases n <;> decide

theorem kind_of_matchPace (h : matchPace units s = some (v, rest)) : v.kind = .pace := by
  obtain ⟨⟨minutes, t⟩, _, h⟩ := Option.bind_eq_some_iff.1 h
  dsimp only at h
  split at h
  · cases h; rfl
  · split at h
    · cases h
    · cases h; rfl

theorem kind_of_matchSpeed (h : matchSpeed s = some (v, rest)) : v.kind = .speed := by
  obtain ⟨⟨_, _⟩, _, h⟩ := Option.bind_eq_some_iff.1 h
  obtain ⟨⟨_, _⟩, _, h⟩ := Option.bind_eq_some_iff.1 h
  cases h; rfl

theorem kind_of_matchDuration (h : matchDuration s = some (v, rest)) : v.kind = .duration := by
  rcases Option.or_eq_some_iff.1 h with h | ⟨_, h⟩
  · unfold matchComponents at h
    split at h
    · cases h; rfl
    · cases h
  · obtain ⟨⟨_, _⟩, _, h⟩ := Option.bind_eq_some_iff.1 h
    obtain ⟨⟨_, _⟩, _, h⟩ := Option.bind_eq_some_iff.1 h
    cases h; rfl

theorem kind_of_matchDistance (h : matchDistance s = some (v, rest)) : v.kind = .distance := by
  obtain ⟨⟨_, _⟩, _, h⟩ := Option.bind_eq_some_iff.1 h
  obtain ⟨⟨_, _⟩, _, h⟩ := Option.bind_eq_some_iff.1 h
  cases h; rfl

theorem kind_of_matchConstant (h : matchConstant s = some (v, rest)) : v.kind = .constant := by
  obtain ⟨⟨_, _⟩, _, h⟩ := Option.bind_eq_some_iff.1 h
  dsimp only at h
  split at h
  · cases h; rfl
  · cases h

theorem kind_of_read (h : m.read units s = some (v, rest)) : v.kind = m.kind := by
  cases m with
  | pace => exact kind_of_matchPace h
  | speed => exact kind_of_matchSpeed h
  | duration => exact kind_of_matchDuration h
  | distance => exact kind_of_matchDistance h
  | constant => exact kind_of_matchConstant h
  | operator | marathon | halfMarathon =>
    obtain ⟨_, _, h⟩ := Option.map_eq_some_iff.1 h
    cases h; rfl

/-- A token tells which matcher has read it. -/
theorem eq_of_read {m n : Matcher} (hm : m.read units s = some (v, rest))
    (hn : n.read units s = some (v, rest)) : m = n :=
  kind_injective ((kind_of_read hm).symm.trans (kind_of_read hn))

/-! ## Rivals -/

/-- Two matchers that accept a text in common, the one that goes first before
the other. -/
def rivals : List (Matcher × Matcher) :=
  [(.pace, .duration), (.pace, .distance), (.speed, .distance), (.duration, .distance)]

/-- Of any text, all that accept it are in one of these groups. -/
def groups : List (List Matcher) :=
  [[.pace, .duration, .distance], [.speed, .distance], [.constant], [.operator], [.marathon],
    [.halfMarathon]]

/-- In a group each two are rivals. -/
theorem rivals_of_groups : ∀ group ∈ groups, ∀ m ∈ group, ∀ n ∈ group, m ≠ n →
    (m, n) ∈ rivals ∨ (n, m) ∈ rivals := by decide

theorem idxOf_all_of_rivals : ∀ p ∈ rivals, all.idxOf p.1 < all.idxOf p.2 := by decide

/-- The matchers of what has no number. -/
def unnumbered : List Matcher := [.operator, .marathon, .halfMarathon]

theorem read_of_noDigit (units : UnitSystem) (hs : NoDigit s) (hm : m ∉ unnumbered) :
    m.read units s = none := by
  cases m with
  | pace => exact matchPace_of_noDigit hs
  | speed => exact matchSpeed_of_noDigit hs
  | duration => exact matchDuration_of_noDigit hs
  | distance => exact matchDistance_of_noDigit hs
  | constant => exact matchConstant_of_noDigit hs
  | operator | marathon | halfMarathon => exact absurd (by decide) hm

theorem read_of_digits (units : UnitSystem) {d : List Char} (hd : Digits d) (t : List Char)
    (hm : m ∈ unnumbered) : m.read units (d ++ t) = none := by
  cases m with
  | operator => exact matchOperator_of_digits hd t
  | marathon => exact matchMarathon_of_digits hd t
  | halfMarathon => exact matchHalfMarathon_of_digits hd t
  | pace | speed | duration | distance | constant => exact absurd hm (by decide)

/-- Of these one accepts a text at most: no operator begins with the letter of
a race, and the races begin with two letters. -/
theorem exists_unnumbered (units : UnitSystem) (s : List Char) :
    ∃ a ∈ unnumbered, ∀ m ∈ unnumbered, m ≠ a → m.read units s = none := by
  by_cases hop : BeginsWith Operator.symbol s
  · have hfirst : ∀ c ∈ s.head?, ¬ ((c = 'm' ∨ c = 'M') ∨ c = 'h' ∨ c = 'H') := by
      intro c hc hrace
      obtain ⟨t, rfl⟩ := List.head?_eq_some_iff.1 hc
      exact not_operator_of_race hrace t hop
    refine ⟨.operator, by decide, ?_⟩
    intro m hm hne
    cases m with
    | operator => exact absurd rfl hne
    | marathon => exact matchMarathon_eq_none fun c hc h => hfirst c hc (Or.inl h)
    | halfMarathon => exact matchHalfMarathon_eq_none fun c hc h => hfirst c hc (Or.inr h)
    | pace | speed | duration | distance | constant => exact absurd hm (by decide)
  have hoperator := matchOperator_of_not_beginsWith hop
  by_cases hmarathon : ∃ c ∈ s.head?, c = 'm' ∨ c = 'M'
  · obtain ⟨c, hc, hm⟩ := hmarathon
    have hother : ¬ (c = 'h' ∨ c = 'H') := by rcases hm with rfl | rfl <;> decide
    obtain ⟨t, rfl⟩ := List.head?_eq_some_iff.1 hc
    refine ⟨.marathon, by decide, ?_⟩
    intro m hm hne
    cases m with
    | operator => exact hoperator
    | marathon => exact absurd rfl hne
    | halfMarathon => exact matchHalfMarathon_of_other hother t
    | pace | speed | duration | distance | constant => exact absurd hm (by decide)
  · refine ⟨.halfMarathon, by decide, ?_⟩
    intro m hm hne
    cases m with
    | operator => exact hoperator
    | marathon => exact matchMarathon_eq_none fun c hc h => hmarathon ⟨c, hc, h⟩
    | halfMarathon => exact absurd rfl hne
    | pace | speed | duration | distance | constant => exact absurd hm (by decide)

/-- What stands behind a number decides who can read it: a unit of speed, an
end, or anything else. -/
theorem exists_group_of_number (units : UnitSystem) {n t : List Char} {x : Binary64}
    (hn : NumberText n x) (hread : readNumber? (n ++ t) = some (x, t)) :
    ∃ group ∈ groups, ∀ m, m ∉ unnumbered → m ∉ group → m.read units (n ++ t) = none := by
  by_cases hspeed : BeginsWith SpeedUnit.symbol t
  · have hbreaks := SpeedUnit.words.breaks hspeed
    refine ⟨[.speed, .distance], by decide, ?_⟩
    intro m hnumber hm
    cases m with
    | pace =>
      exact matchPace_of_number hn hbreaks fun _ => SpeedUnit.apart_pace.not_beginsWith hspeed
    | duration =>
      exact matchDuration_of_number hn hbreaks fun _ => SpeedUnit.apart_time.not_beginsWith hspeed
    | constant =>
      exact matchConstant_of_not_ends hread fun hends =>
        hends.not_beginsWith SpeedUnit.words Operator.apart_speed hspeed
    | speed | distance => exact absurd (by decide) hm
    | operator | marathon | halfMarathon => exact absurd (by decide) hnumber
  have hnoSpeed : matchSpeed (n ++ t) = none := by
    rw [matchSpeed_of_number hread, readSymbol?_eq_none _ hspeed]
    rfl
  by_cases hends : Ends t
  · refine ⟨[.constant], by decide, ?_⟩
    intro m hnumber hm
    cases m with
    | pace =>
      exact matchPace_of_number hn hends.breaks fun _ =>
        hends.not_beginsWith PaceUnit.words Operator.apart_pace
    | speed => exact hnoSpeed
    | duration =>
      exact matchDuration_of_number hn hends.breaks fun _ =>
        hends.not_beginsWith TimeUnit.words Operator.apart_time
    | distance =>
      have hlength := hends.not_beginsWith LengthUnit.words Operator.apart_length
      change matchDistance (n ++ t) = none
      rw [matchDistance_of_number hread, readSymbol?_eq_none _ hlength]
      rfl
    | constant => exact absurd (by decide) hm
    | operator | marathon | halfMarathon => exact absurd (by decide) hnumber
  · refine ⟨[.pace, .duration, .distance], by decide, ?_⟩
    intro m hnumber hm
    cases m with
    | speed => exact hnoSpeed
    | constant => exact matchConstant_of_not_ends hread hends
    | pace | duration | distance => exact absurd (by decide) hm
    | operator | marathon | halfMarathon => exact absurd (by decide) hnumber

/-- Who is not in the group refuses the text. -/
theorem exists_group (units : UnitSystem) (s : List Char) :
    ∃ group ∈ groups, ∀ m, m ∉ group → m.read units s = none := by
  rcases noDigit_or_digits s with hs | ⟨d, u, hd, hu, rfl⟩
  · obtain ⟨a, ha, hothers⟩ := exists_unnumbered units s
    refine ⟨[a], ?_, ?_⟩
    · revert ha
      cases a <;> decide
    · intro m hm
      by_cases hnumber : m ∈ unnumbered
      · exact hothers m hnumber (by simpa using hm)
      · exact read_of_noDigit units hs hnumber
  · obtain ⟨n, hn, htext⟩ := exists_numberText (readNumber?_digits hd hu)
    have hread := readNumber?_digits hd hu
    rw [htext] at hread
    obtain ⟨group, hgroup, hothers⟩ := exists_group_of_number units hn hread
    refine ⟨group, hgroup, ?_⟩
    intro m hm
    by_cases hnumber : m ∈ unnumbered
    · exact read_of_digits units hd u hnumber
    · rw [htext]
      exact hothers m hnumber hm

/-- Two matchers that accept one text are rivals. -/
theorem rivals_of_read {m n : Matcher} (hm : (m.read units s).isSome)
    (hn : (n.read units s).isSome) (hne : m ≠ n) : (m, n) ∈ rivals ∨ (n, m) ∈ rivals := by
  obtain ⟨group, hgroup, hothers⟩ := exists_group units s
  have hmem : ∀ a : Matcher, (a.read units s).isSome → a ∈ group := by
    intro a ha
    by_contra hnot
    rw [hothers a hnot] at ha
    cases ha
  exact rivals_of_groups group hgroup m (hmem m hm) n (hmem n hn) hne

/-- Each two rivals accept a text, and it goes to the first of them. -/
theorem exists_text_of_rivals {p : Matcher × Matcher} (hp : p ∈ rivals) :
    ∃ s, (p.1.read .metric s).isSome ∧ (p.2.read .metric s).isSome ∧
      matchToken .metric s = p.1.read .metric s := by
  simp only [rivals, List.mem_cons, List.not_mem_nil, or_false] at hp
  rcases hp with rfl | rfl | rfl | rfl
  · exact ⟨"4min/km".toList, by decide +kernel⟩
  · exact ⟨"4min/km".toList, by decide +kernel⟩
  · exact ⟨"15km/h".toList, by decide +kernel⟩
  · exact ⟨"4min".toList, by decide +kernel⟩

/-! ## Orders -/

section Orders

variable {order : List Matcher} {p : Matcher × Matcher}

/-- An order that reads the same has the rivals in the order that they have. -/
theorem idxOf_of_first_eq (h : order.Perm all)
    (hsame : ∀ s, first order .metric s = matchToken .metric s) (hp : p ∈ rivals) :
    order.idxOf p.1 < order.idxOf p.2 := by
  obtain ⟨s, hfirst, hsecond, htoken⟩ := exists_text_of_rivals hp
  obtain ⟨⟨v, rest⟩, hread⟩ := Option.isSome_iff_exists.1 hfirst
  have hfound : first order .metric s = some (v, rest) := by rw [hsame, htoken, hread]
  obtain ⟨a, _, ha, hbefore⟩ := findSome?_eq_some_iff_idxOf.1 hfound
  obtain rfl := eq_of_read ha hread
  have hne : p.2 ≠ p.1 := by
    intro heq
    have hlt := idxOf_all_of_rivals p hp
    rw [heq] at hlt
    exact Nat.lt_irrefl _ hlt
  exact hbefore p.2 (h.mem_iff.2 (mem_all _)) hne hsecond

/-- An order with the rivals in the order that they have reads the same. -/
theorem first_eq_of_idxOf (h : order.Perm all)
    (hrivals : ∀ p ∈ rivals, order.idxOf p.1 < order.idxOf p.2) (units : UnitSystem)
    (s : List Char) : first order units s = matchToken units s := by
  cases htoken : matchToken units s with
  | none =>
    have hnone := List.findSome?_eq_none_iff.1 htoken
    exact List.findSome?_eq_none_iff.2 fun m _ => hnone m (mem_all m)
  | some token =>
    obtain ⟨a, _, ha, hbefore⟩ := findSome?_eq_some_iff_idxOf.1 htoken
    refine findSome?_eq_some_iff_idxOf.2 ⟨a, h.mem_iff.2 (mem_all a), ha, ?_⟩
    intro c _ hne hc
    have hac := hbefore c (mem_all c) hne hc
    rcases rivals_of_read (by rw [ha]; rfl) hc hne.symm with hrival | hrival
    · exact hrivals _ hrival
    · exact absurd (idxOf_all_of_rivals _ hrival) (Nat.lt_asymm hac)

end Orders

end Matcher

/-! ## The law -/

/-- An order of the matchers reads the same as theirs where it keeps a pace
before a duration and before a distance, and both a speed and a duration before
a distance, and nowhere else. No text is accepted by two other matchers. -/
theorem an_order_reads_the_same_where_rivals_keep_theirs :
    (∀ order : List Matcher, order.Perm Matcher.all →
      ((∀ units s, Matcher.first order units s = matchToken units s) ↔
        order.idxOf .pace < order.idxOf .duration ∧ order.idxOf .pace < order.idxOf .distance ∧
          order.idxOf .speed < order.idxOf .distance ∧
          order.idxOf .duration < order.idxOf .distance)) ∧
    ∀ m n : Matcher, m ≠ n →
      ((∃ units s, (m.read units s).isSome ∧ (n.read units s).isSome) ↔
        (m, n) ∈ Matcher.rivals ∨ (n, m) ∈ Matcher.rivals) := by
  refine ⟨?_, ?_⟩
  · intro order hperm
    have hrivals : (∀ p ∈ Matcher.rivals, order.idxOf p.1 < order.idxOf p.2) ↔
        order.idxOf .pace < order.idxOf .duration ∧ order.idxOf .pace < order.idxOf .distance ∧
          order.idxOf .speed < order.idxOf .distance ∧
          order.idxOf .duration < order.idxOf .distance := by simp [Matcher.rivals]
    rw [← hrivals]
    exact ⟨fun hsame p => Matcher.idxOf_of_first_eq hperm (hsame .metric),
      Matcher.first_eq_of_idxOf hperm⟩
  · intro m n hne
    constructor
    · rintro ⟨units, s, hm, hn⟩
      exact Matcher.rivals_of_read hm hn hne
    · rintro (hp | hp)
      · obtain ⟨s, hm, hn, _⟩ := Matcher.exists_text_of_rivals hp
        exact ⟨.metric, s, hm, hn⟩
      · obtain ⟨s, hn, hm, _⟩ := Matcher.exists_text_of_rivals hp
        exact ⟨.metric, s, hm, hn⟩

/-- The constant may go first and the speed last but one; the distance may
not go before the duration. -/
theorem constants_may_go_first :
    (∀ units s, Matcher.first [.constant, .halfMarathon, .marathon, .operator, .pace, .duration,
      .speed, .distance] units s = matchToken units s) ∧
    ¬ (∀ units s, Matcher.first [.pace, .speed, .distance, .operator, .duration, .marathon,
      .halfMarathon, .constant] units s = matchToken units s) ∧
    ¬ ∃ units s, (Matcher.speed.read units s).isSome ∧
      (Matcher.duration.read units s).isSome := by
  obtain ⟨horders, hrivals⟩ := an_order_reads_the_same_where_rivals_keep_theirs
  refine ⟨?_, ?_, ?_⟩
  · exact (horders _ (by decide)).2 (by decide)
  · rw [horders _ (by decide)]
    decide
  · rw [hrivals _ _ (by decide)]
    decide

end Stride
