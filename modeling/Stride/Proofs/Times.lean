-- A whole number of seconds is shown exactly: the hours, minutes and seconds
-- of its text are read as that number again, and so are the minutes and
-- seconds of a pace.
import Stride.Proofs.Rendering
import Stride.Proofs.WholeNumbers

namespace Stride

open Binary64

/-! ## Whole numbers in text -/

theorem digitsNumber_toDigits (n : Nat) : digitsNumber (Nat.toDigits 10 n) 0 = ofNat n := by
  unfold digitsNumber
  rw [Nat.ofDigitChars_ten_toDigits, ofDecimal_eq, ofNat]
  simp

theorem wholeText_natCast (n : Nat) : wholeText n = Nat.toDigits 10 n := by
  unfold wholeText
  rw [if_neg (by omega), Int.natAbs_natCast]

/-- The zero in front of a single digit counts for nothing. -/
theorem digitsNumber_twoPlaces (n : Nat) : digitsNumber (twoPlaces n) 0 = ofNat n := by
  unfold twoPlaces
  rw [wholeText_natCast, ← digitsNumber_toDigits n]
  split
  · unfold digitsNumber
    rw [Nat.ofDigitChars_cons]
    rfl
  · rfl

/-! ## Times by the clock -/

/-- Whole numbers of hours, minutes and seconds. -/
abbrev Clock := List (Nat × TimeUnit)

namespace Clock

def weight : TimeUnit → Nat
  | .second => 1
  | .minute => 60
  | .hour => 3600

theorem inSeconds_eq (unit : TimeUnit) : unit.inSeconds = ofNat (weight unit) := by
  cases unit <;> rfl

def total : Clock → Nat
  | [] => 0
  | part :: c => part.1 * weight part.2 + total c

theorem total_nil : total [] = 0 := rfl

theorem total_cons (part : Nat × TimeUnit) (c : Clock) :
    total (part :: c) = part.1 * weight part.2 + total c := rfl

/-- The components that the parts are written as. -/
def components (c : Clock) : Components := c.map fun part => (Nat.toDigits 10 part.1, part.2)

theorem components_nil : components [] = [] := rfl

theorem components_cons (part : Nat × TimeUnit) (c : Clock) :
    components (part :: c) = (Nat.toDigits 10 part.1, part.2) :: components c := rfl

/-- One more part is added exactly. -/
theorem ofNat_add_part {part : Nat × TimeUnit} {start : Nat}
    (h : start + part.1 * weight part.2 ≤ 2 ^ 53) :
    ofNat start + digitsNumber (Nat.toDigits 10 part.1) 0 * part.2.inSeconds =
      ofNat (start + part.1 * weight part.2) := by
  have hpart : part.1 ≤ part.1 * weight part.2 :=
    Nat.le_mul_of_pos_right _ (by cases part.2 <;> decide)
  have hweight : weight part.2 ≤ 2 ^ 53 := by cases part.2 <;> decide
  rw [digitsNumber_toDigits, inSeconds_eq, ofNat_mul (by omega) hweight, ofNat_add (by omega)]

theorem foldl_components {c : Clock} {start : Nat} (h : start + total c < 2 ^ 53) :
    (components c).foldl (fun sum (digits, unit) => sum + digitsNumber digits 0 * unit.inSeconds)
      (ofNat start) = ofNat (start + total c) := by
  induction c generalizing start with
  | nil => rw [components_nil, List.foldl_nil, total_nil, Nat.add_zero]
  | cons part c ih =>
    rw [total_cons] at h ⊢
    have hpart : start + part.1 * weight part.2 ≤ 2 ^ 53 := by omega
    rw [components_cons, List.foldl_cons]
    dsimp only
    rw [ofNat_add_part hpart, ih (by omega), Nat.add_assoc]

/-- The components count as many seconds as the parts. -/
theorem seconds_components {c : Clock} (h : total c < 2 ^ 53) :
    (components c).seconds = ofNat (total c) := by
  have hstart : 0 + total c < 2 ^ 53 := by omega
  have hfold := foldl_components hstart
  rwa [Nat.zero_add] at hfold

/-- Parts of zero count for nothing. -/
theorem total_filter (c : Clock) : total (c.filter fun part => 0 < part.1) = total c := by
  induction c with
  | nil => rfl
  | cons part c ih =>
    rw [List.filter_cons, total_cons]
    split
    next => rw [total_cons, ih]
    next hzero =>
      have hnone : part.1 = 0 := by simpa using hzero
      rw [ih, hnone, Nat.zero_mul, Nat.zero_add]

/-- Hours, minutes and seconds of a time. -/
def ofSeconds (n : Nat) : Clock := [(n / 3600, .hour), (n % 3600 / 60, .minute), (n % 60, .second)]

/-- The parts that are shown: those above zero, or no seconds. -/
def shown (n : Nat) : Clock :=
  match (ofSeconds n).filter fun part => 0 < part.1 with
  | [] => [(0, .second)]
  | c => c

theorem total_shown (n : Nat) : total (shown n) = n := by
  have hall : total (ofSeconds n) = n := by
    simp [ofSeconds, total, weight]
    omega
  rw [← total_filter] at hall
  unfold shown
  split
  next hnone => rwa [hnone] at hall
  next => exact hall

theorem ordered_components_shown (n : Nat) :
    components (shown n) ≠ [] ∧ Ordered TimeUnit.all (components (shown n)) := by
  have hdigits : ∀ c : Clock, ∀ part ∈ components c, Digits part.1 := by
    intro c part hpart
    obtain ⟨_, _, rfl⟩ := List.mem_map.1 hpart
    exact digits_toDigits _
  have hunits : ∀ c : Clock, (components c).map Prod.snd = c.map Prod.snd := by
    intro c
    unfold components
    rw [List.map_map]
    rfl
  unfold shown
  split
  next => exact ⟨by simp [components], by rw [hunits]; decide, hdigits _⟩
  next hne =>
    refine ⟨?_, ?_, hdigits _⟩
    · intro hnil
      exact hne (List.map_eq_nil_iff.1 hnil)
    · rw [hunits]
      exact List.filter_sublist.map Prod.snd

theorem le_of_mem_ofSeconds {n : Nat} {part : Nat × TimeUnit} (h : part ∈ ofSeconds n) :
    part.1 ≤ n := by
  simp only [ofSeconds, List.mem_cons, List.not_mem_nil, or_false] at h
  rcases h with rfl | rfl | rfl <;> dsimp only <;> omega

end Clock

/-! ## What is shown -/

open Clock

section Shown

variable {n : Nat}

theorem clockParts_ofNat (h : n < 2 ^ 53) :
    clockParts (ofNat n) = (ofSeconds n).map fun part => (ofNat part.1, part.2) := by
  have hhour : hourSeconds = ofNat 3600 := rfl
  have hminute : minuteSeconds = ofNat 60 := rfl
  have hrest : n % 3600 < 2 ^ 53 := Nat.lt_of_le_of_lt (Nat.mod_le _ _) h
  unfold clockParts
  rw [hhour, hminute, floor_div_ofNat h (by decide) (by decide),
    ofNat_mod (Nat.le_of_lt h) (by decide) (by decide),
    ofNat_mod (Nat.le_of_lt h) (by decide) (by decide),
    floor_div_ofNat hrest (by decide) (by decide)]
  simp only [ofSeconds, List.map_cons, List.map_nil]

/-- A part is shown as its digits, unless it is zero. -/
theorem filter_clockParts (h : n < 2 ^ 53) :
    ((clockParts (ofNat n)).filter fun part => Binary64.lt 0 part.1).map
        (fun part => (⟨String.ofList (wholeText part.1.toInteger), part.2.symbol⟩ : Piece)) =
      (components ((ofSeconds n).filter fun part => 0 < part.1)).map
        fun c => ⟨String.ofList c.1, c.2.symbol⟩ := by
  have hle : ∀ part ∈ ofSeconds n, part.1 ≤ 2 ^ 53 := fun part hpart =>
    Nat.le_trans (le_of_mem_ofSeconds hpart) (Nat.le_of_lt h)
  have hkept : ((ofSeconds n).filter fun part => Binary64.lt 0 (ofNat part.1)) =
      (ofSeconds n).filter fun part => 0 < part.1 :=
    List.filter_congr fun part hpart => zero_lt_ofNat (hle part hpart)
  unfold components
  rw [clockParts_ofNat h, List.filter_map, List.map_map, List.map_map]
  simp only [Function.comp_def]
  rw [hkept]
  apply List.map_congr_left
  intro part hpart
  rw [toInteger_ofNat (hle part (List.mem_filter.1 hpart).1), wholeText_natCast]

theorem durationPieces_ofNat (h : n < 2 ^ 53) :
    durationPieces (ofNat n) =
      (components (shown n)).map fun c => ⟨String.ofList c.1, c.2.symbol⟩ := by
  unfold durationPieces
  rw [if_pos (isFinite_ofNat (Nat.le_of_lt h)), round_ofNat (Nat.le_of_lt h)]
  dsimp only
  rw [filter_clockParts h]
  unfold shown
  cases (ofSeconds n).filter fun part => 0 < part.1 with
  | nil => rfl
  | cons part c => rfl

theorem minutesAndSeconds_ofNat (h : n < 2 ^ 53) :
    minutesAndSeconds (ofNat n) = Nat.toDigits 10 (n / 60) ++ ':' :: twoPlaces (n % 60 : Nat) := by
  unfold minutesAndSeconds
  rw [if_pos (isFinite_ofNat (Nat.le_of_lt h)), round_ofNat (Nat.le_of_lt h)]
  dsimp only
  rw [toInteger_ofNat (Nat.le_of_lt h), Int.tdiv_eq_ediv_of_nonneg (Int.natCast_nonneg n),
    Int.tmod_eq_emod_of_nonneg (Int.natCast_nonneg n), ← wholeText_natCast]
  rfl

end Shown

/-! ## What is read -/

section Read

variable {n : Nat}

theorem reads_written_time (units reading : UnitSystem) (h : n < 2 ^ 53) :
    Reads reading (Value.written units (.duration (ofNat n))) (.duration (ofNat n)) [] := by
  obtain ⟨hne, hordered⟩ := ordered_components_shown n
  have hwritten : Value.written units (.duration (ofNat n)) = (components (shown n)).text :=
    written_duration hordered.digits (durationPieces_ofNat h)
  have hseconds : (components (shown n)).seconds = ofNat n := by
    rw [seconds_components (by rwa [total_shown]), total_shown]
  rw [hwritten, ← hseconds]
  exact reads_components reading hne hordered

/-- Sixty times the minutes, and the seconds. -/
theorem minutes_add_seconds (h : n < 2 ^ 53) :
    digitsNumber (Nat.toDigits 10 (n / 60)) 0 * minuteSeconds +
      digitsNumber (twoPlaces (n % 60 : Nat)) 0 = ofNat n := by
  have hminute : minuteSeconds = ofNat 60 := rfl
  have hsplit : n / 60 * 60 + n % 60 = n := Nat.div_add_mod' n 60
  rw [digitsNumber_toDigits, digitsNumber_twoPlaces, hminute, ofNat_mul (by omega) (by decide),
    ofNat_add (by omega), hsplit]

theorem reads_rendered_pace (reading : UnitSystem) (h : n < 2 ^ 53) :
    Reads reading (Value.render .metric (.pace ⟨ofNat n, .pace⟩)).toList
      (.pace ⟨ofNat n, .pace⟩) [] := by
  have hpieces : Value.pieces .metric (.pace ⟨ofNat n, .pace⟩) =
      [⟨String.ofList (minutesAndSeconds (ofNat n)), PaceUnit.minutesPerKilometer.symbol⟩] := rfl
  have htext : (Value.render .metric (.pace ⟨ofNat n, .pace⟩)).toList =
      Nat.toDigits 10 (n / 60) ++ ':' ::
        (twoPlaces (n % 60 : Nat) ++ (PaceUnit.minutesPerKilometer.symbol.toList ++ [])) := by
    rw [Value.render_of_piece hpieces, String.toList_ofList, minutesAndSeconds_ofNat h]
    simp
  have hreads : Reads reading _ (.pace ⟨PaceUnit.minutesPerKilometer.perKilometer _, .pace⟩) [] :=
    .clockPace .minutesPerKilometer [] (digits_toDigits (n / 60))
      (digits_twoPlaces (Int.natCast_nonneg (n % 60)))
  rw [minutes_add_seconds h] at hreads
  rw [htext]
  exact hreads

end Read

/-! ## The law -/

/-- A whole number of seconds is shown so that its text is one token, of the
very same number: as a time in either system, and as a pace for a kilometer. -/
theorem whole_seconds_are_read_as_they_are_shown (units reading : UnitSystem) {n : Nat}
    (h : n < 2 ^ 53) :
    matchToken reading (withoutBlanks (Value.render units (.duration (ofNat n))).toList) =
        some (.duration (ofNat n), []) ∧
      matchToken reading (Value.render .metric (.pace ⟨ofNat n, .pace⟩)).toList =
        some (.pace ⟨ofNat n, .pace⟩, []) :=
  ⟨matchToken_of_reads (reads_written_time units reading h),
    matchToken_of_reads (reads_rendered_pace reading h)⟩

/-- The greatest of these numbers, a time of more than two trillion hours. -/
theorem the_longest_exact_time_is_read_again :
    9007199254740991 < 2 ^ 53 ∧
      Value.render .imperial (.duration (ofNat 9007199254740991)) = "2501999792983h 36min 31s" ∧
      matchToken .metric "2501999792983h36min31s".toList =
        some (.duration (ofNat 9007199254740991), []) ∧
      matchToken .imperial "150119987579016:31min/km".toList =
        some (.pace ⟨ofNat 9007199254740991, .pace⟩, []) := by
  have hlt : 9007199254740991 < 2 ^ 53 := by decide
  have htime : Value.render .imperial (.duration (ofNat 9007199254740991)) =
      "2501999792983h 36min 31s" := by decide +kernel
  have hpace : Value.render .metric (.pace ⟨ofNat 9007199254740991, .pace⟩) =
      "150119987579016:31min/km" := by decide +kernel
  have hblanks : withoutBlanks "2501999792983h 36min 31s".toList =
      "2501999792983h36min31s".toList := by decide +kernel
  have hmetric := (whole_seconds_are_read_as_they_are_shown .imperial .metric hlt).1
  have himperial := (whole_seconds_are_read_as_they_are_shown .imperial .imperial hlt).2
  rw [htime, hblanks] at hmetric
  rw [hpace] at himperial
  exact ⟨hlt, htime, hmetric, himperial⟩

end Stride
