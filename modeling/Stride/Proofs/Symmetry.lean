-- Which operands may change sides. A sum and a product do not look at the order
-- of their operands, and a time or a length at a pace comes to what the pace
-- comes to for it. Where one order fails the other fails with the same failure.
import Stride.Operation

namespace Stride

namespace Binary64

/-! ## Sums and products -/

protected theorem add_comm (x y : Binary64) : x + y = y + x := by
  change Binary64.add x y = Binary64.add y x
  cases x with
  | nan => cases y <;> rfl
  | infinite m =>
    cases y with
    | nan => rfl
    | infinite n =>
      -- Two infinities of one sign are that infinity, and of two signs NaN.
      by_cases h : m = n
      · rw [h]
      · simp only [add, if_neg h, if_neg (Ne.symm h)]
    | finite n v hv => rfl
  | finite m u hu =>
    cases y with
    | nan => rfl
    | infinite n => rfl
    | finite n v hv =>
      by_cases h : m = n
      · subst h
        simp only [add, if_true, Nat.add_comm]
      · -- The larger magnitude gives the sign, and equal ones give `0`.
        simp only [add, if_neg h, if_neg (Ne.symm h)]
        rcases Nat.lt_trichotomy u v with hlt | heq | hgt
        · rw [if_neg (Nat.lt_asymm hlt), if_pos hlt, if_pos hlt]
        · simp [heq]
        · rw [if_pos hgt, if_neg (Nat.lt_asymm hgt), if_pos hgt]

protected theorem mul_comm (x y : Binary64) : x * y = y * x := by
  change Binary64.mul x y = Binary64.mul y x
  cases x with
  | nan => cases y <;> rfl
  | infinite m =>
    cases y with
    | nan => rfl
    | infinite n => simp only [mul, Bool.xor_comm]
    | finite n v hv => simp only [mul, Bool.xor_comm]
  | finite m u hu =>
    cases y with
    | nan => rfl
    | infinite n => simp only [mul, Bool.xor_comm]
    | finite n v hv => simp only [mul, Bool.xor_comm, Nat.mul_comm]

end Binary64

/-! ## Rules -/

/-- Only lengths, times and constants are added, each to its own kind. -/
theorem applyRule_add_comm (a b : Value) : applyRule a .add b = applyRule b .add a := by
  cases a with
  | distance d =>
    cases b with
    | distance e => simp only [applyRule, Binary64.add_comm]
    | _ => rfl
  | duration t =>
    cases b with
    | duration u => simp only [applyRule, Binary64.add_comm]
    | _ => rfl
  | constant x =>
    cases b with
    | constant y => simp only [applyRule, Binary64.add_comm]
    | _ => rfl
  | _ => cases b <;> rfl

/-- The factor of a length or a time is written on either side, and the rule is
one; of two constants each is the factor of the other. -/
theorem applyRule_multiply_comm (a b : Value) :
    applyRule a .multiply b = applyRule b .multiply a := by
  cases a with
  | constant x =>
    cases b with
    | constant y => simp only [applyRule, Binary64.mul_comm]
    | _ => rfl
  | _ => cases b <;> rfl

/-- An operation is its rule and the range of what that comes to. -/
theorem Operator.apply_congr {op other : Operator} {a b c d : Value}
    (h : applyRule a op b = applyRule c other d) : op.apply a b = other.apply c d := by
  unfold Operator.apply
  rw [h]

/-- A pace for a distance and a distance for a pace come to one number, which is
shown as seconds or as meters. -/
theorem Operator.apply_forWord_cases (d : Distance) (p : Pace) :
    (Operator.forWord.apply (.pace p) (.distance d) = .error .outOfRange ∧
      Operator.forWord.apply (.distance d) (.pace p) = .error .outOfRange) ∨
    (Operator.forWord.apply (.pace p) (.distance d) = .ok (.duration (timeFor d p)) ∧
      Operator.forWord.apply (.distance d) (.pace p) =
        .ok (.distance (.plain (timeFor d p)))) := by
  by_cases h : (timeFor d p).isFinite = true
  · right
    simp [Operator.apply, applyRule, Value.isInRange, Value.quantity?, Distance.meters, h]
  · left
    simp [Operator.apply, applyRule, Value.isInRange, Value.quantity?, Distance.meters, h]

/-! ## The law -/

/-- Any two values may change sides at `+` and at `*`, with the same failure where
there is no rule for them or no number. A time or a distance at a pace comes to
what that pace for it comes to. A distance for a pace fails as the pace for the
distance does, or comes to the same number as a plain distance. -/
theorem operands_may_change_sides (a b : Value) (t : Binary64) (d : Distance) (p : Pace) :
    Operator.add.apply a b = Operator.add.apply b a ∧
    Operator.multiply.apply a b = Operator.multiply.apply b a ∧
    Operator.atWord.apply (.duration t) (.pace p) =
      Operator.forWord.apply (.pace p) (.duration t) ∧
    Operator.atWord.apply (.distance d) (.pace p) =
      Operator.forWord.apply (.pace p) (.distance d) ∧
    ((∃ failure, Operator.forWord.apply (.pace p) (.distance d) = .error failure ∧
        Operator.forWord.apply (.distance d) (.pace p) = .error failure) ∨
      ∃ x, Operator.forWord.apply (.pace p) (.distance d) = .ok (.duration x) ∧
        Operator.forWord.apply (.distance d) (.pace p) = .ok (.distance (.plain x))) := by
  refine ⟨Operator.apply_congr (applyRule_add_comm a b),
    Operator.apply_congr (applyRule_multiply_comm a b), Operator.apply_congr rfl,
    Operator.apply_congr rfl, ?_⟩
  rcases Operator.apply_forWord_cases d p with ⟨hpace, hdistance⟩ | ⟨hpace, hdistance⟩
  · exact Or.inl ⟨_, hpace, hdistance⟩
  · exact Or.inr ⟨_, hpace, hdistance⟩

end Stride
