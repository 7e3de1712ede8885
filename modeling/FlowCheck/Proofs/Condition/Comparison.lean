import FlowCheck.Condition.Eval
import FlowCheck.Proofs.Json.Sameness
import Mathlib.Data.String.Basic
import Mathlib.Order.Compare

/-!
# Comparisons

Equality is decided for all values, order for two numbers or two strings only.  Both are computed
apart from each other, and fit together: equality is an equivalence, and where there is an order the
six operators speak about one linear order (`comparisons_coherent`).

Equality is not decided member by member.  Two numbers are equal when they are equal as doubles, but
inside arrays and objects an integer is told apart from a double (`eval_eq_iff_alike`); so `[1]` and
`[1.0]` differ, although their items are equal (`equal_items_in_different_arrays`).
-/

namespace FlowCheck
namespace Condition

open Json (Alike Matches)

variable {env : Members} {a b c : Json}

/-- The comparison is true. -/
def Holds (env : Members) (x : Operand) (op : Operator) (y : Operand) : Prop :=
  (Clause.compare x op y).eval env = .ok true

def BothNumbers (a b : Json) : Prop := ∃ m n, a = .num m ∧ b = .num n

def BothStrings (a b : Json) : Prop := ∃ s t, a = .str s ∧ b = .str t

/-! ## Equality -/

theorem looselyEqual_eq_same (h : ¬ BothNumbers a b) : looselyEqual a b = a.same b := by
  unfold looselyEqual
  split
  · exact absurd ⟨_, _, rfl, rfl⟩ h
  · rfl

theorem looselyEqual_iff :
    looselyEqual a b = true ↔ Alike a b ∧ (BothNumbers a b ∨ Matches Number.SameForm a b) := by
  by_cases h : BothNumbers a b
  · obtain ⟨m, n, rfl, rfl⟩ := h
    rw [looselyEqual, Binary64.eq, beq_iff_eq]
    constructor
    · intro hvalue
      exact ⟨.num hvalue, .inl ⟨m, n, rfl, rfl⟩⟩
    · rintro ⟨halike, -⟩
      cases halike with
      | num hvalue => exact hvalue
  · rw [looselyEqual_eq_same h, Json.same_iff_alike, or_iff_right h]

/-- Values are the same when they are equal and have the same numbers in the same form. -/
theorem same_iff_looselyEqual :
    a.same b = true ↔ looselyEqual a b = true ∧ Matches Number.SameForm a b := by
  rw [looselyEqual_iff, Json.same_iff_alike, and_assoc, or_and_right]
  exact and_congr_right fun _ => ⟨fun h => .inr ⟨h, h⟩, fun h => h.elim And.right And.right⟩

theorem holds_eq_iff {x y : Operand} :
    Holds env x .eq y ↔ looselyEqual (x.resolve env) (y.resolve env) = true :=
  ⟨Except.ok.inj, congrArg Except.ok⟩

/-- Values inside of equal values are equal, and their numbers have the same form. -/
def EqualInside (env : Members) (a b : Json) : Prop :=
  Holds env (.literal a) .eq (.literal b) ∧ Matches Number.SameForm a b

theorem equalInside_iff : EqualInside env a b ↔ a.same b = true := by
  rw [EqualInside, holds_eq_iff, same_iff_looselyEqual]
  rfl

theorem looselyEqual_arr_iff {xs ys : List Json} :
    looselyEqual (.arr xs) (.arr ys) = true ↔ List.Forall₂ (EqualInside env) xs ys := by
  have hsame : EqualInside env = Matches fun m n => m.same n = true := by
    funext a b
    rw [equalInside_iff, Json.same_iff_matches]
  rw [hsame, ← Json.matches_arr_iff, ← Json.same_iff_matches]
  rfl

theorem looselyEqual_obj_iff {ms ns : Members} : looselyEqual (.obj ms) (.obj ns) = true ↔
    List.Forall₂ (fun m n => m.1 = n.1 ∧ EqualInside env m.2 n.2) ms ns := by
  simp only [equalInside_iff, Json.same_iff_matches]
  rw [← Json.matches_obj_iff, ← Json.same_iff_matches]
  rfl

/-- The comparison by `==` has a truth value.  It is true when the values have one shape and equal
numbers at the same places, and when in addition they are two numbers, or the numbers in them have
the same form.  Two arrays are equal when they are equally long and their items are equal and have
numbers of the same form, and objects likewise when they have the same keys. -/
theorem eval_eq_iff_alike (env : Members) (x y : Operand) :
    ∃ equal, (Clause.compare x .eq y).eval env = .ok equal ∧
      (equal = true ↔ Alike (x.resolve env) (y.resolve env) ∧
        (BothNumbers (x.resolve env) (y.resolve env) ∨
          Matches Number.SameForm (x.resolve env) (y.resolve env))) ∧
      (∀ xs ys, x.resolve env = .arr xs → y.resolve env = .arr ys →
        (equal = true ↔ List.Forall₂ (EqualInside env) xs ys)) ∧
      ∀ ms ns, x.resolve env = .obj ms → y.resolve env = .obj ns →
        (equal = true ↔ List.Forall₂ (fun m n => m.1 = n.1 ∧ EqualInside env m.2 n.2) ms ns) := by
  refine ⟨looselyEqual (x.resolve env) (y.resolve env), rfl, looselyEqual_iff, ?_, ?_⟩
  · intro xs ys hx hy
    rw [hx, hy]
    exact looselyEqual_arr_iff
  · intro ms ns hx hy
    rw [hx, hy]
    exact looselyEqual_obj_iff

/-- Two arrays of one number each, once an integer and once a double. -/
theorem equal_items_in_different_arrays :
    let env : Members :=
      [("items", .arr [.int 1]), ("other", .arr [.num (.real (.ofInt 1))])]
    (Clause.compare (.path "items.0") .eq (.path "other.0")).eval env = .ok true ∧
      (Clause.compare (.path "items") .eq (.path "other")).eval env = .ok false ∧
      Alike ((Operand.path "items").resolve env) ((Operand.path "other").resolve env) := by
  intro env
  have hitems : (Operand.path "items").resolve env = .arr [.int 1] := rfl
  have hother : (Operand.path "other").resolve env = .arr [.num (.real (.ofInt 1))] := rfl
  have hzero : looselyEqual ((Operand.path "items.0").resolve env)
      ((Operand.path "other.0").resolve env) = true := by decide +kernel
  refine ⟨congrArg Except.ok hzero, rfl, ?_⟩
  rw [hitems, hother]
  exact .arr (.cons (.num rfl) .nil)

/-! ## Order -/

/-- Two numbers are in the order of their doubles, two strings in their own, and no other values are
in order. -/
theorem order?_eq_some_iff {o : Ordering} : order? a b = some o ↔
    (∃ m n, a = .num m ∧ b = .num n ∧ o.Compares m.toBinary64.units n.toBinary64.units) ∨
      ∃ s t, a = .str s ∧ b = .str t ∧ o.Compares s t := by
  constructor
  · intro h
    unfold order? at h
    split at h
    · exact .inl ⟨_, _, rfl, rfl, (compare_iff _ _).1 (Option.some.inj h)⟩
    · exact .inr ⟨_, _, rfl, rfl, (compare_iff _ _).1 (Option.some.inj h)⟩
    · contradiction
  · rintro (⟨m, n, rfl, rfl, h⟩ | ⟨s, t, rfl, rfl, h⟩)
    · exact congrArg some ((compare_iff _ _).2 h)
    · exact congrArg some ((compare_iff _ _).2 h)

theorem exists_order?_iff :
    (∃ o, order? a b = some o) ↔ BothNumbers a b ∨ BothStrings a b := by
  constructor
  · rintro ⟨o, h⟩
    obtain ⟨m, n, ha, hb, -⟩ | ⟨s, t, ha, hb, -⟩ := order?_eq_some_iff.1 h
    · exact .inl ⟨m, n, ha, hb⟩
    · exact .inr ⟨s, t, ha, hb⟩
  · rintro (⟨m, n, rfl, rfl⟩ | ⟨s, t, rfl, rfl⟩)
    · exact ⟨_, rfl⟩
    · exact ⟨_, rfl⟩

theorem order?_swap {o : Ordering} (h : order? a b = some o) : order? b a = some o.swap := by
  obtain ⟨m, n, ha, hb, h⟩ | ⟨s, t, ha, hb, h⟩ := order?_eq_some_iff.1 h
  · exact order?_eq_some_iff.2 (.inl ⟨n, m, hb, ha, h.swap⟩)
  · exact order?_eq_some_iff.2 (.inr ⟨t, s, hb, ha, h.swap⟩)

/-- The order of two values tells whether they are equal. -/
theorem looselyEqual_of_order? {o : Ordering} (h : order? a b = some o) :
    looselyEqual a b = (o == .eq) := by
  rw [Bool.eq_iff_iff, beq_iff_eq]
  obtain ⟨m, n, rfl, rfl, horder⟩ | ⟨s, t, rfl, rfl, horder⟩ := order?_eq_some_iff.1 h
  · exact beq_iff_eq.trans horder.eq_eq.symm
  · exact beq_iff_eq.trans horder.eq_eq.symm

theorem order?_lt_trans (hab : order? a b = some .lt) (hbc : order? b c = some .lt) :
    order? a c = some .lt := by
  obtain ⟨m, n, rfl, rfl, hmn⟩ | ⟨s, t, rfl, rfl, hst⟩ := order?_eq_some_iff.1 hab
  · obtain ⟨_, k, hn, rfl, hnk⟩ | ⟨_, _, hn, -⟩ := order?_eq_some_iff.1 hbc
    · obtain rfl := Json.num.inj hn
      exact order?_eq_some_iff.2 (.inl ⟨m, k, rfl, rfl, Int.lt_trans hmn hnk⟩)
    · contradiction
  · obtain ⟨_, _, ht, -⟩ | ⟨_, u, ht, rfl, htu⟩ := order?_eq_some_iff.1 hbc
    · contradiction
    · obtain rfl := Json.str.inj ht
      exact order?_eq_some_iff.2 (.inr ⟨s, u, rfl, rfl, String.lt_trans hst htu⟩)

/-! ## Comparisons -/

/-- The operators other than equality and its negation. -/
def Operator.isOrdering : Operator → Bool
  | .eq | .ne => false
  | .gt | .ge | .lt | .le => true

/-- The comparison has a truth value. -/
def Decided (env : Members) (x : Operand) (op : Operator) (y : Operand) : Prop :=
  ∃ truth, (Clause.compare x op y).eval env = .ok truth

variable {x y z : Operand} {op : Operator}

/-- Where there is an order, every operator goes by it. -/
theorem eval_of_order? {o : Ordering} (h : order? (x.resolve env) (y.resolve env) = some o)
    (op : Operator) : (Clause.compare x op y).eval env = .ok (op.holdsFor o) := by
  cases op with
  | eq => exact congrArg Except.ok (looselyEqual_of_order? h)
  | ne => exact congrArg (fun equal => Except.ok !equal) (looselyEqual_of_order? h)
  | gt | ge | lt | le =>
    simp only [Clause.eval, h]

theorem eval_of_no_order (hop : op.isOrdering = true)
    (h : order? (x.resolve env) (y.resolve env) = none) : (Clause.compare x op y).eval env =
      .error (.incomparable (.compare x op y) (x.resolve env) (y.resolve env)) := by
  cases op with
  | eq | ne => contradiction
  | gt | ge | lt | le =>
    simp only [Clause.eval, h]

theorem decided_iff_exists_order? (hop : op.isOrdering = true) :
    Decided env x op y ↔ ∃ o, order? (x.resolve env) (y.resolve env) = some o := by
  constructor
  · rintro ⟨truth, h⟩
    cases horder : order? (x.resolve env) (y.resolve env) with
    | some o => exact ⟨o, rfl⟩
    | none =>
      rw [eval_of_no_order hop horder] at h
      contradiction
  · rintro ⟨o, h⟩
    exact ⟨_, eval_of_order? h op⟩

/-- A comparison that has a truth value has it by an order. -/
theorem eval_ordering_eq_ok_iff (hop : op.isOrdering = true) {truth : Bool} :
    (Clause.compare x op y).eval env = .ok truth ↔
      ∃ o, order? (x.resolve env) (y.resolve env) = some o ∧ op.holdsFor o = truth := by
  constructor
  · intro h
    obtain ⟨o, ho⟩ := (decided_iff_exists_order? hop).1 ⟨truth, h⟩
    rw [eval_of_order? ho] at h
    exact ⟨o, ho, Except.ok.inj h⟩
  · rintro ⟨o, ho, rfl⟩
    exact eval_of_order? ho op

theorem eval_ordering_congr {op' : Operator} (hop : op.isOrdering = true)
    (hop' : op'.isOrdering = true) {truth truth' : Bool}
    (h : ∀ o, op.holdsFor o = truth ↔ op'.holdsFor o = truth') :
    (Clause.compare x op y).eval env = .ok truth ↔
      (Clause.compare x op' y).eval env = .ok truth' := by
  rw [eval_ordering_eq_ok_iff hop, eval_ordering_eq_ok_iff hop']
  exact exists_congr fun o => and_congr_right fun _ => h o

theorem eval_ordering_swap {op' : Operator} (hop : op.isOrdering = true) {truth : Bool}
    (h : ∀ o, op.holdsFor o = truth → op'.holdsFor o.swap = truth)
    (heval : (Clause.compare x op y).eval env = .ok truth) :
    (Clause.compare y op' x).eval env = .ok truth := by
  obtain ⟨o, ho, htruth⟩ := (eval_ordering_eq_ok_iff hop).1 heval
  rw [eval_of_order? (order?_swap ho), h o htruth]

theorem holds_lt_iff :
    Holds env x .lt y ↔ order? (x.resolve env) (y.resolve env) = some .lt := by
  rw [Holds, eval_ordering_eq_ok_iff rfl]
  exact ⟨fun ⟨o, h, ho⟩ => by rwa [beq_iff_eq.1 ho] at h, fun h => ⟨_, h, rfl⟩⟩

/-- The laws of the six operators on three values. -/
structure Coherent (env : Members) (x y z : Operand) : Prop where
  eq_refl : Holds env x .eq x
  eq_symm : Holds env x .eq y → Holds env y .eq x
  eq_trans : Holds env x .eq y → Holds env y .eq z → Holds env x .eq z
  ne_eq_not : ∃ equal, (Clause.compare x .eq y).eval env = .ok equal ∧
    (Clause.compare x .ne y).eval env = .ok !equal
  /-- What is in order is told by the values, whichever operator asks. -/
  decided_iff : ∀ op, op.isOrdering = true → (Decided env x op y ↔
    BothNumbers (x.resolve env) (y.resolve env) ∨ BothStrings (x.resolve env) (y.resolve env))
  decided_comm : ∀ op op', op.isOrdering = true → op'.isOrdering = true →
    (Decided env x op y ↔ Decided env y op' x)
  trichotomy : Decided env x .lt y →
    ∃! op : Operator, op ∈ [.lt, .eq, .gt] ∧ Holds env x op y
  le_eq_not_gt : ∀ truth, (Clause.compare x .le y).eval env = .ok truth ↔
    (Clause.compare x .gt y).eval env = .ok !truth
  ge_eq_not_lt : ∀ truth, (Clause.compare x .ge y).eval env = .ok truth ↔
    (Clause.compare x .lt y).eval env = .ok !truth
  lt_eq_gt : ∀ truth, (Clause.compare x .lt y).eval env = .ok truth ↔
    (Clause.compare y .gt x).eval env = .ok truth
  lt_trans : Holds env x .lt y → Holds env y .lt z → Holds env x .lt z

/-! ### Equality is an equivalence -/

theorem matches_num_left {R : Number → Number → Prop} {m : Number}
    (h : Matches R (.num m) b) : ∃ n, b = .num n := by
  cases h with
  | num => exact ⟨_, rfl⟩

theorem looselyEqual_refl (a : Json) : looselyEqual a a = true :=
  looselyEqual_iff.2 ⟨.refl a, .inr (.refl Number.SameForm.refl a)⟩

theorem looselyEqual_symm (h : looselyEqual a b = true) : looselyEqual b a = true := by
  obtain ⟨halike, ⟨m, n, ha, hb⟩ | hform⟩ := looselyEqual_iff.1 h
  · exact looselyEqual_iff.2 ⟨halike.symm, .inl ⟨n, m, hb, ha⟩⟩
  · exact looselyEqual_iff.2 ⟨halike.symm, .inr (hform.symm fun h => h.symm)⟩

/-- A number is equal to numbers only, so the two ways of being equal are not mixed. -/
theorem looselyEqual_trans (hab : looselyEqual a b = true) (hbc : looselyEqual b c = true) :
    looselyEqual a c = true := by
  obtain ⟨hab, hnumbers | hform⟩ := looselyEqual_iff.1 hab
  · -- Here the forms may differ, but the value in the middle is a number, and so is the third.
    obtain ⟨m, n, rfl, rfl⟩ := hnumbers
    obtain ⟨hbc, -⟩ := looselyEqual_iff.1 hbc
    obtain ⟨k, rfl⟩ := matches_num_left hbc
    exact looselyEqual_iff.2 ⟨hab.trans hbc, .inl ⟨m, k, rfl, rfl⟩⟩
  · obtain ⟨hbc, hnumbers | hform'⟩ := looselyEqual_iff.1 hbc
    · obtain ⟨n, k, rfl, rfl⟩ := hnumbers
      obtain ⟨m, rfl⟩ := matches_num_left hab.symm
      exact looselyEqual_iff.2 ⟨hab.trans hbc, .inl ⟨m, k, rfl, rfl⟩⟩
    · exact looselyEqual_iff.2 ⟨hab.trans hbc, .inr (hform.trans (fun h h' => h.trans h') hform')⟩

/-! ### The operators go together -/

/-- Of smaller, equal and greater the one that goes with the order holds, and no other. -/
theorem exists_unique_holds {o : Ordering}
    (h : order? (x.resolve env) (y.resolve env) = some o) :
    ∃! op : Operator, op ∈ [.lt, .eq, .gt] ∧ Holds env x op y := by
  have hholds : ∀ op, Holds env x op y ↔ op.holdsFor o = true := fun op => by
    rw [Holds, eval_of_order? h op]
    exact ⟨Except.ok.inj, congrArg Except.ok⟩
  simp only [hholds]
  cases o with
  | lt => exact ⟨.lt, by decide, fun op => by cases op <;> decide⟩
  | eq => exact ⟨.eq, by decide, fun op => by cases op <;> decide⟩
  | gt => exact ⟨.gt, by decide, fun op => by cases op <;> decide⟩

theorem comparisons_coherent (env : Members) (x y z : Operand) : Coherent env x y z where
  eq_refl := holds_eq_iff.2 (looselyEqual_refl _)
  eq_symm h := holds_eq_iff.2 (looselyEqual_symm (holds_eq_iff.1 h))
  eq_trans hxy hyz := holds_eq_iff.2 (looselyEqual_trans (holds_eq_iff.1 hxy) (holds_eq_iff.1 hyz))
  ne_eq_not := ⟨_, rfl, rfl⟩
  decided_iff op hop := (decided_iff_exists_order? hop).trans exists_order?_iff
  decided_comm op op' hop hop' := by
    rw [decided_iff_exists_order? hop, decided_iff_exists_order? hop']
    exact ⟨fun ⟨_, h⟩ => ⟨_, order?_swap h⟩, fun ⟨_, h⟩ => ⟨_, order?_swap h⟩⟩
  trichotomy hdecided := by
    obtain ⟨o, ho⟩ := (decided_iff_exists_order? rfl).1 hdecided
    exact exists_unique_holds ho
  le_eq_not_gt truth := eval_ordering_congr rfl rfl fun o => by cases o <;> cases truth <;> decide
  ge_eq_not_lt truth := eval_ordering_congr rfl rfl fun o => by cases o <;> cases truth <;> decide
  lt_eq_gt truth :=
    ⟨eval_ordering_swap rfl fun o h => by cases o <;> exact h,
      eval_ordering_swap rfl fun o h => by cases o <;> exact h⟩
  lt_trans hxy hyz := holds_lt_iff.2 (order?_lt_trans (holds_lt_iff.1 hxy) (holds_lt_iff.1 hyz))

end Condition
end FlowCheck
