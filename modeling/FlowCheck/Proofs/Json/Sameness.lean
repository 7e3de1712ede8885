import FlowCheck.Json.Basic
import Mathlib.Data.List.Forall2

/-!
# Values of one shape

Two values match (`Json.Matches R`) when they have one shape, the same texts and truth values, and
numbers at the same places that are related by `R`.  Matching is decided member by member
(`matches_arr_iff`, `matches_obj_iff`) and inherits from `R` that it is an equivalence.

Values that are the same by a test of numbers are those that match by it (`sameBy_iff_matches`), so
sameness is matching by `Number.same`.  It asks more of two numbers than their value: an integer is
not the same as a double (`Number.same_iff`).  So values are the same when they are alike, that is
when their numbers have the same values, and when in addition the numbers have the same form
(`same_iff_alike`).
-/

namespace FlowCheck

/-! ## Numbers -/

namespace Number

variable {m n k : Number}

/-- The numbers are equal as doubles. -/
def SameValue (m n : Number) : Prop := m.toBinary64.units = n.toBinary64.units

theorem SameValue.refl (m : Number) : m.SameValue m := Eq.refl m.toBinary64.units

theorem SameValue.symm (h : m.SameValue n) : n.SameValue m := Eq.symm h

theorem SameValue.trans (hmn : m.SameValue n) (hnk : n.SameValue k) : m.SameValue k :=
  Eq.trans hmn hnk

/-- Both are doubles, or both are the same integer. -/
def SameForm : Number → Number → Prop
  | .int m, .int n => m = n
  | .real _, .real _ => True
  | _, _ => False

theorem same_iff : m.same n = true ↔ m.SameValue n ∧ m.SameForm n := by
  cases m with
  | int i =>
    cases n with
    | int l =>
      rw [same, beq_iff_eq]
      exact ⟨fun h => h ▸ ⟨rfl, rfl⟩, And.right⟩
    | real y => exact ⟨nofun, fun h => h.2.elim⟩
  | real x =>
    cases n with
    | int l => exact ⟨nofun, fun h => h.2.elim⟩
    | real y =>
      rw [same, Binary64.eq, beq_iff_eq]
      exact ⟨fun h => ⟨h, trivial⟩, And.left⟩

theorem SameForm.refl (m : Number) : m.SameForm m := by
  cases m with
  | int i => exact Eq.refl i
  | real x => trivial

theorem SameForm.symm (h : m.SameForm n) : n.SameForm m := by
  cases m <;> cases n
  · exact Eq.symm h
  · exact h
  · exact h
  · trivial

theorem SameForm.trans (hmn : m.SameForm n) (hnk : n.SameForm k) : m.SameForm k := by
  cases m <;> cases n <;> cases k
  case int.int.int => exact Eq.trans hmn hnk
  case real.real.real => trivial
  all_goals first | exact hmn.elim | exact hnk.elim

end Number

namespace Json

/-! ## Matching -/

-- Three relations and not one over `List.Forall₂`, so that what follows is by structural recursion
-- on them; `itemsMatch_iff` and `membersMatch_iff` give the rows back.
mutual

/-- The values have one shape, the same leaves other than numbers, and related numbers. -/
inductive Matches (R : Number → Number → Prop) : Json → Json → Prop
  | null : Matches R .null .null
  | bool (b : Bool) : Matches R (.bool b) (.bool b)
  | num {m n : Number} (h : R m n) : Matches R (.num m) (.num n)
  | str (s : String) : Matches R (.str s) (.str s)
  | arr {xs ys : List Json} (h : ItemsMatch R xs ys) : Matches R (.arr xs) (.arr ys)
  | obj {ms ns : Members} (h : MembersMatch R ms ns) : Matches R (.obj ms) (.obj ns)

/-- The lists are equally long, and their items match one by one. -/
inductive ItemsMatch (R : Number → Number → Prop) : List Json → List Json → Prop
  | nil : ItemsMatch R [] []
  | cons {x y : Json} {xs ys : List Json} (h : Matches R x y) (rest : ItemsMatch R xs ys) :
      ItemsMatch R (x :: xs) (y :: ys)

/-- The members have the same keys, and matching values behind them. -/
inductive MembersMatch (R : Number → Number → Prop) : Members → Members → Prop
  | nil : MembersMatch R [] []
  | cons {key : String} {x y : Json} {ms ns : Members} (h : Matches R x y)
      (rest : MembersMatch R ms ns) : MembersMatch R ((key, x) :: ms) ((key, y) :: ns)

end

variable {R S T : Number → Number → Prop}

mutual

theorem Matches.refl (hR : ∀ m, R m m) : ∀ a : Json, Matches R a a
  | .null => .null
  | .bool b => .bool b
  | .num n => .num (hR n)
  | .str s => .str s
  | .arr xs => .arr (ItemsMatch.refl hR xs)
  | .obj ms => .obj (MembersMatch.refl hR ms)

theorem ItemsMatch.refl (hR : ∀ m, R m m) : ∀ xs : List Json, ItemsMatch R xs xs
  | [] => .nil
  | x :: xs => .cons (Matches.refl hR x) (ItemsMatch.refl hR xs)

theorem MembersMatch.refl (hR : ∀ m, R m m) : ∀ ms : Members, MembersMatch R ms ms
  | [] => .nil
  | (_, x) :: ms => .cons (Matches.refl hR x) (MembersMatch.refl hR ms)

end

mutual

theorem Matches.symm (hR : ∀ {m n}, R m n → R n m) {a b : Json} :
    Matches R a b → Matches R b a
  | .null => .null
  | .bool b => .bool b
  | .num h => .num (hR h)
  | .str s => .str s
  | .arr h => .arr (ItemsMatch.symm hR h)
  | .obj h => .obj (MembersMatch.symm hR h)

theorem ItemsMatch.symm (hR : ∀ {m n}, R m n → R n m) {xs ys : List Json} :
    ItemsMatch R xs ys → ItemsMatch R ys xs
  | .nil => .nil
  | .cons h rest => .cons (Matches.symm hR h) (ItemsMatch.symm hR rest)

theorem MembersMatch.symm (hR : ∀ {m n}, R m n → R n m) {ms ns : Members} :
    MembersMatch R ms ns → MembersMatch R ns ms
  | .nil => .nil
  | .cons h rest => .cons (Matches.symm hR h) (MembersMatch.symm hR rest)

end

mutual

theorem Matches.trans (hR : ∀ {m n k}, R m n → R n k → R m k) {a b c : Json} :
    Matches R a b → Matches R b c → Matches R a c
  | .null, .null => .null
  | .bool b, .bool _ => .bool b
  | .num h, .num h' => .num (hR h h')
  | .str s, .str _ => .str s
  | .arr h, .arr h' => .arr (ItemsMatch.trans hR h h')
  | .obj h, .obj h' => .obj (MembersMatch.trans hR h h')

theorem ItemsMatch.trans (hR : ∀ {m n k}, R m n → R n k → R m k) {xs ys zs : List Json} :
    ItemsMatch R xs ys → ItemsMatch R ys zs → ItemsMatch R xs zs
  | .nil, .nil => .nil
  | .cons h rest, .cons h' rest' => .cons (Matches.trans hR h h') (ItemsMatch.trans hR rest rest')

theorem MembersMatch.trans (hR : ∀ {m n k}, R m n → R n k → R m k) {ms ns ks : Members} :
    MembersMatch R ms ns → MembersMatch R ns ks → MembersMatch R ms ks
  | .nil, .nil => .nil
  | .cons h rest, .cons h' rest' => .cons (Matches.trans hR h h') (MembersMatch.trans hR rest rest')

end

mutual

/-- Numbers that are related twice can be related by what follows from both. -/
theorem Matches.combine (hT : ∀ {m n}, R m n → S m n → T m n) {a b : Json} :
    Matches R a b → Matches S a b → Matches T a b
  | .null, .null => .null
  | .bool b, .bool _ => .bool b
  | .num h, .num h' => .num (hT h h')
  | .str s, .str _ => .str s
  | .arr h, .arr h' => .arr (ItemsMatch.combine hT h h')
  | .obj h, .obj h' => .obj (MembersMatch.combine hT h h')

theorem ItemsMatch.combine (hT : ∀ {m n}, R m n → S m n → T m n) {xs ys : List Json} :
    ItemsMatch R xs ys → ItemsMatch S xs ys → ItemsMatch T xs ys
  | .nil, .nil => .nil
  | .cons h rest, .cons h' rest' =>
    .cons (Matches.combine hT h h') (ItemsMatch.combine hT rest rest')

theorem MembersMatch.combine (hT : ∀ {m n}, R m n → S m n → T m n) {ms ns : Members} :
    MembersMatch R ms ns → MembersMatch S ms ns → MembersMatch T ms ns
  | .nil, .nil => .nil
  | .cons h rest, .cons h' rest' =>
    .cons (Matches.combine hT h h') (MembersMatch.combine hT rest rest')

end

theorem Matches.mono (hRS : ∀ {m n}, R m n → S m n) {a b : Json} (h : Matches R a b) :
    Matches S a b :=
  h.combine (fun h _ => hRS h) h

theorem matches_and_iff {a b : Json} :
    Matches (fun m n => R m n ∧ S m n) a b ↔ Matches R a b ∧ Matches S a b :=
  ⟨fun h => ⟨h.mono And.left, h.mono And.right⟩, fun h => h.1.combine And.intro h.2⟩

/-! ## Member by member -/

theorem itemsMatch_iff {xs ys : List Json} :
    ItemsMatch R xs ys ↔ List.Forall₂ (Matches R) xs ys := by
  induction xs generalizing ys with
  | nil => exact ⟨fun | .nil => .nil, fun | .nil => .nil⟩
  | cons x xs ih =>
    exact ⟨fun | .cons h rest => .cons h (ih.1 rest), fun | .cons h rest => .cons h (ih.2 rest)⟩

theorem membersMatch_iff {ms ns : Members} : MembersMatch R ms ns ↔
    List.Forall₂ (fun m n => m.1 = n.1 ∧ Matches R m.2 n.2) ms ns := by
  induction ms generalizing ns with
  | nil => exact ⟨fun | .nil => .nil, fun | .nil => .nil⟩
  | cons m ms ih =>
    constructor
    · rintro (_ | ⟨h, rest⟩)
      exact .cons ⟨rfl, h⟩ (ih.1 rest)
    · intro h
      cases h with
      | @cons _ n _ _ h rest =>
        obtain ⟨key, x⟩ := m
        obtain ⟨key', y⟩ := n
        obtain ⟨rfl, h⟩ : key = key' ∧ Matches R x y := h
        exact .cons h (ih.2 rest)

/-- Arrays match when they are equally long and their items match one by one. -/
theorem matches_arr_iff {xs ys : List Json} :
    Matches R (.arr xs) (.arr ys) ↔ List.Forall₂ (Matches R) xs ys :=
  Iff.trans ⟨fun | .arr h => h, .arr⟩ itemsMatch_iff

/-- Objects match when they have the same keys, and matching values behind them. -/
theorem matches_obj_iff {ms ns : Members} : Matches R (.obj ms) (.obj ns) ↔
    List.Forall₂ (fun m n => m.1 = n.1 ∧ Matches R m.2 n.2) ms ns :=
  Iff.trans ⟨fun | .obj h => h, .obj⟩ membersMatch_iff

/-! ## Sameness -/

section
variable {test : Number → Number → Bool}

mutual

theorem sameBy_of_matches {a b : Json} :
    Matches (fun m n => test m n = true) a b → a.sameBy test b = true
  | .null => rfl
  | .bool b => beq_self_eq_true b
  | .num h => h
  | .str s => beq_self_eq_true s
  | .arr h => sameItemsBy_of_match h
  | .obj h => sameMembersBy_of_match h

theorem sameItemsBy_of_match {xs ys : List Json} :
    ItemsMatch (fun m n => test m n = true) xs ys → sameItemsBy test xs ys = true
  | .nil => rfl
  | .cons h rest => Bool.and_eq_true_iff.2 ⟨sameBy_of_matches h, sameItemsBy_of_match rest⟩

theorem sameMembersBy_of_match {ms ns : Members} :
    MembersMatch (fun m n => test m n = true) ms ns → sameMembersBy test ms ns = true
  | .nil => rfl
  | .cons h rest => Bool.and_eq_true_iff.2
    ⟨Bool.and_eq_true_iff.2 ⟨beq_self_eq_true _, sameBy_of_matches h⟩, sameMembersBy_of_match rest⟩

end

mutual

theorem matches_of_sameBy {a b : Json} (h : a.sameBy test b = true) :
    Matches (fun m n => test m n = true) a b := by
  cases a with
  | null =>
    cases b with
    | null => exact .null
    | _ => contradiction
  | bool p =>
    cases b with
    | bool q =>
      obtain rfl : p = q := eq_of_beq h
      exact .bool p
    | _ => contradiction
  | num m =>
    cases b with
    | num n => exact .num h
    | _ => contradiction
  | str s =>
    cases b with
    | str t =>
      obtain rfl : s = t := eq_of_beq h
      exact .str s
    | _ => contradiction
  | arr xs =>
    cases b with
    | arr ys => exact .arr (match_of_sameItemsBy h)
    | _ => contradiction
  | obj ms =>
    cases b with
    | obj ns => exact .obj (match_of_sameMembersBy h)
    | _ => contradiction

theorem match_of_sameItemsBy {xs ys : List Json} (h : sameItemsBy test xs ys = true) :
    ItemsMatch (fun m n => test m n = true) xs ys := by
  cases xs with
  | nil =>
    cases ys with
    | nil => exact .nil
    | cons y ys => contradiction
  | cons x xs =>
    cases ys with
    | nil => contradiction
    | cons y ys =>
      obtain ⟨hx, hxs⟩ := Bool.and_eq_true_iff.1 h
      exact .cons (matches_of_sameBy hx) (match_of_sameItemsBy hxs)

theorem match_of_sameMembersBy {ms ns : Members} (h : sameMembersBy test ms ns = true) :
    MembersMatch (fun m n => test m n = true) ms ns := by
  cases ms with
  | nil =>
    cases ns with
    | nil => exact .nil
    | cons n ns => contradiction
  | cons m ms =>
    cases ns with
    | nil => contradiction
    | cons n ns =>
      obtain ⟨key, x⟩ := m
      obtain ⟨key', y⟩ := n
      obtain ⟨hm, hms⟩ := Bool.and_eq_true_iff.1 h
      obtain ⟨hkey, hx⟩ := Bool.and_eq_true_iff.1 hm
      obtain rfl : key = key' := eq_of_beq hkey
      exact .cons (matches_of_sameBy hx) (match_of_sameMembersBy hms)

end

/-- Values that are the same by a test match in their numbers by it, and the other way round. -/
theorem sameBy_iff_matches {a b : Json} :
    a.sameBy test b = true ↔ Matches (fun m n => test m n = true) a b :=
  ⟨matches_of_sameBy, sameBy_of_matches⟩

end

theorem same_iff_matches {a b : Json} :
    a.same b = true ↔ Matches (fun m n => m.same n = true) a b :=
  sameBy_iff_matches

/-! ## Equality -/

mutual

theorem eq_of_matches {a b : Json} : Matches Eq a b → a = b
  | .null => rfl
  | .bool _ => rfl
  | .num h => congrArg num h
  | .str _ => rfl
  | .arr h => congrArg arr (eq_of_itemsMatch h)
  | .obj h => congrArg obj (eq_of_membersMatch h)

theorem eq_of_itemsMatch {xs ys : List Json} : ItemsMatch Eq xs ys → xs = ys
  | .nil => rfl
  | .cons h rest => congrArg₂ List.cons (eq_of_matches h) (eq_of_itemsMatch rest)

theorem eq_of_membersMatch {ms ns : Members} : MembersMatch Eq ms ns → ms = ns
  | .nil => rfl
  | .cons h rest =>
    congrArg₂ List.cons (congrArg (Prod.mk _) (eq_of_matches h)) (eq_of_membersMatch rest)

end

theorem matches_eq_iff {a b : Json} : Matches Eq a b ↔ a = b :=
  ⟨eq_of_matches, fun h => h ▸ Matches.refl (fun _ => rfl) a⟩

/-- Values are equal when they are the same by equality of numbers. -/
theorem sameBy_decide_iff {a b : Json} : a.sameBy (fun m n => decide (m = n)) b = true ↔ a = b := by
  simp only [sameBy_iff_matches, decide_eq_true_eq]
  exact matches_eq_iff

instance : DecidableEq Json := fun _ _ => decidable_of_decidable_of_iff sameBy_decide_iff

/-! ## Values alike -/

/-- One shape, and numbers of the same values at the same places. -/
def Alike (a b : Json) : Prop := Matches Number.SameValue a b

theorem Alike.refl (a : Json) : Alike a a := Matches.refl Number.SameValue.refl a

theorem Alike.symm {a b : Json} (h : Alike a b) : Alike b a := Matches.symm (fun h => h.symm) h

theorem Alike.trans {a b c : Json} (hab : Alike a b) (hbc : Alike b c) : Alike a c :=
  Matches.trans (fun h h' => h.trans h') hab hbc

theorem same_iff_alike {a b : Json} :
    a.same b = true ↔ Alike a b ∧ Matches Number.SameForm a b := by
  rw [same_iff_matches]
  simp only [Number.same_iff]
  exact matches_and_iff

end Json
end FlowCheck
