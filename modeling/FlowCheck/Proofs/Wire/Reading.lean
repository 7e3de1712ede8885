import FlowCheck.Wire.Record
import Mathlib.Data.List.Forall2

/-!
# What reading gives

For every codec, which values it reads and what it makes of them.  A list is read item by item, a
table entry by entry, and a record member by member: a member gives the value read from it, or its
default where the object does not have it (`Wire.Gives`), and a record is read exactly when each
of its members gives a value (`Record.readMembers_member`).
-/

namespace FlowCheck
namespace Wire

/-- Two readings in a row succeed when each does. -/
theorem bind_eq_ok_iff {α β π : Type} {x : Except π α} {f : α → Except π β} {b : β} :
    (x >>= f) = .ok b ↔ ∃ a, x = .ok a ∧ f a = .ok b := by
  cases x <;> simp [bind, Except.bind]

/-- Two readings in a row fail where the first one does, or the second one after it. -/
theorem bind_eq_error_iff {α β π : Type} {x : Except π α} {f : α → Except π β} {p : π} :
    (x >>= f) = .error p ↔ x = .error p ∨ ∃ a, x = .ok a ∧ f a = .error p := by
  cases x <;> simp [bind, Except.bind]

/-- Reading a row in one go is reading each of its parts. -/
theorem mapM_eq_ok_iff_forall₂ {α β π : Type} {f : α → Except π β} {xs : List α} {ys : List β} :
    xs.mapM f = .ok ys ↔ List.Forall₂ (fun x y => f x = .ok y) xs ys := by
  induction xs generalizing ys with
  | nil => cases ys <;> simp [pure, Except.pure]
  | cons x xs ih =>
    rw [List.mapM_cons, List.forall₂_cons_left_iff]
    cases hx : f x with
    | error p => simp [bind, Except.bind]
    | ok y =>
      cases hxs : xs.mapM f with
      | error p =>
        have hnone (ys : List β) : ¬ List.Forall₂ (fun x y => f x = .ok y) xs ys := fun h => by
          simp [ih.2 h] at hxs
        simp [bind, Except.bind, hnone]
      | ok rest =>
        have hrest (ys : List β) : List.Forall₂ (fun x y => f x = .ok y) xs ys ↔ rest = ys := by
          rw [← ih, hxs, Except.ok.injEq]
        simp [bind, Except.bind, pure, Except.pure, hrest, eq_comm]

/-- Reading an ordered row fails with what the least of its parts that cannot be read fails with. -/
theorem mapM_eq_error_iff {α β π : Type} (le : α → α → Prop) (hrefl : ∀ x, le x x)
    (hanti : ∀ x y, le x y → le y x → x = y) {f : α → Except π β} {xs : List α}
    (hsorted : xs.Pairwise le) {p : π} : xs.mapM f = .error p ↔
      ∃ x ∈ xs, f x = .error p ∧ ∀ y ∈ xs, (∃ q, f y = .error q) → le x y := by
  induction xs with
  | nil => simp [pure, Except.pure]
  | cons x xs ih =>
    obtain ⟨hx, hxs⟩ := List.pairwise_cons.1 hsorted
    rw [List.mapM_cons]
    cases hread : f x with
    | error q =>
      have hfirst : ∀ y ∈ x :: xs, le x y := List.forall_mem_cons.2 ⟨hrefl x, hx⟩
      constructor
      · intro h
        obtain rfl : q = p := Except.error.inj h
        exact ⟨x, List.mem_cons_self, hread, fun y hy _ => hfirst y hy⟩
      · rintro ⟨y, hy, hfail, hleast⟩
        obtain rfl := hanti x y (hfirst y hy) (hleast x List.mem_cons_self ⟨q, hread⟩)
        obtain rfl : q = p := Except.error.inj (hread.symm.trans hfail)
        rfl
    | ok b =>
      have htail : (Except.ok b >>= fun y => xs.mapM f >>= fun ys => pure (y :: ys)) = .error p ↔
          xs.mapM f = .error p := by
        cases xs.mapM f <;> simp [bind, Except.bind, pure, Except.pure]
      rw [htail, ih hxs]
      simp [hread]

/-- Reading a row depends on how its parts are read. -/
theorem mapM_congr_of_mem {α β π : Type} {f g : α → Except π β} {xs : List α}
    (h : ∀ x ∈ xs, f x = g x) : xs.mapM f = xs.mapM g := by
  induction xs with
  | nil => rfl
  | cons x xs ih =>
    obtain ⟨hx, hxs⟩ := List.forall_mem_cons.1 h
    rw [List.mapM_cons, List.mapM_cons, hx, ih hxs]

/-- A row of two kinds in step: what holds of the first kind holds of what stands beside it. -/
theorem forall_mem_of_forall₂ {α β : Type} {r : α → β → Prop} {p : β → Prop} {xs : List α}
    {ys : List β} (h : List.Forall₂ r xs ys) (hp : ∀ x ∈ xs, ∀ y, r x y → p y) :
    ∀ y ∈ ys, p y := by
  induction h with
  | nil => simp
  | cons hxy _ ih =>
    have htail := ih fun x hx => hp x (List.mem_cons_of_mem _ hx)
    exact List.forall_mem_cons.2 ⟨hp _ List.mem_cons_self _ hxy, htail⟩

/-- A row can be read when each of its parts can. -/
theorem exists_forall₂_iff {α β : Type} {r : α → β → Prop} {xs : List α} :
    (∃ ys, List.Forall₂ r xs ys) ↔ ∀ x ∈ xs, ∃ y, r x y := by
  induction xs with
  | nil => simp
  | cons x xs ih =>
    rw [List.forall_mem_cons, ← ih]
    constructor
    · rintro ⟨ys, h⟩
      obtain ⟨y, rest, hy, hrest, -⟩ := List.forall₂_cons_left_iff.1 h
      exact ⟨⟨y, hy⟩, rest, hrest⟩
    · rintro ⟨⟨y, hy⟩, rest, hrest⟩
      exact ⟨y :: rest, .cons hy hrest⟩

namespace Codec

variable {α : Type} {c : Codec α} {site : Site} {j : Json}

/-! ## Leaves -/

theorem read_text_eq_ok_iff {s : String} : text.read site j = .ok s ↔ j = .str s := by
  cases j <;> simp [text]

theorem read_flag_eq_ok_iff {b : Bool} : flag.read site j = .ok b ↔ j = .bool b := by
  cases j <;> simp [flag]

theorem read_real_eq_ok_iff {x : Binary64} :
    real.read site j = .ok x ↔ ∃ n, j = .num n ∧ n.toBinary64 = x := by
  cases j <;> simp [real]

theorem readNatural_eq_ok_iff {name : String} {bound m : Nat} :
    readNatural name bound j = .ok m ↔ m < bound ∧ j = .int m := by
  rcases j with _ | _ | ⟨n | x⟩ | _ | _ | _
  case num.int =>
    simp only [readNatural, Json.int, Json.num.injEq, Number.int.injEq]
    by_cases h : 0 ≤ n ∧ n < bound
    · rw [if_pos h, Except.ok.injEq]
      omega
    · rw [if_neg h]
      simp only [reduceCtorEq, false_iff]
      omega
  all_goals simp [readNatural, Json.int]

/-! ## Containers -/

theorem read_optional_of_ne_null (h : j ≠ .null) {o : Option α} :
    c.optional.read site j = .ok o ↔ ∃ a, c.read site j = .ok a ∧ o = some a := by
  have hread : c.optional.read site j = (c.read site j).map some := by
    cases j <;> first | contradiction | rfl
  rw [hread]
  cases c.read site j <;> simp [Except.map, eq_comm]

theorem read_list_eq_ok_iff {as : List α} : c.list.read site j = .ok as ↔
    ∃ items, j = .arr items ∧ List.Forall₂ (fun item a => c.read site item = .ok a) items as := by
  cases j <;> simp [list, mapM_eq_ok_iff_forall₂]

theorem read_table_eq_ok_iff {entries : List (String × α)} :
    c.table.read site j = .ok entries ↔ ∃ members, j = .obj members ∧
      List.Forall₂ (fun m e => ∃ a, c.read site m.2 = .ok a ∧ (m.1, a) = e) members entries := by
  have hentry (m : String × Json) (e : String × α) :
      ((c.read site m.2).map fun a => (m.1, a)) = .ok e ↔
        ∃ a, c.read site m.2 = .ok a ∧ (m.1, a) = e := by
    cases c.read site m.2 <;> simp [Except.map]
  cases j <;> simp [table, mapM_eq_ok_iff_forall₂, hentry]

end Codec

/-! ## Records -/

/-- What a member of an object gives: the value read from it, or the default when the object does
not have it. -/
def Gives {α : Type} (c : Codec α) (absent : Option α) (site : Site) (members : Members)
    (name : String) (a : α) : Prop :=
  match members.get? name with
  | none => absent = some a
  | some j => c.read site j = .ok a

section
variable {α β γ ρ : Type} {c : Codec α} {site : Site} {members : Members} {name : String} {a : α}

theorem Gives.absent_or_read {absent : Option α} (h : Gives c absent site members name a) :
    absent = some a ∨ ∃ j, members.get? name = some j ∧ c.read site j = .ok a := by
  unfold Gives at h
  split at h
  · exact .inl h
  · next j hj => exact .inr ⟨j, hj, h⟩

/-- A member that is there gives what is read from it. -/
theorem Gives.read_of_has {absent : Option α} (h : Gives c absent site members name a)
    (hhas : members.has name = true) :
    ∃ j, members.get? name = some j ∧ c.read site j = .ok a := by
  obtain ⟨j, hj⟩ := Option.isSome_iff_exists.1 hhas
  refine ⟨j, hj, ?_⟩
  unfold Gives at h
  rwa [hj] at h

/-- A member with a default gives something when it can be read, if it is there. -/
theorem exists_gives_iff {default : α} :
    (∃ a, Gives c (some default) site members name a) ↔
      ∀ j, members.get? name = some j → ∃ a, c.read site j = .ok a := by
  unfold Gives
  cases members.get? name <;> simp

theorem Reading.both_eq_value_iff {f : α → β → γ} {x : Reading α} {y : Reading β} {v : γ} :
    Reading.both f x y = .value v ↔ ∃ a b, x = .value a ∧ y = .value b ∧ f a b = v := by
  cases x <;> cases y <;> simp [Reading.both]
  split <;> simp

theorem Reading.toExcept_eq_ok_iff {x : Reading α} : x.toExcept = .ok a ↔ x = .value a := by
  cases x <;> simp [Reading.toExcept]

namespace Member

theorem readFrom_eq_value_iff {get : ρ → α} {absent : Option α} {omits : α → Bool} :
    (Member.mk name none get c absent omits).readFrom site members = .value a ↔
      Gives c absent site members name a := by
  unfold readFrom given Gives
  cases hget : members.get? name with
  | none => cases absent <;> simp [hget]
  | some j =>
    have hgiven : (name :: (none : Option String).toList).filterMap
        (fun k => (members.get? k).map fun j => (k, j)) = [(name, j)] := by
      simp [hget]
    simp only [hgiven]
    cases c.read site j <;> simp

end Member

namespace Record

@[simp] theorem readMembers_start {make v : α} :
    (start (ρ := ρ) make).readMembers site members = .value v ↔ make = v := by
  simp [start]

theorem readMembers_member {r : Record ρ (α → β)} {m : Member ρ α} {v : β} :
    (r.member m).readMembers site members = .value v ↔
      ∃ f a, r.readMembers site members = .value f ∧ m.readFrom site members = .value a ∧
        f a = v :=
  Reading.both_eq_value_iff

/-- A structure can be read with one more member when it can be read without it and the member
gives a value. -/
theorem exists_readMembers_member {r : Record ρ (α → β)} {m : Member ρ α} :
    (∃ v, (r.member m).readMembers site members = .value v) ↔
      (∃ f, r.readMembers site members = .value f) ∧ ∃ a, m.readFrom site members = .value a := by
  simp only [readMembers_member]
  constructor
  · rintro ⟨v, f, a, hf, ha, -⟩
    exact ⟨⟨f, hf⟩, a, ha⟩
  · rintro ⟨⟨f, hf⟩, a, ha⟩
    exact ⟨f a, f, a, hf, ha, rfl⟩

theorem readMembers_optional {r : Record ρ (Option α → β)} {get : ρ → Option α} {v : β} :
    (r.optional name get c).readMembers site members = .value v ↔
      ∃ f o, r.readMembers site members = .value f ∧
        Gives c.optional (some none) site members name o ∧ f o = v := by
  simp only [optional, readMembers_member, Member.readFrom_eq_value_iff]

/-- A structure is read from an object when its members give a value. -/
theorem read_obj_eq_ok_iff {r : Record ρ ρ} {title : String} {x : ρ} :
    (r.codec title).read site (.obj members) = .ok x ↔ r.readMembers site members = .value x :=
  Reading.toExcept_eq_ok_iff

end Record
end

end Wire
end FlowCheck
