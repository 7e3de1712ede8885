import FlowCheck.Proofs.Json.Members
import FlowCheck.Proofs.Wire.Reading

/-!
# The members of a record

A record is put together one member at a time.  Here it is taken apart again: to read a structure
is to read each of its members, and to write it is to write each of them (`Record.Comprises`).  As
their keys differ, every member finds in the written object just what it wrote itself
(`Record.Comprises.given_eq_writeFrom`).
-/

namespace FlowCheck
namespace Wire

variable {ρ α β P : Type}

/-! ## Keys -/

/-- A member of some type. -/
abbrev AnyMember (ρ : Type) := (α : Type) × Member ρ α

/-- The keys under which a member is read. -/
def Member.keys (m : Member ρ α) : List String := m.name :: m.otherName.toList

/-- The keys of several members. -/
def keysOf (ms : List (AnyMember ρ)) : List String := ms.flatMap fun m => m.2.keys

@[simp] theorem keysOf_append_singleton (ms : List (AnyMember ρ)) (m : AnyMember ρ) :
    keysOf (ms ++ [m]) = keysOf ms ++ m.2.keys := by
  simp [keysOf]

namespace Member

variable {m : Member ρ α} {x : ρ}

/-- A member is written under its first name, if at all. -/
theorem keys_writeFrom_sublist : ((m.writeFrom x).map Prod.fst).Sublist m.keys := by
  unfold writeFrom keys
  split
  · exact List.nil_sublist _
  · exact (List.nil_sublist _).cons_cons _

/-- In an object that has what the member wrote and nothing else under its keys, the member is
given what it wrote. -/
theorem given_eq_writeFrom {members : Members} (hkeys : m.keys.Nodup)
    (h : ∀ key ∈ m.keys, members.get? key = (m.writeFrom x).lookup key) :
    m.given members = m.writeFrom x := by
  have hname : members.get? m.name = (m.writeFrom x).lookup m.name := h _ List.mem_cons_self
  have hother : ∀ key ∈ m.otherName.toList, members.get? key = none := by
    intro key hkey
    rw [h key (List.mem_cons_of_mem _ hkey), Members.lookup_eq_none_iff_not_mem]
    intro hmem
    have hne : key ≠ m.name := fun heq => (List.nodup_cons.1 hkeys).1 (heq ▸ hkey)
    unfold writeFrom at hmem
    split at hmem
    · contradiction
    · exact hne (List.mem_singleton.1 hmem)
  have hrest : m.otherName.toList.filterMap
      (fun k => (members.get? k).map fun j => (k, j)) = [] := by
    refine List.filterMap_eq_nil_iff.2 fun key hkey => ?_
    rw [hother key hkey]
    rfl
  unfold given
  rw [List.filterMap_cons, hrest, hname]
  by_cases homits : m.omits (m.get x) = true
  · have hwritten : m.writeFrom x = [] := if_pos homits
    rw [hwritten]
    rfl
  · have hwritten : m.writeFrom x = [(m.name, m.codec.write (m.get x))] := if_neg homits
    rw [hwritten, List.lookup_cons_self]
    rfl

/-- Under a key of the member stands the value that it is read from. -/
theorem read_of_readFrom {site : Site} {members : Members} {a : α}
    (h : m.readFrom site members = .value a) {key : String} (hkey : key ∈ m.keys) {j : Json}
    (hj : members.get? key = some j) : m.codec.read site j = .ok a := by
  have hgiven : (key, j) ∈ m.given members :=
    List.mem_filterMap.2 ⟨key, hkey, by rw [hj]; rfl⟩
  unfold readFrom at h
  split at h
  · next hnone =>
    rw [hnone] at hgiven
    contradiction
  · next k i rest hsome =>
    split at h
    · contradiction
    · next b hread =>
      rw [hsome] at hgiven
      obtain ⟨-, rfl⟩ := Prod.mk.inj (List.mem_singleton.1 hgiven)
      obtain rfl := Reading.value.inj h
      exact hread
    · contradiction

end Member

/-- What stands under a key of one member was written by that member. -/
theorem lookup_flatMap_writeFrom {ms : List (AnyMember ρ)} (hkeys : (keysOf ms).Nodup)
    {m : AnyMember ρ} (hm : m ∈ ms) {key : String} (hkey : key ∈ m.2.keys) (x : ρ) :
    (ms.flatMap fun n => n.2.writeFrom x).lookup key = (m.2.writeFrom x).lookup key := by
  induction ms with
  | nil => contradiction
  | cons n rest ih =>
    rw [keysOf, List.flatMap_cons, List.nodup_append] at hkeys
    obtain ⟨-, hrest, hdisjoint⟩ := hkeys
    rw [List.flatMap_cons, List.lookup_append]
    rcases List.mem_cons.1 hm with rfl | hm
    · have hnone : (rest.flatMap fun n => n.2.writeFrom x).lookup key = none := by
        rw [Members.lookup_eq_none_iff_not_mem, List.map_flatMap]
        intro hmem
        obtain ⟨k, hk, hwritten⟩ := List.mem_flatMap.1 hmem
        have hother : key ∈ keysOf rest :=
          List.mem_flatMap.2 ⟨k, hk, Member.keys_writeFrom_sublist.subset hwritten⟩
        exact hdisjoint key hkey key hother rfl
      rw [hnone, Option.or_none]
    · have hnone : (n.2.writeFrom x).lookup key = none := by
        rw [Members.lookup_eq_none_iff_not_mem]
        intro hwritten
        have hother : key ∈ keysOf rest := List.mem_flatMap.2 ⟨m, hm, hkey⟩
        exact hdisjoint key (Member.keys_writeFrom_sublist.subset hwritten) key hother rfl
      rw [hnone, Option.none_or]
      exact ih hrest hm

/-! ## Taking a record apart -/

namespace Record

/-- Some members of a structure, put together so far: `make` builds from their values what is
read, and `take` takes these values from a structure. -/
structure Consists (r : Record ρ α) (make : P → α) (take : ρ → P) (ms : List (AnyMember ρ)) :
    Prop where
  of_readMembers : ∀ {site members v}, r.readMembers site members = .value v →
    ∃ p, make p = v ∧ ∀ x, take x = p →
      ∀ m ∈ ms, m.2.readFrom site members = .value (m.2.get x)
  readMembers : ∀ {site members x},
    (∀ m ∈ ms, m.2.readFrom site members = .value (m.2.get x)) →
      r.readMembers site members = .value (make (take x))
  of_readItems : ∀ {site items v rest}, r.readItems site items = .ok (v, rest) →
    ∃ p, make p = v ∧ ∀ x, take x = p →
      ∀ m ∈ ms, m.2.absent = some (m.2.get x) ∨ ∃ j, m.2.codec.read site j = .ok (m.2.get x)
  writeMembers : ∀ x, r.writeMembers x = ms.flatMap fun m => m.2.writeFrom x

theorem consists_start {make : α} :
    (start (ρ := ρ) make).Consists (fun _ : Unit => make) (fun _ => ()) [] where
  of_readMembers h := ⟨(), readMembers_start.1 h, fun _ _ m hm => (List.not_mem_nil hm).elim⟩
  readMembers _ := rfl
  of_readItems h := by
    obtain ⟨rfl, -⟩ := Prod.mk.inj (Except.ok.inj h)
    exact ⟨(), rfl, fun _ _ m hm => (List.not_mem_nil hm).elim⟩
  writeMembers _ := rfl

theorem Consists.member {r : Record ρ (α → β)} {make : P → α → β} {take : ρ → P}
    {ms : List (AnyMember ρ)} (h : r.Consists make take ms) (m : Member ρ α) :
    (r.member m).Consists (Function.uncurry make) (fun x => (take x, m.get x))
      (ms ++ [⟨α, m⟩]) where
  of_readMembers hread := by
    obtain ⟨f, a, hf, ha, rfl⟩ := readMembers_member.1 hread
    obtain ⟨p, rfl, hms⟩ := h.of_readMembers hf
    refine ⟨(p, a), rfl, fun x hx => ?_⟩
    obtain ⟨rfl, rfl⟩ := Prod.mk.inj hx
    exact List.forall_mem_append.2 ⟨hms x rfl, List.forall_mem_singleton.2 ha⟩
  readMembers hms := by
    obtain ⟨hms, hm⟩ := List.forall_mem_append.1 hms
    have hlast : m.readFrom _ _ = .value _ := hm ⟨α, m⟩ (List.mem_singleton_self _)
    exact readMembers_member.2 ⟨_, _, h.readMembers hms, hlast, rfl⟩
  of_readItems hread := by
    simp only [Record.member, bind_eq_ok_iff] at hread
    obtain ⟨⟨f, items'⟩, hf, ⟨a, rest'⟩, ha, hv⟩ := hread
    obtain ⟨rfl, -⟩ := Prod.mk.inj (Except.ok.inj hv)
    obtain ⟨p, rfl, hms⟩ := h.of_readItems hf
    refine ⟨(p, a), rfl, fun x hx => ?_⟩
    obtain ⟨rfl, rfl⟩ := Prod.mk.inj hx
    refine List.forall_mem_append.2 ⟨hms x rfl, List.forall_mem_singleton.2 ?_⟩
    unfold Member.readItem at ha
    split at ha
    · split at ha
      · next b hb =>
        obtain ⟨rfl, -⟩ := Prod.mk.inj (Except.ok.inj ha)
        exact .inl hb
      · contradiction
    · split at ha
      · next b hb =>
        obtain ⟨rfl, -⟩ := Prod.mk.inj (Except.ok.inj ha)
        exact .inr ⟨_, hb⟩
      · contradiction
  writeMembers x := by
    rw [List.flatMap_append, ← h.writeMembers x, List.flatMap_singleton]
    rfl

/-! ## Whole structures -/

/-- A whole structure with its members. -/
structure Comprises (r : Record ρ ρ) (ms : List (AnyMember ρ)) : Prop where
  readMembers_iff : ∀ {site members x}, r.readMembers site members = .value x ↔
    ∀ m ∈ ms, m.2.readFrom site members = .value (m.2.get x)
  of_readItems : ∀ {site items x rest}, r.readItems site items = .ok (x, rest) →
    ∀ m ∈ ms, m.2.absent = some (m.2.get x) ∨ ∃ j, m.2.codec.read site j = .ok (m.2.get x)
  writeMembers : ∀ x, r.writeMembers x = ms.flatMap fun m => m.2.writeFrom x

/-- When a structure and the values of its members determine each other, the members are all it
comprises. -/
theorem Consists.comprises {r : Record ρ ρ} {make : P → ρ} {take : ρ → P}
    {ms : List (AnyMember ρ)} (h : r.Consists make take ms) (htake : ∀ p, take (make p) = p)
    (hmake : ∀ x, make (take x) = x) : r.Comprises ms where
  readMembers_iff := by
    intro site members x
    constructor
    · intro hread
      obtain ⟨p, rfl, hms⟩ := h.of_readMembers hread
      exact hms _ (htake p)
    · intro hms
      rw [h.readMembers hms, hmake]
  of_readItems hread := by
    obtain ⟨p, rfl, hms⟩ := h.of_readItems hread
    exact hms _ (htake p)
  writeMembers := h.writeMembers

namespace Comprises

variable {r : Record ρ ρ} {ms : List (AnyMember ρ)}

theorem keys_writeMembers_sublist (h : r.Comprises ms) (x : ρ) :
    ((r.writeMembers x).map Prod.fst).Sublist (keysOf ms) := by
  rw [h.writeMembers, List.map_flatMap]
  clear h
  induction ms with
  | nil => exact List.nil_sublist _
  | cons m rest ih =>
    rw [List.flatMap_cons, keysOf, List.flatMap_cons]
    exact Member.keys_writeFrom_sublist.append ih

/-- In an object that has what was written under the keys of a structure, every member is given
what it wrote. -/
theorem given_eq_writeFrom (h : r.Comprises ms) (hkeys : (keysOf ms).Nodup) {members : Members}
    {x : ρ} (hagree : ∀ key ∈ keysOf ms, members.get? key = (r.writeMembers x).lookup key)
    {m : AnyMember ρ} (hm : m ∈ ms) : m.2.given members = m.2.writeFrom x := by
  have hsub : m.2.keys.Sublist (keysOf ms) :=
    List.sublist_flatten_of_mem (List.mem_map_of_mem (f := fun n : AnyMember ρ => n.2.keys) hm)
  refine Member.given_eq_writeFrom (hkeys.sublist hsub) fun key hkey => ?_
  rw [hagree key (hsub.subset hkey), h.writeMembers, lookup_flatMap_writeFrom hkeys hm hkey]

end Comprises
end Record
end Wire
end FlowCheck
