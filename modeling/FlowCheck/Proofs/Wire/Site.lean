import FlowCheck.Proofs.Wire.Reading

/-!
# Reading in place and reading what was set aside

A value that a record has set aside for a block it shares is read a little more widely than one in
its own place.  Whatever is read in place is read set aside as well, and to the same value.  Codecs
with this property (`Codec.Portable`) are closed under the ways to build one, item by item and
member by member.
-/

namespace FlowCheck
namespace Wire

/-- What is read in place is read when it was set aside. -/
def Codec.Portable {α : Type} (c : Codec α) : Prop :=
  ∀ j a, c.read .inPlace j = .ok a → c.read .setAside j = .ok a

namespace Codec

variable {α : Type} {c : Codec α}

/-! ## Leaves -/

theorem portable_text : text.Portable := fun _ _ h => h

theorem portable_word16 : word16.Portable := fun _ _ h => h

theorem portable_word32 : word32.Portable := fun _ _ h => h

theorem portable_count : count.Portable := fun _ _ h => h

theorem portable_real : real.Portable := fun _ _ h => h

theorem portable_any : any.Portable := fun _ _ h => h

/-- The name of a variant is read alike, and beside it more may stand in a block set aside. -/
theorem portable_variant {names : List (String × α)} {nameOf : α → String} :
    (variant names nameOf).Portable := by
  have hunit (j : Json) (h : isUnit .inPlace j = true) : isUnit .setAside j = true := by
    rcases j with _ | _ | _ | _ | _ | ⟨_ | _⟩ <;> simp_all [isUnit]
  intro j a h
  match j with
  | .obj [(name, carried)] =>
    simp only [variant, bind_eq_ok_iff] at h ⊢
    obtain ⟨b, hname, hcarried⟩ := h
    refine ⟨b, hname, ?_⟩
    split at hcarried
    · next hj =>
      rw [if_pos (hunit carried hj)]
      exact hcarried
    · contradiction
  | .obj [] => exact h
  | .obj (_ :: _ :: _) => exact h
  | .str _ => exact h
  | .null => exact h
  | .bool _ => exact h
  | .num _ => exact h
  | .arr _ => exact h

/-! ## Containers -/

theorem Portable.optional (hc : c.Portable) : c.optional.Portable := by
  intro j o h
  by_cases hnull : j = .null
  · subst hnull
    exact h
  · rw [read_optional_of_ne_null hnull] at h ⊢
    obtain ⟨a, ha, rfl⟩ := h
    exact ⟨a, hc j a ha, rfl⟩

theorem Portable.list (hc : c.Portable) : c.list.Portable := by
  intro j as h
  rw [read_list_eq_ok_iff] at h ⊢
  obtain ⟨items, rfl, hitems⟩ := h
  exact ⟨items, rfl, hitems.imp fun item a ha => hc item a ha⟩

end Codec

/-! ## Records -/

/-- The members of a structure are read alike from its own place and from one set aside, by their
names and by their order. -/
structure Record.Portable {ρ α : Type} (r : Record ρ α) : Prop where
  readMembers : ∀ members v, r.readMembers .inPlace members = .value v →
    r.readMembers .setAside members = .value v
  readItems : ∀ items v, r.readItems .inPlace items = .ok v → r.readItems .setAside items = .ok v

namespace Record

variable {ρ α β : Type}

theorem portable_start {make : α} : (start (ρ := ρ) make).Portable where
  readMembers _ _ h := h
  readItems _ _ h := h

theorem Portable.member {r : Record ρ (α → β)} (hr : r.Portable) {name : String}
    {otherName : Option String} {get : ρ → α} {c : Codec α} {absent : Option α}
    {omits : α → Bool} (hc : c.Portable) :
    (r.member ⟨name, otherName, get, c, absent, omits⟩).Portable where
  readMembers members v h := by
    obtain ⟨f, a, hf, ha, rfl⟩ := readMembers_member.1 h
    refine readMembers_member.2 ⟨f, a, hr.readMembers members f hf, ?_, rfl⟩
    unfold Member.readFrom at ha ⊢
    split
    · next hgiven =>
      rw [hgiven] at ha
      exact ha
    · next key j rest hgiven =>
      simp only [hgiven] at ha
      cases hread : c.read .inPlace j with
      | error p => simp [hread] at ha
      | ok b =>
        simp only [hread] at ha
        simp only [hc j b hread]
        exact ha
  readItems items v h := by
    simp only [Record.member, bind_eq_ok_iff] at h ⊢
    obtain ⟨⟨f, items'⟩, hf, ⟨a, rest⟩, ha, hv⟩ := h
    refine ⟨⟨f, items'⟩, hr.readItems items _ hf, ⟨a, rest⟩, ?_, hv⟩
    cases items' with
    | nil => exact ha
    | cons j items' =>
      unfold Member.readItem at ha ⊢
      cases hread : c.read .inPlace j with
      | error p => simp [hread] at ha
      | ok b =>
        simp only [hread] at ha
        simp only [hc j b hread]
        exact ha

theorem Portable.codec {r : Record ρ ρ} (hr : r.Portable) {title : String} :
    (r.codec title).Portable := by
  intro j x h
  match j with
  | .obj members =>
    rw [read_obj_eq_ok_iff] at h ⊢
    exact hr.readMembers members x h
  | .arr items =>
    change r.read title .inPlace (.arr items) = .ok x at h
    change r.read title .setAside (.arr items) = .ok x
    unfold Record.read at h ⊢
    cases hitems : r.readItems .inPlace items with
    | error p => cases p <;> simp [hitems] at h
    | ok v =>
      obtain ⟨a, _ | ⟨_, _⟩⟩ := v
      · simp only [hitems] at h
        simp only [hr.readItems items _ hitems]
        exact h
      · simp [hitems] at h
  | .null => exact h
  | .bool _ => exact h
  | .num _ => exact h
  | .str _ => exact h

end Record
end Wire
end FlowCheck
