import FlowCheck.Proofs.Schema.Allowed
import FlowCheck.Proofs.Wire.Reading

/-!
# What a schema ensures about typed values

A schema ensures a property through a codec when every value that is read from something it allows
has the property (`Schema.Ensures`).  The property is known for the leaves, and carried through
lists and optional values.  For a record the members are gone through from the last to the first,
each with what it ensures for the rest of the argument (`Schema.MembersEnsure`).
-/

namespace FlowCheck

open Wire (Codec Record)

namespace Schema

/-- Whatever is read from a value that the schema allows has the property. -/
def Ensures {α : Type} (s : Schema) (c : Codec α) (p : α → Prop) : Prop :=
  ∀ ⦃site j a⦄, s.Allows j → c.read site j = .ok a → p a

variable {α ρ : Type} {s : Schema} {c : Codec α} {p : α → Prop}

/-! ## Leaves -/

theorem ensures_oneOf {options : List String} (hne : options ≠ []) :
    (oneOf options).Ensures .text fun t => t ∈ options := by
  rintro site j t ⟨s, rfl, hrule⟩ hread
  obtain rfl : s = t := by simpa using Codec.read_text_eq_ok_iff.1 hread
  exact hrule.option hne

theorem ensures_rootedText : rootedText.Ensures .text fun t => t.toList.head? = some '/' := by
  rintro site j t ⟨s, rfl, hrule⟩ hread
  obtain rfl : s = t := by simpa using Codec.read_text_eq_ok_iff.1 hread
  exact hrule.rooted rfl

theorem ensures_minLength {n : Nat} :
    (Schema.text { minLength := n }).Ensures .text fun t => n ≤ t.length := by
  rintro site j t ⟨s, rfl, hrule⟩ hread
  obtain rfl : s = t := by simpa using Codec.read_text_eq_ok_iff.1 hread
  exact hrule.long

/-- A number between bounds, read as a word, is between them. -/
theorem ensures_within {low high : Int} :
    (within low high).Ensures .word32 fun w => (w.toNat : Int) ≤ high := by
  rintro site j w ⟨n, rfl, -, hrange, -⟩ hread
  obtain ⟨m, hm, rfl⟩ : ∃ m, Codec.readNatural "u32" UInt32.size (.num n) = .ok m ∧
      UInt32.ofNat m = w := by
    simp only [Codec.word32] at hread
    cases hnat : Codec.readNatural "u32" UInt32.size (.num n) with
    | error q => simp [hnat, Except.map] at hread
    | ok m => exact ⟨m, rfl, by simpa [hnat, Except.map] using hread⟩
  obtain ⟨hlt, hn⟩ := Codec.readNatural_eq_ok_iff.1 hm
  obtain rfl : n = .int m := by simpa [Json.int] using hn
  have hle : (m : Int) ≤ high := by
    simpa [Number.compareInt, Int.compare_eq_gt] using hrange.high high rfl
  rwa [UInt32.toNat_ofNat_of_lt' hlt]

/-! ## Containers -/

theorem Ensures.list (h : s.Ensures c p) :
    (Schema.list s).Ensures c.list fun as => ∀ a ∈ as, p a := by
  rintro site j as ⟨values, rfl, hall⟩ hread
  obtain ⟨items, hitems, hrow⟩ := Codec.read_list_eq_ok_iff.1 hread
  obtain rfl : values = items := by simpa using hitems
  exact Wire.forall_mem_of_forall₂ hrow fun x hx a ha => h (hall x hx) ha

theorem Ensures.optional (h : s.Ensures c p) (hkind : s.kind? ≠ none) :
    s.Ensures c.optional fun o => ∀ a, o = some a → p a := by
  rintro site j o hallows hread a rfl
  have hnull : j ≠ .null := by
    rintro rfl
    exact hkind (allows_null_iff.1 hallows)
  obtain ⟨b, hb, hsome⟩ := (Codec.read_optional_of_ne_null hnull).1 hread
  obtain rfl : a = b := by simpa using hsome
  exact h hallows hb

/-! ## Records -/

/-- What the members of a structure give, read from an object that a record schema allows, has the
property. -/
def MembersEnsure (r : Record ρ α) (required : List String) (properties : List (String × Schema))
    (p : α → Prop) : Prop :=
  ∀ ⦃site members v⦄, AllowsProperties members properties →
    (∀ name ∈ required, Members.has members name = true) →
    r.readMembers site members = .value v → p v

theorem ensures_record {closed : Bool} {required : List String}
    {properties : List (String × Schema)} {r : Record ρ ρ} {title : String} {p : ρ → Prop}
    (h : MembersEnsure r required properties p) :
    (Schema.record closed required properties).Ensures (r.codec title) p := by
  rintro site j x ⟨members, rfl, hproperties, hrequired, -⟩ hread
  exact h hproperties hrequired (Record.read_obj_eq_ok_iff.1 hread)

section
variable {β : Type} {required : List String} {properties : List (String × Schema)}
  {r : Record ρ (α → β)} {name : String} {get : ρ → α} {omits : α → Bool} {p : β → Prop}
  {q : α → Prop}

theorem membersEnsure_start {make : α} (h : q make) :
    MembersEnsure (Record.start make : Record ρ α) required properties q := by
  intro site members v _ _ hread
  obtain rfl := Record.readMembers_start.1 hread
  exact h

/-- A member that the property does not depend on. -/
theorem MembersEnsure.skip {m : Wire.Member ρ α}
    (h : MembersEnsure r required properties fun f => ∀ a, p (f a)) :
    MembersEnsure (r.member m) required properties p := by
  intro site members v hproperties hrequired hread
  obtain ⟨f, a, hf, -, rfl⟩ := Record.readMembers_member.1 hread
  exact h hproperties hrequired hf a

/-- A member with a default, of which the schema and the default ensure something. -/
theorem MembersEnsure.member {default : α} (hc : s.Ensures c q) (hdefault : q default)
    (hlookup : properties.lookup name = some s)
    (h : MembersEnsure r required properties fun f => ∀ a, q a → p (f a)) :
    MembersEnsure (r.member ⟨name, none, get, c, some default, omits⟩) required properties p := by
  intro site members v hproperties hrequired hread
  obtain ⟨f, a, hf, ha, rfl⟩ := Record.readMembers_member.1 hread
  refine h hproperties hrequired hf a ?_
  rcases (Wire.Member.readFrom_eq_value_iff.1 ha).absent_or_read with habsent | ⟨j, hj, hread⟩
  · obtain rfl : default = a := Option.some.inj habsent
    exact hdefault
  · exact hc (allows_of_lookup hproperties hlookup hj) hread

/-- An optional member ensures something of what it is, if it is anything. -/
theorem MembersEnsure.optional {r : Record ρ (Option α → β)} {get : ρ → Option α}
    {omits : Option α → Bool} (hc : s.Ensures c q) (hkind : s.kind? ≠ none)
    (hlookup : properties.lookup name = some s)
    (h : MembersEnsure r required properties fun f => ∀ o, (∀ a, o = some a → q a) → p (f o)) :
    MembersEnsure (r.member ⟨name, none, get, c.optional, some none, omits⟩) required properties
      p :=
  h.member (hc.optional hkind) (fun _ ha => by contradiction) hlookup

/-- A list, of which there are no items by default, ensures something of its items. -/
theorem MembersEnsure.list {r : Record ρ (List α → β)} {get : ρ → List α} {omits : List α → Bool}
    (hc : s.Ensures c q) (hlookup : properties.lookup name = some (.list s))
    (h : MembersEnsure r required properties fun f => ∀ as, (∀ a ∈ as, q a) → p (f as)) :
    MembersEnsure (r.member ⟨name, none, get, c.list, some [], omits⟩) required properties p :=
  h.member hc.list (fun _ ha => absurd ha List.not_mem_nil) hlookup

/-- A member that is there because the schema requires it. -/
theorem MembersEnsure.needed {absent : Option α} (hc : s.Ensures c q) (hname : name ∈ required)
    (hlookup : properties.lookup name = some s)
    (h : MembersEnsure r required properties fun f => ∀ a, q a → p (f a)) :
    MembersEnsure (r.member ⟨name, none, get, c, absent, omits⟩) required properties p := by
  intro site members v hproperties hrequired hread
  obtain ⟨f, a, hf, ha, rfl⟩ := Record.readMembers_member.1 hread
  obtain ⟨j, hj, hread⟩ :=
    (Wire.Member.readFrom_eq_value_iff.1 ha).read_of_has (hrequired name hname)
  exact h hproperties hrequired hf a (hc (allows_of_lookup hproperties hlookup hj) hread)

end

end Schema
end FlowCheck
