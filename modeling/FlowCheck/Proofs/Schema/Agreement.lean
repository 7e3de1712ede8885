import FlowCheck.Proofs.Schema.Allowed
import FlowCheck.Proofs.Schema.Place
import FlowCheck.Proofs.Wire.Reading

/-!
# Where a schema and a codec agree

A schema agrees with a codec up to some demands when a value that the schema allows can be read
exactly if it meets the demands (`Schema.Agrees`).  Leaves agree, or demand that a number be
written as an integer that its type holds.  Lists, tables and records agree up to the demands of
what they contain; a record is compared with the members of a structure one by one
(`Schema.MembersAgree`), in the order in which the structure lists them.
-/

namespace FlowCheck

open Wire (Codec Gives Record Site)

/-- The number is written as an integer, not as a double, and a word of so many bits holds it. -/
def Json.IsWord (bits : Nat) (j : Json) : Prop := ∃ n : Nat, n < Word.count bits ∧ j = .int n

/-- An object has at most one of two members. -/
def Json.HasNotBoth (name other : String) (j : Json) : Prop :=
  ¬ ((j.get? name).isSome = true ∧ (j.get? other).isSome = true)

namespace Schema

/-- A value that the schema allows can be read when it meets the demands, and only then. -/
def Agrees {α : Type} (s : Schema) (c : Codec α) (demands : List Demand) : Prop :=
  ∀ ⦃site j⦄, s.Allows j → ((∃ a, c.read site j = .ok a) ↔ Demand.Met demands j)

variable {α β ρ : Type} {s : Schema} {c : Codec α} {demands more : List Demand}

/-! ## Leaves -/

theorem agrees_text {rule : TextRule} : (Schema.text rule).Agrees .text [] := by
  rintro site j ⟨t, rfl, -⟩
  simp [Codec.text]

theorem agrees_flag : boolean.Agrees .flag [] := by
  rintro site j ⟨b, rfl⟩
  simp [Codec.flag]

theorem agrees_real {range : NumberRange} : (number range).Agrees .real [] := by
  rintro site j ⟨n, rfl, -⟩
  simp [Codec.real]

theorem agrees_any : any.Agrees .any [] := by
  intro site j _
  simp [Codec.any]

theorem exists_readNatural_iff {name : String} {bits : Nat} {j : Json} :
    (∃ n, Codec.readNatural name (Word.count bits) j = .ok n) ↔ j.IsWord bits := by
  simp only [Codec.readNatural_eq_ok_iff, Json.IsWord]

theorem exists_map_eq_ok_iff {π : Type} {x : Except π α} {f : α → β} :
    (∃ b, x.map f = .ok b) ↔ ∃ a, x = .ok a := by
  cases x <;> simp [Except.map]

section
variable {range : NumberRange} {options : List Int}

theorem agrees_word16 : (integer range options).Agrees .word16 [⟨[], Json.IsWord 16⟩] := by
  intro site j _
  rw [Demand.met_here, ← exists_readNatural_iff]
  exact exists_map_eq_ok_iff

theorem agrees_word32 : (integer range options).Agrees .word32 [⟨[], Json.IsWord 32⟩] := by
  intro site j _
  rw [Demand.met_here, ← exists_readNatural_iff]
  exact exists_map_eq_ok_iff

theorem agrees_count : (integer range options).Agrees .count [⟨[], Json.IsWord 64⟩] := by
  intro site j _
  rw [Demand.met_here, ← exists_readNatural_iff]
  exact exists_map_eq_ok_iff

end

/-- A text among the names of the variants is read as one of them. -/
theorem agrees_oneOf_variant {names : List (String × α)} {nameOf : α → String}
    {options : List String} (hne : options ≠ [])
    (hnames : ∀ t ∈ options, (names.lookup t).isSome = true) :
    (oneOf options).Agrees (.variant names nameOf) [] := by
  rintro site j ⟨t, rfl, hrule⟩
  obtain ⟨a, ha⟩ := Option.isSome_iff_exists.1 (hnames t (hrule.option hne))
  simp [Codec.variant, Codec.readVariant, ha]

/-! ## Containers -/

theorem Agrees.list (h : s.Agrees c demands) :
    (Schema.list s).Agrees c.list (Demand.behind .item demands) := by
  rintro site j ⟨values, rfl, hall⟩
  have hread : (∃ as, c.list.read site (.arr values) = .ok as) ↔
      ∃ as, List.Forall₂ (fun item a => c.read site item = .ok a) values as := by
    simp [Codec.read_list_eq_ok_iff]
  rw [hread, Wire.exists_forall₂_iff, Demand.met_behind_item]
  exact forall₂_congr fun v hv => h (hall v hv)

theorem Agrees.table (h : s.Agrees c demands) :
    (Schema.table s).Agrees c.table (Demand.behind .entry demands) := by
  rintro site j ⟨members, rfl, hall⟩
  have hread : (∃ entries, c.table.read site (.obj members) = .ok entries) ↔
      ∃ entries, List.Forall₂ (fun m e => ∃ a, c.read site m.2 = .ok a ∧ (m.1, a) = e)
        members entries := by
    simp [Codec.read_table_eq_ok_iff]
  have hentry (m : String × Json) :
      (∃ e, ∃ a, c.read site m.2 = .ok a ∧ (m.1, a) = e) ↔ ∃ a, c.read site m.2 = .ok a := by
    simp
  rw [hread, Wire.exists_forall₂_iff, Demand.met_behind_entry]
  exact forall₂_congr fun m hm => (hentry m).trans (h (hall m hm))

/-- An optional value agrees as the value does: only the schema of any value allows `null`. -/
theorem Agrees.optional (h : s.Agrees c demands) (hkind : s.kind? ≠ none) :
    s.Agrees c.optional demands := by
  intro site j hallows
  have hnull : j ≠ .null := by
    rintro rfl
    exact hkind (allows_null_iff.1 hallows)
  have hread : (∃ o, c.optional.read site j = .ok o) ↔ ∃ a, c.read site j = .ok a := by
    simp [Codec.read_optional_of_ne_null hnull]
  exact hread.trans (h hallows)

theorem agrees_optional_any : any.Agrees Codec.any.optional [] := by
  intro site j _
  cases j <;> simp [Codec.optional, Codec.any, Except.map]

section
variable {rule : TextRule}

theorem agrees_optionalText : (Schema.text rule).Agrees Codec.text.optional [] :=
  agrees_text.optional nofun

theorem agrees_textList : (Schema.list (.text rule)).Agrees Codec.text.list [] :=
  agrees_text.list

theorem agrees_textTable : (Schema.table (.text rule)).Agrees Codec.text.table [] :=
  agrees_text.table

end

/-! ## Records -/

/-- The members of a structure can be read from an object that a record schema allows when the
object meets the demands, and only then. -/
def MembersAgree (r : Record ρ α) (required : List String) (properties : List (String × Schema))
    (demands : List Demand) : Prop :=
  ∀ ⦃site members⦄, AllowsProperties members properties →
    (∀ name ∈ required, Members.has members name = true) →
    ((∃ v, r.readMembers site members = .value v) ↔ Demand.Met demands (.obj members))

theorem agrees_record {closed : Bool} {required : List String}
    {properties : List (String × Schema)} {r : Record ρ ρ} {title : String}
    (h : MembersAgree r required properties demands) :
    (Schema.record closed required properties).Agrees (r.codec title) demands := by
  rintro site j ⟨members, rfl, hproperties, hrequired, -⟩
  rw [← @h site members hproperties hrequired]
  exact exists_congr fun x => Record.read_obj_eq_ok_iff

section
variable {required : List String} {properties : List (String × Schema)} {r : Record ρ (α → β)}
  {name : String} {get : ρ → α} {omits : α → Bool}

theorem membersAgree_start {make : α} :
    MembersAgree (Record.start make : Record ρ α) required properties [] := by
  intro site members _ _
  simp

/-- A member with a default adds its demands. -/
theorem MembersAgree.member {default : α} (h : MembersAgree r required properties demands)
    (hc : s.Agrees c more) (hlookup : properties.lookup name = some s) :
    MembersAgree (r.member ⟨name, none, get, c, some default, omits⟩) required properties
      (demands ++ Demand.behind (.member name) more) := by
  intro site members hproperties hrequired
  have hgives : (∃ a, Gives c (some default) site members name a) ↔
      Demand.Met (Demand.behind (.member name) more) (.obj members) := by
    rw [Wire.exists_gives_iff, Demand.met_behind_member]
    exact forall₂_congr fun j hj => hc (allows_of_lookup hproperties hlookup hj)
  simp only [Record.exists_readMembers_member, Wire.Member.readFrom_eq_value_iff,
    h hproperties hrequired, hgives, Demand.met_append]

/-- A member with a default that is read whatever it is, as far as the schema allows it. -/
theorem MembersAgree.plain {default : α} (h : MembersAgree r required properties demands)
    (hc : s.Agrees c []) (hlookup : properties.lookup name = some s) :
    MembersAgree (r.member ⟨name, none, get, c, some default, omits⟩) required properties
      demands := by
  simpa [Demand.behind] using h.member hc hlookup

/-- A member without a default that the schema requires. -/
theorem MembersAgree.needed (h : MembersAgree r required properties demands) (hc : s.Agrees c [])
    (hlookup : properties.lookup name = some s) (hname : name ∈ required) :
    MembersAgree (r.required name get c) required properties demands := by
  intro site members hproperties hrequired
  have hgives : ∃ a, Gives c none site members name a := by
    obtain ⟨j, hj⟩ := Option.isSome_iff_exists.1 (hrequired name hname)
    obtain ⟨a, ha⟩ := (hc (allows_of_lookup hproperties hlookup hj)).2 (Demand.met_nil j)
    exact ⟨a, by simpa [Gives, hj] using ha⟩
  simp only [Record.required, Record.exists_readMembers_member, Wire.Member.readFrom_eq_value_iff,
    h hproperties hrequired, hgives, and_true]

end

/-- An optional member that is read under another name as well, but not under both. -/
theorem MembersAgree.either {required : List String} {properties : List (String × Schema)}
    {r : Record ρ (Option α → β)} {name other : String} {get : ρ → Option α} {t : Schema}
    (h : MembersAgree r required properties demands) (hc : s.Agrees c.optional [])
    (hlookup : properties.lookup name = some s) (hother : t.Agrees c.optional [])
    (hlookupOther : properties.lookup other = some t) :
    MembersAgree (r.optionalAlso name other get c) required properties
      (demands ++ [⟨[], Json.HasNotBoth name other⟩]) := by
  intro site members hproperties hrequired
  have hread {j : Json} (hj : members.get? name = some j) : ∃ o, c.optional.read site j = .ok o :=
    (hc (allows_of_lookup hproperties hlookup hj)).2 (Demand.met_nil j)
  have hreadOther {j : Json} (hj : members.get? other = some j) :
      ∃ o, c.optional.read site j = .ok o :=
    (hother (allows_of_lookup hproperties hlookupOther hj)).2 (Demand.met_nil j)
  have hfrom : (∃ o, (Wire.Member.mk name (some other) get c.optional (some none)
      Option.isNone).readFrom site members = .value o) ↔
      Json.HasNotBoth name other (.obj members) := by
    unfold Wire.Member.readFrom Wire.Member.given Json.HasNotBoth Json.get?
    cases hname : members.get? name with
    | none =>
      cases hboth : members.get? other with
      | none => simp [hname, hboth]
      | some j =>
        obtain ⟨o, ho⟩ := hreadOther hboth
        simp [hname, hboth, ho]
    | some j =>
      obtain ⟨o, ho⟩ := hread hname
      cases hboth : members.get? other with
      | none => simp [hname, hboth, ho]
      | some k => simp [hname, hboth, ho]
  simp only [Record.optionalAlso, Record.exists_readMembers_member, h hproperties hrequired, hfrom,
    Demand.met_append, Demand.met_here]

end Schema
end FlowCheck
