import FlowCheck.Model.Action
import FlowCheck.Proofs.Wire.Reading

/-!
# Parameters of tools

The parameters of a tool are read from values of any shape.  One is read from an object whose
members are of the right kinds, or from a row of values of these kinds in their order, as far as it
goes (`ToolParameter.exists_read_iff`).
-/

namespace FlowCheck

open Wire (Codec Record)

/-- The value is a parameter of a tool: an object whose members of these names are of the right
kind, or a row of such values in their order, as long as it goes. -/
def Json.IsToolParameter : Json → Prop
  | .obj members =>
    (∀ v, Members.get? members "type" = some v → v.kind = .string) ∧
      (∀ v, Members.get? members "description" = some v → v.kind = .string) ∧
      ∀ v, Members.get? members "required" = some v → v.kind = .boolean
  | .arr items => items.map Json.kind <+: [.string, .string, .boolean]
  | _ => False

theorem exists_read_text_iff {site : Wire.Site} {j : Json} :
    (∃ s, Codec.text.read site j = .ok s) ↔ j.kind = .string := by
  simp only [Codec.read_text_eq_ok_iff]
  rcases j with _ | _ | ⟨_ | _⟩ | _ | _ | _ <;> simp [Json.kind]

theorem exists_read_flag_iff {site : Wire.Site} {j : Json} :
    (∃ b, Codec.flag.read site j = .ok b) ↔ j.kind = .boolean := by
  simp only [Codec.read_flag_eq_ok_iff]
  rcases j with _ | _ | ⟨_ | _⟩ | _ | _ | _ <;> simp [Json.kind]

/-- A row of items with one of a kind in front of the rest, or no items at all. -/
def Json.Heads (kind : Json.Kind) (items rest : List Json) : Prop :=
  (items = [] ∧ rest = []) ∨ ∃ j, items = j :: rest ∧ j.kind = kind

theorem exists_heads_iff {kind : Json.Kind} {kinds : List Json.Kind} {items : List Json} :
    (∃ rest, Json.Heads kind items rest ∧ rest.map Json.kind <+: kinds) ↔
      items.map Json.kind <+: kind :: kinds := by
  cases items with
  | nil => simp [Json.Heads]
  | cons j items =>
    rw [List.map_cons, List.cons_prefix_cons]
    constructor
    · rintro ⟨rest, ⟨hnil, -⟩ | ⟨j, heq, hkind⟩, hrest⟩
      · contradiction
      · obtain ⟨rfl, rfl⟩ := List.cons.inj heq
        exact ⟨hkind, hrest⟩
    · rintro ⟨hkind, hrest⟩
      exact ⟨items, .inr ⟨j, rfl, hkind⟩, hrest⟩

section
variable {α β ρ : Type} {site : Wire.Site}

/-- A member with a default that is read from values of one kind takes such an item, if any. -/
theorem exists_readItem_iff {m : Wire.Member ρ α} {kind : Json.Kind} {default : α}
    (habsent : m.absent = some default)
    (hread : ∀ j, (∃ a, m.codec.read site j = .ok a) ↔ j.kind = kind) {i : Nat}
    {items rest : List Json} :
    (∃ a, m.readItem site i items = .ok (a, rest)) ↔ Json.Heads kind items rest := by
  cases items with
  | nil => simp [Wire.Member.readItem, habsent, Json.Heads, eq_comm]
  | cons j items =>
    have hj := hread j
    cases hcodec : m.codec.read site j with
    | ok a =>
      have hkind : j.kind = kind := hj.1 ⟨a, hcodec⟩
      simp [Wire.Member.readItem, hcodec, Json.Heads, hkind]
    | error p =>
      have hkind : j.kind ≠ kind := fun h => by simpa [hcodec] using hj.2 h
      simp [Wire.Member.readItem, hcodec, Json.Heads, hkind]

theorem exists_readItems_member {r : Record ρ (α → β)} {m : Wire.Member ρ α}
    {items rest : List Json} :
    (∃ v, (r.member m).readItems site items = .ok (v, rest)) ↔
      ∃ more, (∃ f, r.readItems site items = .ok (f, more)) ∧
        ∃ a, m.readItem site r.size more = .ok (a, rest) := by
  simp only [Record.member, Wire.bind_eq_ok_iff, pure, Except.pure, Except.ok.injEq, Prod.mk.injEq]
  constructor
  · rintro ⟨v, ⟨f, more⟩, hf, ⟨a, rest'⟩, ha, rfl, rfl⟩
    exact ⟨more, ⟨f, hf⟩, a, ha⟩
  · rintro ⟨more, ⟨f, hf⟩, a, ha⟩
    exact ⟨f a, (f, more), hf, (a, rest), ha, rfl, rfl⟩

theorem exists_readItems_text {r : Record ρ (String → β)} {name : String} {get : ρ → String}
    {items rest : List Json} :
    (∃ v, (r.text name get).readItems site items = .ok (v, rest)) ↔
      ∃ more, (∃ f, r.readItems site items = .ok (f, more)) ∧ Json.Heads .string more rest := by
  unfold Record.text Record.defaulted
  rw [exists_readItems_member]
  exact exists_congr fun more => and_congr_right fun _ =>
    exists_readItem_iff rfl fun j => exists_read_text_iff

theorem exists_readItems_flag {r : Record ρ (Bool → β)} {name : String} {get : ρ → Bool}
    {items rest : List Json} :
    (∃ v, (r.flag name get).readItems site items = .ok (v, rest)) ↔
      ∃ more, (∃ f, r.readItems site items = .ok (f, more)) ∧ Json.Heads .boolean more rest := by
  unfold Record.flag Record.defaulted
  rw [exists_readItems_member]
  exact exists_congr fun more => and_congr_right fun _ =>
    exists_readItem_iff rfl fun j => exists_read_flag_iff

/-- A row is read as a structure when the members take all of its items. -/
theorem exists_read_row_iff {r : Record ρ ρ} {title : String} {items : List Json} :
    (∃ x, (r.codec title).read site (.arr items) = .ok x) ↔
      ∃ x, r.readItems site items = .ok (x, []) := by
  have hread : (r.codec title).read site (.arr items) = r.read title site (.arr items) := rfl
  rw [hread]
  unfold Record.read
  cases hitems : r.readItems site items with
  | error p => cases p <;> simp [hitems]
  | ok found =>
    obtain ⟨x, rest⟩ := found
    cases rest <;> simp [hitems]

end

/-- A row is read as a parameter as far as it goes, each item at its position. -/
theorem ToolParameter.exists_read_arr_iff {site : Wire.Site} {items : List Json} :
    (∃ p, codec.read site (.arr items) = .ok p) ↔
      items.map Json.kind <+: [.string, .string, .boolean] := by
  have hstart (items rest : List Json) :
      (∃ v, (Record.start ToolParameter.mk : Record ToolParameter _).readItems site items =
        .ok (v, rest)) ↔ items = rest := by
    simp [Record.start]
  have hlast (rest : List Json) : Json.Heads .boolean rest [] ↔
      rest.map Json.kind <+: [.boolean] := by
    rw [← exists_heads_iff]
    simp
  rw [codec, exists_read_row_iff, record, exists_readItems_flag]
  simp only [exists_readItems_text, hstart, hlast, ← exists_heads_iff]
  constructor
  · rintro ⟨last, ⟨next, ⟨_, rfl, htype⟩, hdescription⟩, hrequired⟩
    exact ⟨next, htype, last, hdescription, hrequired⟩
  · rintro ⟨next, htype, last, hdescription, hrequired⟩
    exact ⟨last, ⟨next, ⟨_, rfl, htype⟩, hdescription⟩, hrequired⟩

theorem ToolParameter.exists_read_iff {site : Wire.Site} {j : Json} :
    (∃ p, codec.read site j = .ok p) ↔ j.IsToolParameter := by
  rcases j with _ | _ | _ | _ | items | members
  case obj =>
    simp only [codec, Record.read_obj_eq_ok_iff, record, Record.text, Record.flag, Record.defaulted,
      Record.exists_readMembers_member, Wire.Member.readFrom_eq_value_iff, Wire.exists_gives_iff,
      exists_read_text_iff, exists_read_flag_iff, Record.readMembers_start, exists_eq', true_and,
      and_assoc, Json.IsToolParameter]
  case arr => exact ToolParameter.exists_read_arr_iff
  all_goals simp [codec, Record.codec, Record.read, Json.IsToolParameter]

end FlowCheck
