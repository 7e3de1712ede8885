import FlowCheck.Proofs.Wire.Layout

/-!
# Writing and reading back

Not every value of a type is read back from its written form: a free-form `null` in an optional
place is read as nothing.  But every value that was read once is (`Codec.Faithful`).  Each way to
build a codec keeps this.  For a record it asks of every member that a value is left out only when
it is the default, and that a default that is written can be read (`Member.Faithful`).
-/

namespace FlowCheck
namespace Wire

/-- Every value is read back from its written form, and none is written as `null`. -/
structure Codec.Exact {α : Type} (c : Codec α) : Prop where
  read_write : ∀ site a, c.read site (c.write a) = .ok a
  write_ne_null : ∀ a, c.write a ≠ .null

/-- What was read is read back from its written form, which is `null` for nothing but `null`. -/
structure Codec.Faithful {α : Type} (c : Codec α) : Prop where
  read_write : ∀ {site j a}, c.read site j = .ok a → c.read site (c.write a) = .ok a
  write_ne_null : ∀ {site j a}, c.read site j = .ok a → j ≠ .null → c.write a ≠ .null

namespace Codec

variable {α : Type} {c : Codec α}

/-! ## Leaves -/

theorem Exact.faithful (hc : c.Exact) : c.Faithful where
  read_write {site _ a} _ := hc.read_write site a
  write_ne_null {_ _ a} _ _ := hc.write_ne_null a

theorem exact_text : text.Exact := ⟨fun _ _ => rfl, fun _ => Json.noConfusion⟩

theorem exact_flag : flag.Exact := ⟨fun _ _ => rfl, fun _ => Json.noConfusion⟩

theorem exact_real : real.Exact := ⟨fun _ _ => rfl, fun _ => Json.noConfusion⟩

/-- The words of all widths: each stays below its bound, and its number gives it back. -/
theorem exact_natural {name : String} {bound : Nat} {ofNat : Nat → α} {toNat : α → Nat}
    (hlt : ∀ a, toNat a < bound) (hback : ∀ a, ofNat (toNat a) = a) :
    (Codec.mk (fun _ j => (readNatural name bound j).map ofNat) fun a => .int (toNat a)).Exact where
  read_write _ a := by
    have hread : readNatural name bound (.int (toNat a)) = .ok (toNat a) :=
      readNatural_eq_ok_iff.2 ⟨hlt a, rfl⟩
    simp only [hread, Except.map, hback]
  write_ne_null _ := Json.noConfusion

theorem exact_word16 : word16.Exact :=
  exact_natural UInt16.toNat_lt_size fun _ => UInt16.ofNat_toNat

theorem exact_word32 : word32.Exact :=
  exact_natural UInt32.toNat_lt_size fun _ => UInt32.ofNat_toNat

theorem exact_count : count.Exact :=
  exact_natural UInt64.toNat_lt_size fun _ => UInt64.ofNat_toNat

/-- A variant is written as its name, which has to be the name it is found under. -/
theorem exact_variant {names : List (String × α)} {nameOf : α → String}
    (hnames : ∀ a, names.lookup (nameOf a) = some a) : (variant names nameOf).Exact where
  read_write _ a := by
    change readVariant names (nameOf a) = .ok a
    rw [readVariant, hnames]
  write_ne_null _ := Json.noConfusion

theorem faithful_any : any.Faithful where
  read_write _ := rfl
  write_ne_null h hnull := by
    obtain rfl := Except.ok.inj h
    exact hnull

/-! ## Containers -/

theorem Faithful.optional (hc : c.Faithful) : c.optional.Faithful where
  read_write {site j o} h := by
    by_cases hnull : j = .null
    · subst hnull
      obtain rfl := Except.ok.inj h
      rfl
    · obtain ⟨a, ha, rfl⟩ := (read_optional_of_ne_null hnull).1 h
      have hwritten : c.write a ≠ .null := hc.write_ne_null ha hnull
      exact (read_optional_of_ne_null hwritten).2 ⟨a, hc.read_write ha, rfl⟩
  write_ne_null h hnull := by
    obtain ⟨a, ha, rfl⟩ := (read_optional_of_ne_null hnull).1 h
    exact hc.write_ne_null ha hnull

theorem Faithful.list (hc : c.Faithful) : c.list.Faithful where
  read_write {site j as} h := by
    obtain ⟨items, rfl, hitems⟩ := read_list_eq_ok_iff.1 h
    have hback : ∀ a ∈ as, c.read site (c.write a) = .ok a :=
      forall_mem_of_forall₂ hitems fun _ _ _ ha => hc.read_write ha
    refine read_list_eq_ok_iff.2 ⟨as.map c.write, rfl, ?_⟩
    exact List.forall₂_map_left_iff.2 (List.forall₂_same.2 hback)
  write_ne_null _ _ := Json.noConfusion

theorem Faithful.table (hc : c.Faithful) : c.table.Faithful where
  read_write {site j entries} h := by
    obtain ⟨members, rfl, hmembers⟩ := read_table_eq_ok_iff.1 h
    have hback : ∀ e ∈ entries, c.read site (c.write e.2) = .ok e.2 := by
      refine forall_mem_of_forall₂ hmembers fun m _ e he => ?_
      obtain ⟨a, ha, rfl⟩ := he
      exact hc.read_write ha
    refine read_table_eq_ok_iff.2 ⟨entries.map fun e => (e.1, c.write e.2), rfl, ?_⟩
    exact List.forall₂_map_left_iff.2 (List.forall₂_same.2 fun e he => ⟨e.2, hback e he, rfl⟩)
  write_ne_null _ _ := Json.noConfusion

end Codec

/-! ## Members -/

section
variable {ρ α β P : Type} {site : Site} {members : Members}

/-- What a member writes, or leaves out, is read back. -/
structure Member.Faithful (m : Member ρ α) : Prop where
  codec : m.codec.Faithful
  /-- A default that is written can be read. -/
  default : ∀ a, m.absent = some a → m.omits a = false →
    ∀ site, m.codec.read site (m.codec.write a) = .ok a
  /-- Nothing but the default is left out. -/
  omits : ∀ a, m.omits a = true → m.absent = some a

namespace Member

variable {m : Member ρ α}

/-- A member takes its default or what it reads from some value. -/
theorem absent_or_read_of_readFrom {a : α} (h : m.readFrom site members = .value a) :
    m.absent = some a ∨ ∃ j, m.codec.read site j = .ok a := by
  unfold readFrom at h
  split at h
  · split at h
    · next b hb =>
      obtain rfl := Reading.value.inj h
      exact .inl hb
    · contradiction
  · next key j rest _ =>
    split at h
    · contradiction
    · next b _ hb _ =>
      obtain rfl := Reading.value.inj h
      exact .inr ⟨j, hb⟩
    · contradiction

/-- A member reads its value back where it is given what it wrote. -/
theorem Faithful.readFrom_of_given (hm : m.Faithful) {x : ρ}
    (hx : m.absent = some (m.get x) ∨ ∃ j, m.codec.read site j = .ok (m.get x))
    (hgiven : m.given members = m.writeFrom x) : m.readFrom site members = .value (m.get x) := by
  unfold readFrom
  rw [hgiven]
  by_cases homits : m.omits (m.get x) = true
  · have hwritten : m.writeFrom x = [] := if_pos homits
    rw [hwritten]
    simp only [hm.omits _ homits]
  · have hwritten : m.writeFrom x = [(m.name, m.codec.write (m.get x))] := if_neg homits
    have hread : m.codec.read site (m.codec.write (m.get x)) = .ok (m.get x) := by
      rcases hx with habsent | ⟨j, hj⟩
      · exact hm.default _ habsent (Bool.not_eq_true _ ▸ homits) site
      · exact hm.codec.read_write hj
    rw [hwritten]
    simp only [hread]

end Member

/-! ## Records -/

/-- A structure that was read is read back from every object that has what was written under its
keys. -/
structure Record.Restores (r : Record ρ ρ) (names : List String) : Prop where
  keys : ∀ x, ((r.writeMembers x).map Prod.fst).Sublist names
  of_readMembers : ∀ {site members x members'}, r.readMembers site members = .value x →
    (∀ key ∈ names, Members.get? members' key = (r.writeMembers x).lookup key) →
      r.readMembers site members' = .value x
  of_readItems : ∀ {site items x rest members'}, r.readItems site items = .ok (x, rest) →
    (∀ key ∈ names, Members.get? members' key = (r.writeMembers x).lookup key) →
      r.readMembers site members' = .value x

namespace Record

/-- A structure read from an array was read from its items. -/
theorem exists_readItems_of_read_arr {r : Record ρ ρ} {title : String} {items : List Json} {x : ρ}
    (h : (r.codec title).read site (.arr items) = .ok x) :
    ∃ rest, r.readItems site items = .ok (x, rest) := by
  change r.read title site (.arr items) = .ok x at h
  unfold Record.read at h
  cases hitems : r.readItems site items with
  | error p => cases p <;> simp [hitems] at h
  | ok v =>
    obtain ⟨y, _ | ⟨_, _⟩⟩ := v
    · simp only [hitems] at h
      obtain rfl := Except.ok.inj h
      exact ⟨[], rfl⟩
    · simp [hitems] at h

theorem Restores.codec {r : Record ρ ρ} {names : List String} (h : r.Restores names)
    (hnames : names.Nodup) {title : String} : (r.codec title).Faithful where
  read_write {site j x} hread := by
    have hagree : ∀ key ∈ names,
        (Members.ofList (r.writeMembers x)).get? key = (r.writeMembers x).lookup key :=
      fun key _ => Members.get?_ofList (hnames.sublist (h.keys x)) key
    change (r.codec title).read site (.obj (Members.ofList (r.writeMembers x))) = .ok x
    rw [read_obj_eq_ok_iff]
    cases j with
    | obj members => exact h.of_readMembers (read_obj_eq_ok_iff.1 hread) hagree
    | arr items =>
      obtain ⟨rest, hitems⟩ := exists_readItems_of_read_arr hread
      exact h.of_readItems hitems hagree
    | null => contradiction
    | bool b => contradiction
    | num n => contradiction
    | str s => contradiction
  write_ne_null _ _ := Json.noConfusion

/-- Some members of a structure, put together so far, with keys of these names; each of them reads
back what it wrote. -/
def Faithful (r : Record ρ α) (make : P → α) (take : ρ → P) (names : List String) : Prop :=
  ∃ ms, r.Consists make take ms ∧ (∀ m ∈ ms, m.2.Faithful) ∧ keysOf ms = names

theorem faithful_start {make : α} :
    (start (ρ := ρ) make).Faithful (fun _ : Unit => make) (fun _ => ()) [] :=
  ⟨[], consists_start, fun _ hm => (List.not_mem_nil hm).elim, rfl⟩

namespace Faithful

theorem restores {r : Record ρ ρ} {make : P → ρ} {take : ρ → P} {names : List String}
    (h : r.Faithful make take names) (htake : ∀ p, take (make p) = p)
    (hmake : ∀ x, make (take x) = x) (hnames : names.Nodup) : r.Restores names := by
  obtain ⟨ms, hms, hfaithful, rfl⟩ := h
  have hall : r.Comprises ms := hms.comprises htake hmake
  have hback {site : Site} {x : ρ} {members : Members}
      (hx : ∀ m ∈ ms, m.2.absent = some (m.2.get x) ∨
        ∃ j, m.2.codec.read site j = .ok (m.2.get x))
      (hagree : ∀ key ∈ keysOf ms, members.get? key = (r.writeMembers x).lookup key) :
      r.readMembers site members = .value x :=
    hall.readMembers_iff.2 fun m hm => (hfaithful m hm).readFrom_of_given (hx m hm)
      (hall.given_eq_writeFrom hnames hagree hm)
  refine ⟨hall.keys_writeMembers_sublist, fun hread hagree => hback (fun m hm => ?_) hagree,
    fun hread hagree => hback (hall.of_readItems hread) hagree⟩
  exact Member.absent_or_read_of_readFrom (hall.readMembers_iff.1 hread m hm)

theorem codec {r : Record ρ ρ} {make : P → ρ} {take : ρ → P} {names : List String}
    (h : r.Faithful make take names) (htake : ∀ p, take (make p) = p)
    (hmake : ∀ x, make (take x) = x) (hnames : names.Nodup) {title : String} :
    (r.codec title).Faithful :=
  (h.restores htake hmake hnames).codec hnames

/-! ## Kinds of member -/

variable {r : Record ρ (α → β)} {make : P → α → β} {take : ρ → P} {names : List String}
  {name : String} {get : ρ → α} {c : Codec α}

theorem member (h : r.Faithful make take names) {m : Member ρ α} (hm : m.Faithful) :
    (r.member m).Faithful (Function.uncurry make) (fun x => (take x, m.get x))
      (names ++ m.keys) := by
  obtain ⟨ms, hms, hfaithful, rfl⟩ := h
  refine ⟨ms ++ [⟨α, m⟩], hms.member m, ?_, keysOf_append_singleton ms ⟨α, m⟩⟩
  exact List.forall_mem_append.2 ⟨hfaithful, List.forall_mem_singleton.2 hm⟩

/-- A member that is left out exactly when it has its default. -/
theorem brief {otherName : Option String} {default : α} {omits : α → Bool}
    (h : r.Faithful make take names) (hc : c.Faithful)
    (homits : ∀ a, omits a = true ↔ a = default) :
    (r.member ⟨name, otherName, get, c, some default, omits⟩).Faithful (Function.uncurry make)
      (fun x => (take x, get x)) (names ++ name :: otherName.toList) := by
  refine h.member ⟨hc, fun a ha hwritten => ?_, fun a ha => ?_⟩
  · obtain rfl := Option.some.inj ha
    exact absurd ((homits _).2 rfl) (Bool.not_eq_true _ ▸ hwritten)
  · rw [(homits a).1 ha]

theorem required (h : r.Faithful make take names) (hc : c.Faithful) :
    (r.required name get c).Faithful (Function.uncurry make) (fun x => (take x, get x))
      (names ++ [name]) :=
  h.member ⟨hc, nofun, nofun⟩

/-- A default that is always written has to be one that can be read. -/
theorem defaulted {default : α} (h : r.Faithful make take names) (hc : c.Faithful)
    (hdefault : ∀ site, c.read site (c.write default) = .ok default) :
    (r.defaulted name get c default).Faithful (Function.uncurry make) (fun x => (take x, get x))
      (names ++ [name]) := by
  refine h.member ⟨hc, fun a ha _ => ?_, nofun⟩
  obtain rfl := Option.some.inj ha
  exact hdefault

end Faithful

section
variable {make : P → α → β} {take : ρ → P} {names : List String} {name : String} {c : Codec α}

theorem Faithful.optional {r : Record ρ (Option α → β)} {make : P → Option α → β}
    {get : ρ → Option α} (h : r.Faithful make take names) (hc : c.Faithful) :
    (r.optional name get c).Faithful (Function.uncurry make) (fun x => (take x, get x))
      (names ++ [name]) :=
  h.brief hc.optional fun _ => Option.isNone_iff_eq_none

theorem Faithful.optionalAlso {r : Record ρ (Option α → β)} {make : P → Option α → β}
    {other : String} {get : ρ → Option α} (h : r.Faithful make take names) (hc : c.Faithful) :
    (r.optionalAlso name other get c).Faithful (Function.uncurry make) (fun x => (take x, get x))
      (names ++ [name, other]) :=
  h.brief hc.optional fun _ => Option.isNone_iff_eq_none

theorem Faithful.list {r : Record ρ (List α → β)} {make : P → List α → β} {get : ρ → List α}
    (h : r.Faithful make take names) (hc : c.Faithful) :
    (r.list name get c).Faithful (Function.uncurry make) (fun x => (take x, get x))
      (names ++ [name]) :=
  h.defaulted hc.list fun _ => rfl

theorem Faithful.briefList {r : Record ρ (List α → β)} {make : P → List α → β} {get : ρ → List α}
    (h : r.Faithful make take names) (hc : c.Faithful) :
    (r.briefList name get c).Faithful (Function.uncurry make) (fun x => (take x, get x))
      (names ++ [name]) :=
  h.brief hc.list fun _ => List.isEmpty_iff

theorem Faithful.briefTable {r : Record ρ (List (String × α) → β)}
    {make : P → List (String × α) → β} {get : ρ → List (String × α)}
    (h : r.Faithful make take names) (hc : c.Faithful) :
    (r.briefTable name get c).Faithful (Function.uncurry make) (fun x => (take x, get x))
      (names ++ [name]) :=
  h.brief hc.table fun _ => List.isEmpty_iff

theorem Faithful.text {r : Record ρ (String → β)} {make : P → String → β} {get : ρ → String}
    (h : r.Faithful make take names) :
    (r.text name get).Faithful (Function.uncurry make) (fun x => (take x, get x))
      (names ++ [name]) :=
  h.defaulted Codec.exact_text.faithful fun _ => rfl

theorem Faithful.briefText {r : Record ρ (String → β)} {make : P → String → β} {get : ρ → String}
    (h : r.Faithful make take names) :
    (r.briefText name get).Faithful (Function.uncurry make) (fun x => (take x, get x))
      (names ++ [name]) :=
  h.brief Codec.exact_text.faithful fun _ => String.isEmpty_iff

theorem Faithful.optionalText {r : Record ρ (Option String → β)} {make : P → Option String → β}
    {get : ρ → Option String} (h : r.Faithful make take names) :
    (r.optionalText name get).Faithful (Function.uncurry make) (fun x => (take x, get x))
      (names ++ [name]) :=
  h.optional Codec.exact_text.faithful

theorem Faithful.flag {r : Record ρ (Bool → β)} {make : P → Bool → β} {get : ρ → Bool}
    (h : r.Faithful make take names) :
    (r.flag name get).Faithful (Function.uncurry make) (fun x => (take x, get x))
      (names ++ [name]) :=
  h.defaulted Codec.exact_flag.faithful fun _ => rfl

end
end Record
end
end Wire
end FlowCheck
