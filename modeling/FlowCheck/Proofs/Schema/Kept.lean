import FlowCheck.Proofs.Json.Path
import FlowCheck.Proofs.Number.Nearest
import FlowCheck.Proofs.Schema.Allowed
import FlowCheck.Proofs.Schema.Part
import FlowCheck.Proofs.Wire.Layout

/-!
# What is kept of a document

A document is read into a typed value and written again.  A schema names places in documents; here
we follow them into the written form: whatever stands at such a place, and is not absent, stands at
the same place of what is written (`Schema.Keeps`), up to the second names of bounds and the
parameters of tools.  The leaves keep their values, lists and tables keep their length and keys, and
a record keeps a document's members when each of its own members keeps the property of its name
(`Schema.MembersKeep`).
-/

namespace FlowCheck

open Step (Follows)
open Wire (AnyMember Codec Member Record Site)

/-! ## Written places -/

/-- The name under which a member is written. -/
def writtenName (name : String) : String :=
  if name = "minimum" then "min" else if name = "maximum" then "max" else name

/-- The segment behind which a value is written that stands behind a segment taken by a step. -/
def Step.written : Step → Segment → Segment
  | .member name, _ => .key (writtenName name)
  | _, segment => segment

/-- The path of the written value. -/
def writtenPath (steps : List Step) (path : List Segment) : List Segment :=
  List.zipWith Step.written steps path

/-- The steps end inside the parameters of a tool. -/
def Step.EndInParameters (steps : List Step) : Prop :=
  [.member "parameters", .entry] <:+ steps

instance (steps : List Step) : Decidable (Step.EndInParameters steps) :=
  inferInstanceAs (Decidable (_ <:+ _))

namespace Schema

/-- What is written for a value of the schema by itself: a number as the double that it is read as,
which is equal to it if any double is; a list of as many items; a table with the same keys; an
object; and any other value as it was. -/
def Stands : Schema → Json → Json → Prop
  | number _, j, j' => ∃ n, j = .num n ∧ j' = .num (.real n.toBinary64) ∧
    ∀ i x, n = .int i → (Number.real x).compareInt i = .eq →
      (Number.real n.toBinary64).compareInt i = .eq
  | list _, j, j' => ∃ items items', j = .arr items ∧ j' = .arr items' ∧
    items'.length = items.length
  | record .., j, j' => ∃ members members', j = .obj members ∧ j' = .obj members'
  | table _, j, j' => ∃ members members', j = .obj members ∧ j' = .obj members' ∧
    members'.map Prod.fst = members.map Prod.fst
  | _, j, j' => j' = j

/-- Of one value, whatever stands at a place that the schema names stands at the written place in
another, absent values and parameters of tools aside; `lead` are the steps to the schema itself. -/
def KeptBehind (lead : List Step) (s : Schema) (j j' : Json) : Prop :=
  ∀ steps t, (steps, t) ∈ s.parts → ¬ Step.EndInParameters (lead ++ steps) →
    ∀ path v, Follows steps path → j.at? path = some v → v.isAbsent = false →
      ∃ v', j'.at? (writtenPath steps path) = some v' ∧ t.Stands v v'

/-- The written form of what is read from a value keeps what the schema names in that value. -/
def Keeps {α : Type} (s : Schema) (c : Codec α) : Prop :=
  ∀ ⦃site j a⦄, s.Allows j → c.read site j = .ok a → s.KeptBehind [] j (c.write a)

theorem KeptBehind.behind {s : Schema} {j j' : Json} (h : s.KeptBehind [] j j')
    (lead : List Step) : s.KeptBehind lead j j' := fun steps t ht hlead =>
  h steps t ht fun hend => hlead (hend.trans (List.suffix_append lead steps))

/-- There is nothing to keep of an absent value. -/
theorem keptBehind_of_isAbsent {lead : List Step} {s : Schema} {j : Json} (h : j.isAbsent = true)
    (j' : Json) : s.KeptBehind lead j j' := by
  intro steps t _ _ path v _ hv habsent
  rw [Json.not_isAbsent_of_at? hv habsent] at h
  contradiction

/-! ## Leaves -/

variable {α β ρ P : Type} {s : Schema} {c : Codec α}

/-- A schema without parts but itself asks only for the value. -/
theorem keptBehind_leaf {lead : List Step} {j j' : Json} (hparts : s.parts = [([], s)])
    (h : s.Stands j j') : s.KeptBehind lead j j' := by
  intro steps t ht _ path v hfollows hv _
  rw [hparts] at ht
  obtain ⟨rfl, rfl⟩ := Prod.mk.inj (List.mem_singleton.1 ht)
  obtain rfl := List.forall₂_nil_left_iff.1 hfollows
  obtain rfl := Option.some.inj hv
  exact ⟨j', rfl, h⟩

theorem keeps_text {rule : TextRule} : (Schema.text rule).Keeps .text := by
  intro site j t _ hread
  obtain rfl := Codec.read_text_eq_ok_iff.1 hread
  exact keptBehind_leaf (by rw [parts]) rfl

theorem keeps_flag : boolean.Keeps .flag := by
  intro site j b _ hread
  obtain rfl := Codec.read_flag_eq_ok_iff.1 hread
  exact keptBehind_leaf (by rw [parts]) rfl

theorem keeps_real {range : NumberRange} : (number range).Keeps .real := by
  intro site j x _ hread
  obtain ⟨n, rfl, rfl⟩ := Codec.read_real_eq_ok_iff.1 hread
  refine keptBehind_leaf (by rw [parts]) ⟨n, rfl, rfl, fun i x hn hx => ?_⟩
  rw [hn]
  exact Number.compareInt_toBinary64 hx

theorem keeps_any : any.Keeps .any := by
  intro site j k _ hread
  obtain rfl := Except.ok.inj hread
  exact keptBehind_leaf (by rw [parts]) rfl

/-- The words of all widths: what is read as a word is written as the same number. -/
theorem keeps_natural {range : NumberRange} {options : List Int} {name : String} {bound : Nat}
    {ofNat : Nat → α} {toNat : α → Nat} (hback : ∀ n < bound, toNat (ofNat n) = n) :
    (integer range options).Keeps (Codec.mk
      (fun _ j => (Codec.readNatural name bound j).map ofNat) fun a => .int (toNat a)) := by
  intro site j a _ hread
  have hnatural : ∃ n, Codec.readNatural name bound j = .ok n ∧ ofNat n = a := by
    change (Codec.readNatural name bound j).map ofNat = .ok a at hread
    cases hn : Codec.readNatural name bound j with
    | error p => simp [hn, Except.map] at hread
    | ok n => exact ⟨n, rfl, by simpa [hn, Except.map] using hread⟩
  obtain ⟨n, hn, rfl⟩ := hnatural
  obtain ⟨hlt, rfl⟩ := Codec.readNatural_eq_ok_iff.1 hn
  refine keptBehind_leaf (by rw [parts]) ?_
  change Json.int (toNat (ofNat n)) = .int n
  rw [hback n hlt]

section
variable {range : NumberRange} {options : List Int}

theorem keeps_word16 : (integer range options).Keeps .word16 :=
  keeps_natural fun _ h => UInt16.toNat_ofNat_of_lt' h

theorem keeps_word32 : (integer range options).Keeps .word32 :=
  keeps_natural fun _ h => UInt32.toNat_ofNat_of_lt' h

theorem keeps_count : (integer range options).Keeps .count :=
  keeps_natural fun _ h => UInt64.toNat_ofNat_of_lt' h

end

/-- The name of a variant is written as it was read. -/
theorem keeps_variant {rule : TextRule} {names : List (String × α)} {nameOf : α → String}
    (hnames : ∀ e ∈ names, nameOf e.2 = e.1) :
    (Schema.text rule).Keeps (.variant names nameOf) := by
  rintro site j a ⟨t, rfl, -⟩ hread
  change Codec.readVariant names t = .ok a at hread
  unfold Codec.readVariant at hread
  split at hread
  · next b hb =>
    obtain rfl := Except.ok.inj hread
    have hname : nameOf b = t := hnames _ (Members.mem_of_lookup_eq_some hb)
    refine keptBehind_leaf (by rw [parts]) ?_
    change Json.str (nameOf b) = .str t
    rw [hname]
  · contradiction

/-! ## Parts of containers -/

theorem mem_parts_item {steps : List Step} {t : Schema} (h : (steps, t) ∈ s.parts) :
    (.item :: steps, t) ∈ (list s).parts :=
  mem_parts_list_iff.2 (.inr ⟨steps, rfl, h⟩)

theorem mem_parts_member {name : String} {steps : List Step} {t u : Schema}
    (hlookup : s.properties.lookup name = some t) (h : (steps, u) ∈ t.parts) :
    (.member name :: steps, u) ∈ s.parts := by
  cases s with
  | record closed required properties =>
    exact mem_parts_record_iff.2
      (.inr ⟨(name, t), Members.mem_of_lookup_eq_some hlookup, steps, rfl, h⟩)
  | _ => contradiction

/-! ## Containers -/

theorem Keeps.optional (h : s.Keeps c) : s.Keeps c.optional := by
  intro site j o hallows hread
  by_cases hnull : j = .null
  · subst hnull
    exact keptBehind_of_isAbsent rfl _
  · obtain ⟨a, ha, rfl⟩ := (Codec.read_optional_of_ne_null hnull).1 hread
    exact h hallows ha

theorem Keeps.list (h : s.Keeps c) : (Schema.list s).Keeps c.list := by
  rintro site j as ⟨values, rfl, hall⟩ hread steps t ht hlead path v hfollows hv habsent
  obtain ⟨items, hitems, hrow⟩ := Codec.read_list_eq_ok_iff.1 hread
  obtain rfl := Json.arr.inj hitems
  rcases mem_parts_list_iff.1 ht with ⟨rfl, rfl⟩ | ⟨rest, rfl, hu⟩
  · obtain rfl := List.forall₂_nil_left_iff.1 hfollows
    obtain rfl := Option.some.inj hv
    refine ⟨_, rfl, values, as.map c.write, rfl, rfl, ?_⟩
    rw [List.length_map, hrow.length_eq]
  · obtain ⟨segment, path, htakes, hrest, rfl⟩ := List.forall₂_cons_left_iff.1 hfollows
    obtain ⟨k, hk, hkv⟩ := Json.at?_cons_eq_some_iff.1 hv
    cases segment with
    | key name => exact htakes.elim
    | index i =>
      obtain ⟨hi, rfl⟩ := List.getElem?_eq_some_iff.1 hk
      have hi' : i < as.length := hrow.length_eq ▸ hi
      have ha : c.read site values[i] = .ok as[i] := hrow.get hi hi'
      have hkept := (h (hall _ (List.getElem_mem hi)) ha).behind [.item]
      obtain ⟨v', hv', hstands⟩ := hkept rest t hu hlead path v hrest hkv habsent
      refine ⟨v', Json.at?_cons_eq_some_iff.2 ⟨c.write as[i], ?_, hv'⟩, hstands⟩
      change (as.map c.write)[i]? = some (c.write as[i])
      rw [List.getElem?_map, List.getElem?_eq_getElem hi']
      rfl

/-- A key has the same entry in what is read from a table and written again. -/
theorem lookup_of_forall₂ {site : Site} {members : Members} {entries : List (String × α)}
    (h : List.Forall₂ (fun m e => ∃ a, c.read site m.2 = .ok a ∧ (m.1, a) = e) members entries)
    {key : String} {j : Json} (hj : members.get? key = some j) :
    ∃ a, c.read site j = .ok a ∧ (entries.map fun e => (e.1, c.write e.2)).lookup key =
      some (c.write a) := by
  induction h with
  | nil => contradiction
  | @cons m e members entries hm _ ih =>
    obtain ⟨a, ha, rfl⟩ := hm
    rw [Members.get?_cons] at hj
    rw [List.map_cons, List.lookup_cons]
    by_cases hkey : key = m.1
    · rw [if_pos hkey] at hj
      obtain rfl := Option.some.inj hj
      rw [beq_iff_eq.2 hkey]
      exact ⟨a, ha, rfl⟩
    · rw [if_neg hkey] at hj
      rw [beq_eq_false_iff_ne.2 hkey]
      exact ih hj

/-- The keys of a table are written as they were read. -/
theorem stands_table {site : Site} {members : Members} {entries : List (String × α)}
    (h : List.Forall₂ (fun m e => ∃ a, c.read site m.2 = .ok a ∧ (m.1, a) = e) members entries) :
    (Schema.table s).Stands (.obj members) (c.table.write entries) := by
  refine ⟨members, entries.map fun e => (e.1, c.write e.2), rfl, rfl, ?_⟩
  rw [List.map_map]
  induction h with
  | nil => rfl
  | cons hm _ ih =>
    obtain ⟨a, -, rfl⟩ := hm
    rw [List.map_cons, List.map_cons, ih]
    rfl

theorem Keeps.table (h : s.Keeps c) : (Schema.table s).Keeps c.table := by
  rintro site j entries ⟨members, rfl, hall⟩ hread steps t ht hlead path v hfollows hv habsent
  obtain ⟨ms, hms, hrow⟩ := Codec.read_table_eq_ok_iff.1 hread
  obtain rfl := Json.obj.inj hms
  rcases mem_parts_table_iff.1 ht with ⟨rfl, rfl⟩ | ⟨rest, rfl, hu⟩
  · obtain rfl := List.forall₂_nil_left_iff.1 hfollows
    obtain rfl := Option.some.inj hv
    exact ⟨_, rfl, stands_table hrow⟩
  · obtain ⟨segment, path, htakes, hrest, rfl⟩ := List.forall₂_cons_left_iff.1 hfollows
    obtain ⟨k, hk, hkv⟩ := Json.at?_cons_eq_some_iff.1 hv
    cases segment with
    | index i => exact htakes.elim
    | key name =>
      obtain ⟨a, ha, hwritten⟩ := lookup_of_forall₂ hrow hk
      have hkept := (h (hall _ (Members.mem_of_lookup_eq_some hk)) ha).behind [.entry]
      obtain ⟨v', hv', hstands⟩ := hkept rest t hu hlead path v hrest hkv habsent
      exact ⟨v', Json.at?_cons_eq_some_iff.2 ⟨c.write a, hwritten, hv'⟩, hstands⟩

/-! ## Records -/

/-- An object keeps what a record schema names in another when it has, under the written name of
each property, a value that keeps what stands there. -/
theorem keptBehind_record {closed : Bool} {required : List String}
    {properties : List (String × Schema)} {members members' : Members} {lead : List Step}
    (h : ∀ p ∈ properties, ∀ v, members.get? p.1 = some v → v.isAbsent = false →
      ∃ w, members'.get? (writtenName p.1) = some w ∧ p.2.KeptBehind [.member p.1] v w) :
    (record closed required properties).KeptBehind lead (.obj members) (.obj members') := by
  intro steps t ht hlead path v hfollows hv habsent
  rcases mem_parts_record_iff.1 ht with ⟨rfl, rfl⟩ | ⟨p, hp, rest, rfl, hu⟩
  · obtain rfl := List.forall₂_nil_left_iff.1 hfollows
    obtain rfl := Option.some.inj hv
    exact ⟨_, rfl, members, members', rfl, rfl⟩
  · obtain ⟨segment, path, htakes, hrest, rfl⟩ := List.forall₂_cons_left_iff.1 hfollows
    obtain ⟨k, hk, hkv⟩ := Json.at?_cons_eq_some_iff.1 hv
    cases segment with
    | index i => exact htakes.elim
    | key name =>
      obtain rfl : name = p.1 := htakes
      obtain ⟨w, hw, hkept⟩ := h p hp k hk (Json.not_isAbsent_of_at? hkv habsent)
      have hend : ¬ Step.EndInParameters ([.member p.1] ++ rest) := fun hend =>
        hlead (hend.trans (List.suffix_append lead _))
      obtain ⟨v', hv', hstands⟩ := hkept rest t hu hend path v hrest hkv habsent
      exact ⟨v', Json.at?_cons_eq_some_iff.2 ⟨w, hw, hv'⟩, hstands⟩

/-- A member keeps the values that the schema of its properties allows under its keys, and leaves
out only what stands for an absent value. -/
structure MemberKeeps (properties : List (String × Schema)) (m : Member ρ α) : Prop where
  kept : ∀ key ∈ m.keys, ∀ s, properties.lookup key = some s →
    ∀ ⦃site j a⦄, s.Allows j → m.codec.read site j = .ok a →
      s.KeptBehind [.member key] j (m.codec.write a)
  written : ∀ ⦃site j a⦄, m.codec.read site j = .ok a → j.isAbsent = false → m.omits a = false

/-- The keys of some members, each with the name that the member is written under. -/
def namesOf (ms : List (AnyMember ρ)) : List (String × String) :=
  ms.flatMap fun m => m.2.keys.map fun key => (key, m.2.name)

theorem map_fst_namesOf (ms : List (AnyMember ρ)) :
    (namesOf ms).map Prod.fst = Wire.keysOf ms := by
  unfold namesOf Wire.keysOf
  rw [List.map_flatMap]
  refine List.flatMap_congr fun m _ => ?_
  rw [List.map_map]
  exact List.map_id _

/-- A structure read from an object that the properties allow is written with the values of the
properties kept under the names that go with their keys. -/
structure RecordKeeps (properties : List (String × Schema)) (r : Record ρ ρ)
    (names : List (String × String)) : Prop where
  keys : ∀ x, ((r.writeMembers x).map Prod.fst).Sublist (names.map Prod.fst)
  kept : ∀ {site members x}, AllowsProperties members properties →
    r.readMembers site members = .value x → ∀ {key name s v}, (key, name) ∈ names →
      properties.lookup key = some s → members.get? key = some v → v.isAbsent = false →
        ∃ w, (r.writeMembers x).lookup name = some w ∧ s.KeptBehind [.member key] v w

theorem RecordKeeps.keeps {properties : List (String × Schema)} {r : Record ρ ρ}
    {names : List (String × String)} (h : RecordKeeps properties r names)
    (hnames : (names.map Prod.fst).Nodup) (hproperties : (properties.map Prod.fst).Nodup)
    (hcovers : ∀ p ∈ properties, (p.1, writtenName p.1) ∈ names) {closed : Bool}
    {required : List String} {title : String} :
    (record closed required properties).Keeps (r.codec title) := by
  rintro site j x ⟨members, rfl, hallows, -⟩ hread
  have hmembers := Record.read_obj_eq_ok_iff.1 hread
  refine keptBehind_record fun p hp v hv habsent => ?_
  have hlookup : properties.lookup p.1 = some p.2 := Members.lookup_eq_some_of_mem hproperties hp
  obtain ⟨w, hw, hkept⟩ := h.kept hallows hmembers (hcovers p hp) hlookup hv habsent
  refine ⟨w, ?_, hkept⟩
  rw [Members.get?_ofList (hnames.sublist (h.keys x)), hw]

/-- Some members of a structure, put together so far, each of which keeps what stands under its
keys. -/
def MembersKeep (properties : List (String × Schema)) (r : Record ρ α) (make : P → α)
    (take : ρ → P) (names : List (String × String)) : Prop :=
  ∃ ms, r.Consists make take ms ∧ (∀ m ∈ ms, MemberKeeps properties m.2) ∧ namesOf ms = names

theorem membersKeep_start {properties : List (String × Schema)} {make : α} :
    MembersKeep properties (Record.start (ρ := ρ) make) (fun _ : Unit => make) (fun _ => ()) [] :=
  ⟨[], Record.consists_start, fun _ hm => (List.not_mem_nil hm).elim, rfl⟩

namespace MembersKeep

theorem recordKeeps {properties : List (String × Schema)} {r : Record ρ ρ} {make : P → ρ}
    {take : ρ → P} {names : List (String × String)} (h : MembersKeep properties r make take names)
    (htake : ∀ p, take (make p) = p) (hmake : ∀ x, make (take x) = x)
    (hnames : (names.map Prod.fst).Nodup) : RecordKeeps properties r names := by
  obtain ⟨ms, hms, hkeeps, rfl⟩ := h
  have hall : r.Comprises ms := hms.comprises htake hmake
  rw [map_fst_namesOf] at hnames
  refine ⟨fun x => map_fst_namesOf ms ▸ hall.keys_writeMembers_sublist x, ?_⟩
  intro site members x hallows hread key name s v hkey hlookup hv habsent
  obtain ⟨m, hm, hkey⟩ := List.mem_flatMap.1 hkey
  obtain ⟨k, hk, heq⟩ := List.mem_map.1 hkey
  obtain ⟨rfl, rfl⟩ := Prod.mk.inj heq
  have hfrom := hall.readMembers_iff.1 hread m hm
  have hcodec : m.2.codec.read site v = .ok (m.2.get x) := Member.read_of_readFrom hfrom hk hv
  have homits : m.2.omits (m.2.get x) = false := (hkeeps m hm).written hcodec habsent
  refine ⟨m.2.codec.write (m.2.get x), ?_, (hkeeps m hm).kept k hk s hlookup
    (allows_of_lookup hallows hlookup hv) hcodec⟩
  have hwritten : m.2.writeFrom x = [(m.2.name, m.2.codec.write (m.2.get x))] :=
    if_neg (by rw [homits]; exact Bool.false_ne_true)
  rw [hall.writeMembers, Wire.lookup_flatMap_writeFrom hnames hm List.mem_cons_self, hwritten,
    List.lookup_cons_self]

theorem keeps {properties : List (String × Schema)} {r : Record ρ ρ} {make : P → ρ}
    {take : ρ → P} {names : List (String × String)} (h : MembersKeep properties r make take names)
    (htake : ∀ p, take (make p) = p) (hmake : ∀ x, make (take x) = x)
    (hnames : (names.map Prod.fst).Nodup) (hproperties : (properties.map Prod.fst).Nodup)
    (hcovers : ∀ p ∈ properties, (p.1, writtenName p.1) ∈ names) {closed : Bool}
    {required : List String} {title : String} :
    (record closed required properties).Keeps (r.codec title) :=
  (h.recordKeeps htake hmake hnames).keeps hnames hproperties hcovers

/-! ## Kinds of member -/

section
variable {properties : List (String × Schema)} {r : Record ρ (α → β)} {make : P → α → β}
  {take : ρ → P} {names : List (String × String)} {name : String} {get : ρ → α}

theorem member (h : MembersKeep properties r make take names) {m : Member ρ α}
    (hm : MemberKeeps properties m) :
    MembersKeep properties (r.member m) (Function.uncurry make) (fun x => (take x, m.get x))
      (names ++ m.keys.map fun key => (key, m.name)) := by
  obtain ⟨ms, hms, hkeeps, rfl⟩ := h
  refine ⟨ms ++ [⟨α, m⟩], hms.member m, ?_, ?_⟩
  · exact List.forall_mem_append.2 ⟨hkeeps, List.forall_mem_singleton.2 hm⟩
  · unfold namesOf
    rw [List.flatMap_append, List.flatMap_singleton]

/-- A member with one name. -/
theorem plain {absent : Option α} {omits : α → Bool} (h : MembersKeep properties r make take names)
    (hc : s.Keeps c) (hlookup : properties.lookup name = some s)
    (hwritten : ∀ ⦃site j a⦄, c.read site j = .ok a → j.isAbsent = false → omits a = false) :
    MembersKeep properties (r.member ⟨name, none, get, c, absent, omits⟩) (Function.uncurry make)
      (fun x => (take x, get x)) (names ++ [(name, name)]) := by
  refine h.member ⟨fun key hkey t ht site j a hallows hread => ?_, hwritten⟩
  obtain rfl := List.mem_singleton.1 hkey
  obtain rfl : s = t := Option.some.inj (hlookup.symm.trans ht)
  exact (hc hallows hread).behind _

/-- A member that is always written. -/
theorem written {absent : Option α} (h : MembersKeep properties r make take names)
    (hc : s.Keeps c) (hlookup : properties.lookup name = some s) :
    MembersKeep properties (r.member ⟨name, none, get, c, absent, fun _ => false⟩)
      (Function.uncurry make) (fun x => (take x, get x)) (names ++ [(name, name)]) :=
  h.plain hc hlookup fun _ _ _ _ _ => rfl

end

section
variable {properties : List (String × Schema)} {take : ρ → P} {names : List (String × String)}
  {name : String} {site : Site} {j : Json}

theorem briefText {r : Record ρ (String → β)} {make : P → String → β} {get : ρ → String}
    {rule : TextRule} (h : MembersKeep properties r make take names)
    (hlookup : properties.lookup name = some (.text rule)) :
    MembersKeep properties (r.briefText name get) (Function.uncurry make)
      (fun x => (take x, get x)) (names ++ [(name, name)]) := by
  refine h.plain keeps_text hlookup fun site j t hread habsent => ?_
  obtain rfl := Codec.read_text_eq_ok_iff.1 hread
  exact habsent

theorem isNone_of_read {o : Option α} (h : c.optional.read site j = .ok o)
    (habsent : j.isAbsent = false) : o.isNone = false := by
  have hnull : j ≠ .null := by
    rintro rfl
    contradiction
  obtain ⟨a, -, rfl⟩ := (Codec.read_optional_of_ne_null hnull).1 h
  rfl

theorem optional {r : Record ρ (Option α → β)} {make : P → Option α → β} {get : ρ → Option α}
    (h : MembersKeep properties r make take names) (hc : s.Keeps c)
    (hlookup : properties.lookup name = some s) :
    MembersKeep properties (r.optional name get c) (Function.uncurry make)
      (fun x => (take x, get x)) (names ++ [(name, name)]) :=
  h.plain hc.optional hlookup fun _ _ _ => isNone_of_read

/-- An optional member with two names is written under the first. -/
theorem either {r : Record ρ (Option α → β)} {make : P → Option α → β} {get : ρ → Option α}
    {other : String} {t : Schema} (h : MembersKeep properties r make take names) (hc : s.Keeps c)
    (hlookup : properties.lookup name = some s) (hother : t.Keeps c)
    (hlookupOther : properties.lookup other = some t) :
    MembersKeep properties (r.optionalAlso name other get c) (Function.uncurry make)
      (fun x => (take x, get x)) (names ++ [(name, name), (other, name)]) := by
  refine h.member ⟨fun key hkey u hu site j a hallows hread => ?_, fun _ _ _ => isNone_of_read⟩
  rcases List.mem_cons.1 hkey with rfl | hkey
  · obtain rfl : s = u := Option.some.inj (hlookup.symm.trans hu)
    exact (hc.optional hallows hread).behind _
  · obtain rfl := List.mem_singleton.1 hkey
    obtain rfl : t = u := Option.some.inj (hlookupOther.symm.trans hu)
    exact (hother.optional hallows hread).behind _

theorem briefList {r : Record ρ (List α → β)} {make : P → List α → β} {get : ρ → List α}
    (h : MembersKeep properties r make take names) (hc : s.Keeps c)
    (hlookup : properties.lookup name = some (.list s)) :
    MembersKeep properties (r.briefList name get c) (Function.uncurry make)
      (fun x => (take x, get x)) (names ++ [(name, name)]) := by
  refine h.plain hc.list hlookup fun site j as hread habsent => ?_
  obtain ⟨items, rfl, hitems⟩ := Codec.read_list_eq_ok_iff.1 hread
  cases hitems with
  | nil => contradiction
  | cons _ _ => rfl

theorem isEmpty_of_read {entries : List (String × α)} (h : c.table.read site j = .ok entries)
    (habsent : j.isAbsent = false) : entries.isEmpty = false := by
  obtain ⟨members, rfl, hmembers⟩ := Codec.read_table_eq_ok_iff.1 h
  cases hmembers with
  | nil => contradiction
  | cons _ _ => rfl

theorem briefTable {r : Record ρ (List (String × α) → β)} {make : P → List (String × α) → β}
    {get : ρ → List (String × α)} (h : MembersKeep properties r make take names) (hc : s.Keeps c)
    (hlookup : properties.lookup name = some (.table s)) :
    MembersKeep properties (r.briefTable name get c) (Function.uncurry make)
      (fun x => (take x, get x)) (names ++ [(name, name)]) :=
  h.plain hc.table hlookup fun _ _ _ => isEmpty_of_read

/-- Of the parameters of a tool only the names are kept. -/
theorem parameters {r : Record ρ (List (String × α) → β)} {make : P → List (String × α) → β}
    {get : ρ → List (String × α)} (h : MembersKeep properties r make take names)
    (hlookup : properties.lookup "parameters" = some (.table .any)) :
    MembersKeep properties (r.briefTable "parameters" get c) (Function.uncurry make)
      (fun x => (take x, get x)) (names ++ [("parameters", "parameters")]) := by
  refine h.member ⟨fun key hkey t ht site j entries hallows hread => ?_,
    fun _ _ _ => isEmpty_of_read⟩
  obtain rfl := List.mem_singleton.1 hkey
  obtain rfl := Option.some.inj (hlookup.symm.trans ht)
  intro steps u hu hend path v hfollows hv _
  rcases mem_parts_table_iff.1 hu with ⟨rfl, rfl⟩ | ⟨rest, rfl, hrest⟩
  · obtain rfl := List.forall₂_nil_left_iff.1 hfollows
    obtain rfl := Option.some.inj hv
    obtain ⟨members, rfl, hrow⟩ := Codec.read_table_eq_ok_iff.1 hread
    exact ⟨_, rfl, stands_table hrow⟩
  · rw [parts] at hrest
    obtain ⟨rfl, -⟩ := Prod.mk.inj (List.mem_singleton.1 hrest)
    exact absurd (List.suffix_refl _) hend

end
end MembersKeep

end Schema
end FlowCheck
