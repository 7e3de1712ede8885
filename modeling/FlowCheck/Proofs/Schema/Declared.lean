import FlowCheck.Proofs.Json.Members
import FlowCheck.Proofs.Schema.Allowed
import FlowCheck.Proofs.Schema.Finding

/-!
# Declared types

A schema declares something at a path when following the path from member to member, item to item
and entry to entry ends at one of its parts (`Schema.at?`).  Records name their members once, so the
part that a violation is found at is the one that is declared at its place, and so is the part for a
missing member (`DocumentKind.exists_kind_of_mem_findings`).
-/

namespace FlowCheck

open Step (Follows)

namespace Schema

/-- The schema of the values behind one segment. -/
def behind? : Segment → Schema → Option Schema
  | .index _, list items => some items
  | .key name, record _ _ properties => properties.lookup name
  | .key _, table values => some values
  | _, _ => none

/-- The schema of the values at a path. -/
def at? : List Segment → Schema → Option Schema
  | [], s => some s
  | segment :: path, s => (s.behind? segment).bind (at? path)

theorem at?_append (path more : List Segment) (s : Schema) :
    s.at? (path ++ more) = (s.at? path).bind (at? more) := by
  induction path generalizing s with
  | nil => rfl
  | cons segment path ih =>
    rw [List.cons_append, at?, at?, Option.bind_assoc]
    exact Option.bind_congr fun u _ => ih u

/-- Every record in the schema names its members once. -/
def NamesOnce (s : Schema) : Prop :=
  ∀ part ∈ s.parts, (part.2.properties.map Prod.fst).Nodup

theorem eq_of_nil_mem_parts {s t : Schema} (h : ([], t) ∈ s.parts) : t = s := by
  cases s with
  | list items =>
    rcases mem_parts_list_iff.1 h with ⟨-, rfl⟩ | ⟨rest, hrest, -⟩
    · rfl
    · contradiction
  | record closed required properties =>
    rcases mem_parts_record_iff.1 h with ⟨-, rfl⟩ | ⟨p, -, rest, hrest, -⟩
    · rfl
    · contradiction
  | table values =>
    rcases mem_parts_table_iff.1 h with ⟨-, rfl⟩ | ⟨rest, hrest, -⟩
    · rfl
    · contradiction
  | _ => simpa [parts] using h

/-- A part behind a step is a part of what is declared behind the segments that the step takes. -/
theorem exists_behind?_of_mem_parts {s t : Schema} {step : Step} {steps : List Step}
    {segment : Segment} (honce : s.NamesOnce) (htakes : step.Takes segment)
    (h : (step :: steps, t) ∈ s.parts) :
    ∃ u, s.behind? segment = some u ∧
      (∀ rest v, (rest, v) ∈ u.parts → (step :: rest, v) ∈ s.parts) ∧ (steps, t) ∈ u.parts := by
  cases s with
  | list items =>
    rcases mem_parts_list_iff.1 h with ⟨hnil, -⟩ | ⟨rest, hrest, ht⟩
    · contradiction
    · obtain ⟨rfl, rfl⟩ := List.cons.inj hrest
      cases segment with
      | index i =>
        exact ⟨items, rfl, fun _ _ hv => mem_parts_list_iff.2 (.inr ⟨_, rfl, hv⟩), ht⟩
      | key key => exact htakes.elim
  | record closed required properties =>
    rcases mem_parts_record_iff.1 h with ⟨hnil, -⟩ | ⟨p, hp, rest, hrest, ht⟩
    · contradiction
    · obtain ⟨rfl, rfl⟩ := List.cons.inj hrest
      cases segment with
      | index i => exact htakes.elim
      | key key =>
        obtain rfl : key = p.1 := htakes
        have hnames : (properties.map Prod.fst).Nodup := honce _ (self_mem_parts _)
        exact ⟨p.2, Members.lookup_eq_some_of_mem hnames hp,
          fun _ _ hv => mem_parts_record_iff.2 (.inr ⟨p, hp, _, rfl, hv⟩), ht⟩
  | table values =>
    rcases mem_parts_table_iff.1 h with ⟨hnil, -⟩ | ⟨rest, hrest, ht⟩
    · contradiction
    · obtain ⟨rfl, rfl⟩ := List.cons.inj hrest
      cases segment with
      | index i => exact htakes.elim
      | key key =>
        exact ⟨values, rfl, fun _ _ hv => mem_parts_table_iff.2 (.inr ⟨_, rfl, hv⟩), ht⟩
  | _ => simp [parts] at h

/-- A part is what is declared wherever its steps lead. -/
theorem at?_of_mem_parts {s t : Schema} {steps : List Step} {path : List Segment}
    (honce : s.NamesOnce) (hmem : (steps, t) ∈ s.parts) (hfollows : Follows steps path) :
    s.at? path = some t := by
  induction hfollows generalizing s with
  | nil => exact congrArg some (eq_of_nil_mem_parts hmem).symm
  | @cons step segment steps path htakes _ ih =>
    obtain ⟨u, hu, hparts, ht⟩ := exists_behind?_of_mem_parts honce htakes hmem
    have honceBehind : u.NamesOnce := fun part hpart =>
      honce (step :: part.1, part.2) (hparts _ _ hpart)
    rw [at?, hu, Option.bind_some]
    exact ih honceBehind ht

/-- Only a schema that asks for a kind of value has restrictions. -/
theorem isSome_kind?_of_canGive {s : Schema} {cause : Violation.Cause} (h : s.CanGive cause) :
    s.kind?.isSome = true := by
  cases s with
  | any => cases cause <;> contradiction
  | _ => rfl

/-- The members that a schema requires are of a declared type. -/
def RequiresTyped (s : Schema) : Prop :=
  ∀ name ∈ s.required, ∃ t, s.behind? (.key name) = some t ∧ t.kind?.isSome = true

instance (s : Schema) : Decidable s.RequiresTyped :=
  decidable_of_iff (∀ name ∈ s.required, (s.behind? (.key name)).any (·.kind?.isSome) = true) <| by
    simp only [RequiresTyped, Option.any_eq_true]

end Schema

namespace DocumentKind

theorem namesOnce (kind : DocumentKind) : kind.schema.NamesOnce := by
  unfold Schema.NamesOnce
  cases kind with
  | workflow => decide +kernel
  | resource => decide +kernel

/-- A part of the schema of a document is what is declared wherever its steps lead. -/
theorem at?_of_mem_parts {kind : DocumentKind} {s : Schema} {steps : List Step}
    {path : List Segment} (hmem : (steps, s) ∈ kind.schema.parts) (hfollows : Follows steps path) :
    kind.schema.at? path = some s :=
  Schema.at?_of_mem_parts kind.namesOnce hmem hfollows

/-- What is wrong with a value breaks a restriction of the part that its place belongs to. -/
theorem exists_canGive_of_mem_findings {kind : DocumentKind} {doc : Json} {f : Finding}
    (hf : f ∈ kind.findings doc) (hpresent : ∀ name, f.violation.cause ≠ .missing name) :
    ∃ steps s, (steps, s) ∈ f.kind.schema.parts ∧ Follows steps f.location ∧
      s.CanGive f.violation.cause := by
  obtain ⟨steps, s, hmem, path, hpath, hfollows, hown⟩ := foundAt_of_mem_findings hf
  obtain rfl : f.violation.path = path := hpath
  refine ⟨steps, s, hmem, ?_, Schema.canGive_of_mem_ownCauses hown⟩
  unfold Finding.location
  split
  · next name hname => exact absurd hname (hpresent name)
  · exact hfollows

/-- A value of a wrong type is not of the type that is declared at its place. -/
theorem kind?_of_wrongKind {kind : DocumentKind} {doc : Json} {f : Finding}
    (hf : f ∈ kind.findings doc) {expected : Json.Kind}
    (hcause : f.violation.cause = .wrongKind expected) :
    ∃ s, f.kind.schema.at? f.location = some s ∧ s.kind? = some expected := by
  obtain ⟨steps, s, hmem, hfollows, hgive⟩ := exists_canGive_of_mem_findings hf (by simp [hcause])
  rw [hcause] at hgive
  exact ⟨s, at?_of_mem_parts hmem hfollows, by cases s <;> exact hgive⟩

theorem requiresTyped (kind : DocumentKind) :
    ∀ part ∈ kind.schema.parts, part.2.RequiresTyped := by
  cases kind with
  | workflow => decide +kernel
  | resource => decide +kernel

/-- Every finding is about a place of a declared type. -/
theorem exists_kind_of_mem_findings {kind : DocumentKind} {doc : Json} {f : Finding}
    (hf : f ∈ kind.findings doc) :
    ∃ steps s expected, (steps, s) ∈ f.kind.schema.parts ∧ Follows steps f.location ∧
      s.kind? = some expected := by
  obtain ⟨steps, s, hmem, hfollows⟩ := exists_part_of_mem_findings hf
  have hdeclared := at?_of_mem_parts hmem hfollows
  obtain ⟨front, t, ht, path, hpath, hfront, hown⟩ := foundAt_of_mem_findings hf
  obtain rfl : f.violation.path = path := hpath
  have hat := at?_of_mem_parts ht hfront
  have hgive := Schema.canGive_of_mem_ownCauses hown
  have hkind : s.kind?.isSome = true := by
    unfold Finding.location at hdeclared
    split at hdeclared
    · next name hname =>
      obtain ⟨u, hu, hukind⟩ := requiresTyped _ _ ht name
        (Schema.mem_required_of_canGive (hname ▸ hgive))
      rw [Schema.at?_append, hat, Option.bind_some, Schema.at?, hu, Option.bind_some] at hdeclared
      exact Option.some.inj hdeclared ▸ hukind
    · obtain rfl : t = s := Option.some.inj (hat.symm.trans hdeclared)
      exact Schema.isSome_kind?_of_canGive hgive
  obtain ⟨expected, hexpected⟩ := Option.isSome_iff_exists.1 hkind
  exact ⟨steps, s, expected, hmem, hfollows, hexpected⟩

end DocumentKind
end FlowCheck
