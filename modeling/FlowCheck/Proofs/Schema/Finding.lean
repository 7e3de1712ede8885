import FlowCheck.Proofs.Hints.FieldPath
import FlowCheck.Proofs.Schema.Part
import FlowCheck.Proofs.Schema.Pointer
import FlowCheck.Schema.Check

/-!
# Findings

A finding is a violation together with the document that it is found in: the whole document, or
the resource at some position inside a workflow document.  The diagnostics of a document are those
of its findings (`DocumentKind.diagnoseAll_eq_map`), every finding is about a place that one of the
parts of its schema leads to (`DocumentKind.exists_part_of_mem_findings`), and the names on its
field path are the names of the segments on the way (`Finding.names_field`).
-/

namespace FlowCheck

open Step (Follows)

/-- A violation in a document of some kind, which may be the resource at a position inside a
workflow document. -/
structure Finding where
  kind : DocumentKind
  position : Option Nat
  violation : Violation

namespace Finding

/-- The path of the document that the finding is in. -/
def base (f : Finding) : String :=
  match f.position with
  | none => ""
  | some i => "resources." ++ toString i

def field (f : Finding) : String := f.violation.field f.base

def sentence (f : Finding) : String := f.violation.sentence f.base

def diagnostic (f : Finding) : Diagnostic := f.violation.diagnostic f.kind f.base

/-- The place in its document that a finding is about: the value, or where a missing member should
be. -/
def location (f : Finding) : List Segment :=
  match f.violation.cause with
  | .missing name => f.violation.path ++ [.key name]
  | _ => f.violation.path

end Finding

namespace DocumentKind

/-- The findings in a document and in the documents inside it. -/
def findings (kind : DocumentKind) (doc : Json) : List Finding :=
  (kind.schema.violations [] doc).map (Finding.mk kind none) ++
    match kind with
    | workflow => (inlineResources doc).flatMap fun r =>
      (Schema.resource.violations [] r.1).map (Finding.mk resource (some r.2))
    | resource => []

/-- The diagnostics of a document are those of its findings. -/
theorem diagnoseAll_eq_map (kind : DocumentKind) (doc : Json) :
    kind.diagnoseAll doc = (kind.findings doc).map Finding.diagnostic := by
  unfold diagnoseAll findings
  rw [List.map_append, List.map_map]
  congr 1
  cases kind with
  | resource => rfl
  | workflow =>
    simp only [List.map_flatMap, List.map_map]
    rfl

/-- A finding is a violation of its document, and only resources are inside another document. -/
theorem violation_of_mem_findings {kind : DocumentKind} {doc : Json} {f : Finding}
    (h : f ∈ kind.findings doc) :
    (∃ value, f.violation ∈ f.kind.schema.violations [] value) ∧
      (f.position = none ∨ f.kind = resource) := by
  unfold findings at h
  rcases List.mem_append.1 h with h | h
  · obtain ⟨v, hv, rfl⟩ := List.mem_map.1 h
    exact ⟨⟨doc, hv⟩, .inl rfl⟩
  · cases kind with
    | resource => contradiction
    | workflow =>
      obtain ⟨r, -, hr⟩ := List.mem_flatMap.1 h
      obtain ⟨v, hv, rfl⟩ := List.mem_map.1 hr
      exact ⟨⟨r.1, hv⟩, .inr rfl⟩

theorem foundAt_of_mem_findings {kind : DocumentKind} {doc : Json} {f : Finding}
    (h : f ∈ kind.findings doc) : Schema.FoundAt [] f.violation f.kind.schema.parts := by
  obtain ⟨⟨value, hv⟩, -⟩ := violation_of_mem_findings h
  exact Schema.foundAt_of_mem_violations hv

/-- A member that a part requires is a part as well. -/
theorem member_mem_parts (kind : DocumentKind) : ∀ part ∈ kind.schema.parts,
    ∀ name ∈ part.2.required, part.1 ++ [.member name] ∈ kind.schema.parts.map Prod.fst := by
  cases kind with
  | workflow => decide +kernel
  | resource => decide +kernel

/-- A finding is about a place that a part of the schema is for. -/
theorem exists_part_of_mem_findings {kind : DocumentKind} {doc : Json} {f : Finding}
    (h : f ∈ kind.findings doc) :
    ∃ steps s, (steps, s) ∈ f.kind.schema.parts ∧ Follows steps f.location := by
  obtain ⟨steps, s, hmem, rest, hpath, hfollows, hcause⟩ := foundAt_of_mem_findings h
  obtain rfl : f.violation.path = rest := hpath
  unfold Finding.location
  split
  · next name hname =>
    have hrequired : name ∈ s.required :=
      Schema.mem_required_of_canGive (hname ▸ Schema.canGive_of_mem_ownCauses hcause)
    obtain ⟨⟨more, t⟩, ht, rfl⟩ := List.mem_map.1 (member_mem_parts _ _ hmem _ hrequired)
    exact ⟨_, t, ht, hfollows.append (Step.takes_member name)⟩
  · exact ⟨steps, s, hmem, hfollows⟩

end DocumentKind

/-! ## Names on field paths -/

theorem Violation.names_place (v : Violation) (base : String) : FieldPath.names (v.place base) =
    FieldPath.names base ++ v.path.flatMap fun segment => FieldPath.names segment.text := by
  have hempty (texts : List String) : (texts.filter fun s => !s.isEmpty).flatMap FieldPath.names =
      texts.flatMap FieldPath.names := by
    induction texts with
    | nil => rfl
    | cons text texts ih =>
      by_cases htext : text = ""
      · simp [htext, ih]
      · simp [htext, ih]
  rw [place, FieldPath.names_join, Pointer.toFieldPath_render, FieldPath.names_join_points, hempty,
    List.flatMap_map]

namespace Finding

/-- The names in front of those of the place itself. -/
def leadNames (f : Finding) : List String := if f.position.isSome then ["resources"] else []

/-- What is checked for the parts of both schemas, and again for resources inside a workflow
document, can be used for every finding. -/
theorem check_of_mem_findings {check : DocumentKind → List String → List Step × Schema → Bool}
    (hwhole : ∀ kind : DocumentKind, ∀ part ∈ kind.schema.parts, check kind [] part = true)
    (hinline : ∀ part ∈ Schema.resource.parts, check .resource ["resources"] part = true)
    {kind : DocumentKind} {doc : Json} {f : Finding} (h : f ∈ kind.findings doc) :
    ∀ part ∈ f.kind.schema.parts, check f.kind f.leadNames part = true := by
  obtain ⟨fkind, position, v⟩ := f
  cases position with
  | none => exact hwhole fkind
  | some i =>
    rcases (DocumentKind.violation_of_mem_findings h).2 with hnone | hkind
    · contradiction
    · obtain rfl : fkind = .resource := hkind
      exact hinline

theorem names_base (f : Finding) : FieldPath.names f.base = f.leadNames := by
  unfold base leadNames
  cases f.position with
  | none => rfl
  | some i =>
    have hbase : "resources." ++ toString i = "resources" ++ "." ++ toString i := by
      rw [← String.toList_inj]
      simp
    simp only [Option.isSome_some, if_true]
    rw [hbase, FieldPath.names_append_point, FieldPath.names_toString, List.append_nil]
    rfl

/-- The names on a field path are those of the segments on the way. -/
theorem names_field (f : Finding) : FieldPath.names f.field =
    f.leadNames ++ f.location.flatMap fun segment => FieldPath.names segment.text := by
  have hplace := f.violation.names_place f.base
  unfold field Violation.field location
  cases f.violation.cause
  case missing name =>
    simp [FieldPath.names_join, hplace, names_base, Segment.text]
  all_goals rw [hplace, names_base]

end Finding
end FlowCheck
