import FlowCheck.Proofs.Json.Field
import FlowCheck.Proofs.Schema.InlineHint

/-!
# What a diagnostic is about

The field of a diagnostic is rebuilt from the place of a violation: by way of a pointer, without
its empty segments, behind the path of an inline resource, and with the name of a missing member at
the end.  When all keys of the document are plain, nothing is lost on the way.  The segments of the
field are those of the place (`Finding.segments_field`), so every diagnostic points at its subject
(`DocumentKind.pointsAtSubject_of_mem_diagnoseAll`): it has the value that stands at its field, or
names a member that is absent from the object above it.
-/

namespace FlowCheck

/-! ## Values of violations -/

/-- The violation is about the value that the rest of its path leads to, behind `path`. -/
def Violation.IsAt (v : Violation) (path : List Segment) (j : Json) : Prop :=
  ∃ rest, v.path = path ++ rest ∧ j.at? rest = some v.value

theorem Violation.IsAt.of_behind? {v : Violation} {path : List Segment} {segment : Segment}
    {j k : Json} (h : v.IsAt (path ++ [segment]) k) (hk : j.behind? segment = some k) :
    v.IsAt path j := by
  obtain ⟨rest, hpath, hrest⟩ := h
  exact ⟨segment :: rest, by simpa using hpath, Json.at?_cons_eq_some_iff.2 ⟨k, hk, hrest⟩⟩

namespace Schema

theorem isAt_of_mem_here {path : List Segment} {j : Json} {causes : List Violation.Cause}
    {v : Violation} (h : v ∈ here path j causes) : v.IsAt path j := by
  obtain ⟨cause, -, rfl⟩ := List.mem_map.1 h
  exact ⟨[], (List.append_nil path).symm, rfl⟩

mutual

/-- Every violation has the value at its path, in a document whose objects have different keys. -/
theorem isAt_of_mem_violations {s : Schema} {path : List Segment} {j : Json} {v : Violation}
    (hj : j.hasPlainKeys = true) (h : v ∈ s.violations path j) : v.IsAt path j := by
  cases s with
  | any => simp [violations] at h
  | text rule => exact isAt_of_mem_here h
  | integer range options => exact isAt_of_mem_here h
  | number range => exact isAt_of_mem_here h
  | boolean => exact isAt_of_mem_here h
  | list items =>
    unfold violations at h
    rcases List.mem_append.1 h with h | h
    · split at h
      · next values _ =>
        obtain ⟨⟨value, i⟩, hvalue, hv⟩ := List.mem_flatMap.1 h
        have hbehind : (Json.arr values).behind? (.index i) = some value :=
          List.mk_mem_zipIdx_iff_getElem?.1 hvalue
        have hkeys := (Json.hasPlainKeys_of_behind? hj hbehind).2
        exact (isAt_of_mem_violations hkeys hv).of_behind? hbehind
      · contradiction
    · exact isAt_of_mem_here h
  | record closed required properties =>
    unfold violations at h
    rcases List.mem_append.1 h with h | h
    · exact isAt_of_mem_propertyViolations hj h
    · exact isAt_of_mem_here h
  | table values =>
    unfold violations at h
    rcases List.mem_append.1 h with h | h
    · split at h
      · next members _ =>
        obtain ⟨m, hm, hv⟩ := List.mem_flatMap.1 h
        have hbehind : (Json.obj members).behind? (.key m.1) = some m.2 :=
          Members.lookup_eq_some_of_mem (Json.hasPlainKeys_obj.1 hj).1 hm
        have hkeys := (Json.hasPlainKeys_of_behind? hj hbehind).2
        exact (isAt_of_mem_violations hkeys hv).of_behind? hbehind
      · contradiction
    · exact isAt_of_mem_here h

theorem isAt_of_mem_propertyViolations {properties : List (String × Schema)} {path : List Segment}
    {j : Json} {v : Violation} (hj : j.hasPlainKeys = true)
    (h : v ∈ propertyViolations path j properties) : v.IsAt path j := by
  cases properties with
  | nil => simp [propertyViolations] at h
  | cons property rest =>
    obtain ⟨name, schema⟩ := property
    rw [propertyViolations, List.mem_append] at h
    rcases h with h | h
    · split at h
      · next value hvalue =>
        have hbehind : j.behind? (.key name) = some value := hvalue
        have hkeys := (Json.hasPlainKeys_of_behind? hj hbehind).2
        exact (isAt_of_mem_violations hkeys h).of_behind? hbehind
      · contradiction
    · exact isAt_of_mem_propertyViolations hj h

end

theorem exists_names_of_mem_unexpectedCauses {properties : List (String × Schema)} {j : Json}
    {cause : Violation.Cause} (h : cause ∈ unexpectedCauses properties j) :
    ∃ names, cause = .unexpected names := by
  unfold unexpectedCauses at h
  split at h
  · simp only at h
    split at h
    · contradiction
    · exact ⟨_, List.mem_singleton.1 h⟩
  · contradiction

/-- A member is missing only from an object, which does not have it. -/
theorem get?_of_missing_mem_ownCauses {s : Schema} {j : Json} {name : String}
    (h : .missing name ∈ s.ownCauses j) :
    ∃ members, j = .obj members ∧ Members.get? members name = none := by
  have hgive := canGive_of_mem_ownCauses h
  cases s with
  | record closed required properties =>
    have hmissing : .missing name ∈ missingCauses required j := by
      rcases List.mem_append.1 h with h | h
      · rcases List.mem_append.1 h with h | h
        · split at h
          · obtain ⟨names, heq⟩ := exists_names_of_mem_unexpectedCauses h
            cases heq
          · contradiction
        · exact h
      · cases eq_of_mem_kindCauses h
    unfold missingCauses at hmissing
    split at hmissing
    · next members =>
      obtain ⟨found, hfound, heq⟩ := List.mem_map.1 hmissing
      obtain rfl : found = name := Violation.Cause.missing.inj heq
      refine ⟨members, rfl, ?_⟩
      simpa [Members.has] using (List.mem_filter.1 hfound).2
    · contradiction
  | _ => exact hgive.elim

end Schema

/-! ## Findings and fields -/

namespace Finding

/-- The segments in front of the place of the violation, in the whole document. -/
def lead (f : Finding) : List Segment :=
  match f.position with
  | none => []
  | some i => [.key "resources", .index i]

/-- A missing member has a place of its own. -/
theorem location_of_missing {f : Finding} {name : String}
    (hcause : f.violation.cause = .missing name) :
    f.location = f.violation.path ++ [.key name] := by
  simp only [location, hcause]

theorem location_of_not_missing {f : Finding}
    (hcause : ∀ name, f.violation.cause ≠ .missing name) : f.location = f.violation.path := by
  unfold location
  split
  · next name hname => exact absurd hname (hcause name)
  · rfl

theorem base_eq (f : Finding) : f.base = Text.join "." (f.lead.map Segment.text) := by
  unfold base lead
  cases f.position with
  | none => rfl
  | some i =>
    rw [← String.toList_inj]
    simp [Text.join, Segment.text]

variable {kind : DocumentKind} {doc : Json} {f : Finding}

/-- A finding has the value that stands at its place in the whole document. -/
theorem at?_of_mem_findings (hdoc : doc.hasPlainKeys = true) (hf : f ∈ kind.findings doc) :
    doc.at? (f.lead ++ f.violation.path) = some f.violation.value := by
  unfold DocumentKind.findings at hf
  rcases List.mem_append.1 hf with hf | hf
  · obtain ⟨v, hv, rfl⟩ := List.mem_map.1 hf
    obtain ⟨rest, hpath, hrest⟩ := Schema.isAt_of_mem_violations hdoc hv
    obtain rfl : v.path = rest := hpath
    exact hrest
  · cases kind with
    | resource => contradiction
    | workflow =>
      obtain ⟨⟨item, i⟩, hitem, hf⟩ := List.mem_flatMap.1 hf
      obtain ⟨v, hv, rfl⟩ := List.mem_map.1 hf
      obtain ⟨items, hitems, hitem, -⟩ := mem_inlineResources_iff.1 hitem
      have hlist : doc.behind? (.key "resources") = some (.arr items) := hitems
      have hbehind : (Json.arr items).behind? (.index i) = some item := hitem
      have hkeys : item.hasPlainKeys = true :=
        (Json.hasPlainKeys_of_behind? (Json.hasPlainKeys_of_behind? hdoc hlist).2 hbehind).2
      obtain ⟨rest, hpath, hrest⟩ := Schema.isAt_of_mem_violations hkeys hv
      obtain rfl : v.path = rest := hpath
      exact Json.at?_cons_eq_some_iff.2 ⟨_, hlist, Json.at?_cons_eq_some_iff.2 ⟨_, hbehind, hrest⟩⟩

/-- The name of a missing member is plain, being that of a part of the schema. -/
theorem isPlainKey_of_missing (hf : f ∈ kind.findings doc) {name : String}
    (hcause : f.violation.cause = .missing name) : Json.isPlainKey name = true := by
  obtain ⟨steps, s, hmem, -, -, -, hown⟩ := DocumentKind.foundAt_of_mem_findings hf
  have hrequired : name ∈ s.required :=
    Schema.mem_required_of_canGive (hcause ▸ Schema.canGive_of_mem_ownCauses hown)
  obtain ⟨part, hpart, hsteps⟩ :=
    List.mem_map.1 (DocumentKind.member_mem_parts _ _ hmem _ hrequired)
  have hplain : FieldPath.names name = [name] :=
    isPlain_of_mem_parts _ _ hpart (.member name) (by simp [hsteps])
  exact FieldPath.isPlainKey_of_mem_names (hplain ▸ List.mem_singleton_self name)

/-- The path of the value of a finding names its place in the whole document. -/
theorem place_eq (hdoc : doc.hasPlainKeys = true) (hf : f ∈ kind.findings doc) :
    f.violation.place f.base =
      Text.join "." ((f.lead ++ f.violation.path).map Segment.text) := by
  have hplain := Json.isPlainKey_of_at? hdoc (at?_of_mem_findings hdoc hf)
  rw [List.map_append] at hplain ⊢
  obtain ⟨hlead, hpath⟩ := List.forall_mem_append.1 hplain
  have hfront := Json.ne_empty_of_isPlainKey hlead
  have hback := Json.ne_empty_of_isPlainKey hpath
  have hkept : ((f.violation.path.map Segment.text).filter fun s => !s.isEmpty) =
      f.violation.path.map Segment.text := by
    rw [List.filter_eq_self]
    intro name hname
    simpa using hback name hname
  rw [Violation.place, Pointer.toFieldPath_render, hkept, base_eq,
    FieldPath.join_join_points hfront hback]

/-- The segments of a field are those of the place that the finding is about. -/
theorem segments_field (hdoc : doc.hasPlainKeys = true) (hf : f ∈ kind.findings doc) :
    FieldPath.segments f.field = (f.lead ++ f.location).map Segment.text := by
  have hplain := Json.isPlainKey_of_at? hdoc (at?_of_mem_findings hdoc hf)
  have hplace := place_eq hdoc hf
  unfold field Violation.field location
  cases hcause : f.violation.cause
  case missing name =>
    have hname : ∀ s ∈ [name], Json.isPlainKey s = true :=
      List.forall_mem_singleton.2 (isPlainKey_of_missing hf hcause)
    have hjoin := FieldPath.join_join_points (Json.ne_empty_of_isPlainKey hplain)
      (Json.ne_empty_of_isPlainKey hname)
    have hsingle : Text.join "." [name] = name := String.intercalate_singleton
    rw [hsingle] at hjoin
    simp only [hplace]
    rw [hjoin, FieldPath.segments_join_points (List.forall_mem_append.2 ⟨hplain, hname⟩)]
    simp [Segment.text]
  all_goals
    simp only [hplace]
    exact FieldPath.segments_join_points hplain

end Finding

/-! ## Diagnostics -/

/-- What a diagnostic of a document points at: the value at its field, or, about a member that is
required, an object without that member, the last segment of the field being its name. -/
structure Diagnostic.PointsAtSubject (d : Diagnostic) (doc : Json) : Prop where
  value : d.kind ≠ .required →
    ∃ v, d.value = some v ∧ doc.atNames? (FieldPath.segments d.field) = some v
  missing : d.kind = .required → d.value = none ∧ ∃ front name members,
    FieldPath.segments d.field = front ++ [name] ∧ doc.atNames? front = some (.obj members) ∧
      Members.get? members name = none ∧ ∃ added, d.message = name ++ " is required" ++ added

theorem Violation.Cause.checkKind_eq_required_iff {cause : Violation.Cause} :
    cause.checkKind = .required ↔ ∃ name, cause = .missing name := by
  cases cause <;> simp [checkKind]

namespace Finding

variable {kind : DocumentKind} {doc : Json} {f : Finding}

/-- The finding of a missing member has no value, and names the member. -/
theorem pointsAtSubject_of_missing (hdoc : doc.hasPlainKeys = true) (hf : f ∈ kind.findings doc)
    {name : String} (hcause : f.violation.cause = .missing name) :
    f.diagnostic.PointsAtSubject doc := by
  have hkind : f.diagnostic.kind = .required := congrArg Violation.Cause.checkKind hcause
  refine ⟨fun hother => absurd hkind hother, fun _ => ⟨?_, ?_⟩⟩
  · simp only [diagnostic, Violation.diagnostic, hcause]
  · obtain ⟨steps, s, -, -, -, -, hown⟩ := DocumentKind.foundAt_of_mem_findings hf
    obtain ⟨members, hobject, habsent⟩ := Schema.get?_of_missing_mem_ownCauses (hcause ▸ hown)
    have hfront := Json.atNames?_of_at? (at?_of_mem_findings hdoc hf)
    have hsegments := segments_field hdoc hf
    rw [location_of_missing hcause, ← List.append_assoc, List.map_append] at hsegments
    obtain ⟨added, hadded⟩ := f.exists_added
    have hsentence : f.sentence = name ++ " is required" := by
      simp only [sentence, Violation.sentence, hcause]
    exact ⟨_, name, members, hsegments, hobject ▸ hfront, habsent, added, hsentence ▸ hadded⟩

/-- Every other finding has the value that stands at its field. -/
theorem pointsAtSubject_of_not_missing (hdoc : doc.hasPlainKeys = true)
    (hf : f ∈ kind.findings doc) (hcause : ∀ name, f.violation.cause ≠ .missing name) :
    f.diagnostic.PointsAtSubject doc := by
  have hkind : f.diagnostic.kind ≠ .required := fun h => by
    obtain ⟨name, hname⟩ := Violation.Cause.checkKind_eq_required_iff.1 h
    exact hcause name hname
  refine ⟨fun _ => ⟨f.violation.value, ?_, ?_⟩, fun hrequired => absurd hrequired hkind⟩
  · unfold diagnostic Violation.diagnostic
    cases hname : f.violation.cause
    case missing name => exact absurd hname (hcause name)
    all_goals rfl
  · have hsegments : FieldPath.segments f.diagnostic.field =
        (f.lead ++ f.violation.path).map Segment.text :=
      location_of_not_missing hcause ▸ segments_field hdoc hf
    rw [hsegments]
    exact Json.atNames?_of_at? (at?_of_mem_findings hdoc hf)

end Finding

/-- In a document whose objects have different and plain keys, every diagnostic points at its
subject. -/
theorem DocumentKind.pointsAtSubject_of_mem_diagnoseAll {kind : DocumentKind} {doc : Json}
    (hdoc : doc.hasPlainKeys = true) : ∀ d ∈ kind.diagnoseAll doc, d.PointsAtSubject doc := by
  intro d hd
  rw [diagnoseAll_eq_map] at hd
  obtain ⟨f, hf, rfl⟩ := List.mem_map.1 hd
  by_cases hmissing : ∃ name, f.violation.cause = .missing name
  · obtain ⟨name, hcause⟩ := hmissing
    exact f.pointsAtSubject_of_missing hdoc hf hcause
  · exact f.pointsAtSubject_of_not_missing hdoc hf fun name hcause => hmissing ⟨name, hcause⟩

/-- A workflow document with a resource that has no action id, and a number for a header whose name
is written with escapes in a pointer. -/
def numberedHeader : Json :=
  .obj [("apiVersion", .str "kdeps.io/v1"), ("kind", .str "Workflow"),
    ("metadata", .obj [("name", .str "demo"), ("targetActionId", .str "a")]),
    ("resources", .arr [.obj [("metadata", .obj []),
      ("run", .obj [("httpClient", .obj [("headers", .obj [("a/b~c", .int 5)])])])]])]

theorem DocumentKind.pointsAtSubject_of_numberedHeader :
    numberedHeader.hasPlainKeys = true ∧
      (workflow.diagnoseAll numberedHeader).map (fun d => (d.field, d.kind)) =
        [("resources.0.metadata.actionId", .required),
          ("resources.0.run.httpClient.headers.a/b~c", .type)] ∧
      ∀ d ∈ workflow.diagnoseAll numberedHeader, d.PointsAtSubject numberedHeader :=
  ⟨by decide, rfl, pointsAtSubject_of_mem_diagnoseAll (by decide)⟩

end FlowCheck
