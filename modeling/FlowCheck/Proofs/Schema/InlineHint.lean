import FlowCheck.Proofs.Hints.Inline
import FlowCheck.Proofs.Schema.OwnHint

/-!
# Diagnostics of inline resources

The resources inside a workflow document are checked one by one, and each gets the diagnostics
that it gets as a document of its own, in the same order, with its position in front of the field
paths.  The sentences are the same, and so are the messages, with the exception of examples: a few
fields get others inside a workflow, or none (`DocumentKind.diagnoseAll_inline`).
-/

namespace FlowCheck

open Step (Follows)

/-! ## Fields -/

theorem FieldPath.join_assoc (front middle back : String) :
    join (join front middle) back = join front (join middle back) := by
  unfold join
  by_cases hfront : front.isEmpty = true
  · simp [hfront]
  · by_cases hmiddle : middle.isEmpty = true
    · simp [hfront, hmiddle]
    · by_cases hback : back.isEmpty = true
      · simp [hfront, hmiddle, hback]
      · simp_all [String.append_assoc]

namespace Violation

theorem place_eq_join (base : String) (v : Violation) :
    v.place base = FieldPath.join base (v.place "") := rfl

/-- The field of a violation below some path is the field itself behind the path. -/
theorem field_eq_join (base : String) (v : Violation) :
    v.field base = FieldPath.join base (v.field "") := by
  unfold field
  rw [place_eq_join base]
  cases v.cause
  case missing name => exact FieldPath.join_assoc base (v.place "") name
  all_goals rfl

end Violation

/-! ## Parts of the resource schema -/

/-- The example at the places that belong to a part is settled: by the names that lead there, or,
behind a key of a table, because no known path starts with the names in front of the key. -/
def ExampleSettled (part : List Step × Schema) : Bool :=
  match Step.names? part.1, part.1.reverse with
  | some names, _ => Example.isSettled names
  | none, .entry :: front =>
    (Step.names? front.reverse).any fun names => !names.isEmpty && !Example.leads names
  | none, _ => false

theorem exampleSettled : ∀ part ∈ Schema.resource.parts, ExampleSettled part = true := by
  decide +kernel

/-! ## Violations of resources -/

section
variable {item : Json} {v : Violation}

/-- The violation, found in a resource document. -/
def Finding.inResource (v : Violation) : Finding := ⟨.resource, none, v⟩

theorem Finding.inResource_mem (hv : v ∈ Schema.resource.violations [] item) :
    inResource v ∈ DocumentKind.resource.findings item :=
  List.mem_append_left _ (List.mem_map_of_mem hv)

/-- The names on the field path of a violation, behind those of the path in front of it. -/
theorem Violation.names_field (i : Nat) (v : Violation) :
    FieldPath.names (v.field "") = Segment.names (Finding.inResource v).location ∧
      FieldPath.names (v.field ("resources." ++ toString i)) =
        "resources" :: FieldPath.names (v.field "") := by
  have halone := (Finding.inResource v).names_field
  have hinline := (Finding.mk .resource (some i) v).names_field
  exact ⟨halone, hinline.trans (congrArg ("resources" :: ·) halone.symm)⟩

/-- A path behind a member starts with its name. -/
theorem Step.names_of_follows_member {name : String} {steps : List Step} {path : List Segment}
    (h : Follows (.member name :: steps) path) (hname : FieldPath.names name = [name]) :
    ∃ rest, Segment.names path = name :: rest := by
  cases h with
  | @cons _ segment _ path htakes _ =>
    cases segment with
    | key key =>
      obtain rfl : key = name := htakes
      refine ⟨Segment.names path, ?_⟩
      rw [Segment.names, List.flatMap_cons, Segment.text, hname]
      rfl
    | index i => exact htakes.elim

/-- A place that belongs to a part is that of the resource itself, or the path to it starts with
the name of a member. -/
theorem names_of_mem_parts {steps : List Step} {s : Schema} {path : List Segment}
    (hpart : (steps, s) ∈ Schema.resource.parts) (hfollows : Follows steps path) :
    (path = [] ∧ s = Schema.resource) ∨
      ∃ name ∈ Resource.memberNames, ∃ rest, Segment.names path = name :: rest := by
  have hplain := isPlain_of_mem_parts .resource _ hpart
  rw [Schema.resource, Schema.mem_parts_record_iff] at hpart
  rcases hpart with ⟨rfl, hs⟩ | ⟨p, hp, rest, rfl, -⟩
  · exact .inl ⟨List.forall₂_nil_left_iff.1 hfollows, hs⟩
  · have hname : p.1 ∈ Resource.memberNames := List.mem_map_of_mem (f := Prod.fst) hp
    have hmember : FieldPath.names p.1 = [p.1] := hplain (.member p.1) List.mem_cons_self
    exact .inr ⟨p.1, hname, Step.names_of_follows_member hfollows hmember⟩

/-- A field of an inline resource is at a path behind that of the resource. -/
theorem inline_of_mem_violations (hv : v ∈ Schema.resource.violations [] item) (i : Nat) :
    FieldPath.Inline (v.field ("resources." ++ toString i)) (v.field "") where
  names_eq := (v.names_field i).2
  head_mem := by
    intro name rest hnames
    obtain ⟨steps, s, hpart, hfollows⟩ :=
      DocumentKind.exists_part_of_mem_findings (Finding.inResource_mem hv)
    rw [(v.names_field i).1] at hnames
    rcases names_of_mem_parts hpart hfollows with ⟨hroot, -⟩ | ⟨first, hfirst, more, hpath⟩
    · rw [hroot] at hnames
      contradiction
    · rw [hnames] at hpath
      exact (List.cons.inj hpath).1 ▸ hfirst

/-- The examples at a place that belongs to a part are settled. -/
theorem isSettled_of_exampleSettled {steps : List Step} {s : Schema}
    (h : ExampleSettled (steps, s) = true) (hplain : ∀ step ∈ steps, step.IsPlain)
    {path : List Segment} (hfollows : Follows steps path) :
    Example.isSettled (Segment.names path) = true := by
  unfold ExampleSettled at h
  split at h
  · next names hnames => rwa [Step.names_of_follows hfollows hplain hnames]
  · next front _ hreverse =>
    obtain rfl : steps = front.reverse ++ [.entry] := List.reverse_eq_cons_iff.1 hreverse
    obtain ⟨names, hnames, hlead⟩ := (Option.any_eq_true _ _).1 h
    obtain ⟨hne, hleads⟩ := Bool.and_eq_true_iff.1 hlead
    obtain ⟨before, segment, rfl, hbefore, -⟩ := hfollows.of_append
    have hfront : Segment.names before = names :=
      Step.names_of_follows hbefore (fun s hs => hplain s (by simp at hs; simp [hs])) hnames
    have hpath : Segment.names (before ++ [segment]) =
        names ++ FieldPath.names segment.text := by
      simp [Segment.names, ← hfront]
    have hunled : Example.leads (names ++ FieldPath.names segment.text) = false := by
      rw [Bool.eq_false_iff]
      intro hled
      have hnamesLed := Example.leads_of_append (by simpa using hne) hled
      simp [hnamesLed] at hleads
    rw [hpath, Example.isSettled, hunled]
    simp
  · contradiction

theorem isSettled_of_mem_violations (hv : v ∈ Schema.resource.violations [] item) :
    Example.isSettled (FieldPath.names (v.field "")) = true := by
  obtain ⟨steps, s, hpart, hfollows⟩ :=
    DocumentKind.exists_part_of_mem_findings (Finding.inResource_mem hv)
  rw [(v.names_field 0).1]
  exact isSettled_of_exampleSettled (exampleSettled _ hpart)
    (isPlain_of_mem_parts .resource _ hpart) hfollows

/-- A value that is none of the options stands in a member of the resource. -/
theorem place_ne_empty_of_notAmong (hv : v ∈ Schema.resource.violations [] item)
    {options : List Json} (hcause : v.cause = .notAmong options) : v.place "" ≠ "" := by
  obtain ⟨steps, s, hpart, path, hpath, hfollows, hown⟩ := Schema.foundAt_of_mem_violations hv
  obtain rfl : v.path = path := hpath
  have hgive := Schema.canGive_of_mem_ownCauses hown
  rw [hcause] at hgive
  rcases names_of_mem_parts hpart hfollows with ⟨-, rfl⟩ | ⟨name, -, rest, hnames⟩
  · exact hgive.elim
  intro hempty
  have hplace := v.names_place ""
  rw [hempty, FieldPath.names_empty, List.nil_append] at hplace
  exact List.cons_ne_nil name rest (hnames.symm.trans hplace.symm)

/-- What a violation says does not depend on where the resource is. -/
theorem sentence_inline (hv : v ∈ Schema.resource.violations [] item) (base : String) :
    v.sentence base = v.sentence "" := by
  unfold Violation.sentence
  cases hcause : v.cause with
  | notAmong options =>
    have hleaf : Violation.leaf (v.field base) = Violation.leaf (v.field "") := by
      have hfield : v.field "" = v.place "" := by rw [Violation.field, hcause]
      rw [v.field_eq_join base, hfield, Violation.leaf, Violation.leaf,
        FieldPath.last_join base (place_ne_empty_of_notAmong hv hcause)]
    simp only [hleaf]
  | _ => rfl

end

/-! ## Diagnostics -/

/-- The resources that are checked inside a workflow document are its items that are objects. -/
theorem mem_inlineResources_iff {doc item : Json} {i : Nat} :
    (item, i) ∈ inlineResources doc ↔ ∃ items, doc.get? "resources" = some (.arr items) ∧
      items[i]? = some item ∧ item.kind = .object := by
  unfold inlineResources
  constructor
  · intro h
    split at h
    · next items hitems =>
      obtain ⟨hmem, hkind⟩ := List.mem_filter.1 h
      exact ⟨items, hitems, List.mk_mem_zipIdx_iff_getElem?.1 hmem, by simpa using hkind⟩
    · contradiction
  · rintro ⟨items, hitems, hitem, hkind⟩
    rw [hitems]
    exact List.mem_filter.2 ⟨List.mk_mem_zipIdx_iff_getElem?.2 hitem, by simpa using hkind⟩

/-- What the diagnostic of a violation is, in the resource at position `i` of a workflow document,
by that in the resource as a document of its own: the position stands in front of the field, and
the message is another one exactly where it shows an example that changes. -/
structure Violation.IsCarried (v : Violation) (i : Nat) : Prop where
  field : (v.diagnostic .resource ("resources." ++ toString i)).field =
    FieldPath.join ("resources." ++ toString i) (v.diagnostic .resource "").field
  kind : (v.diagnostic .resource ("resources." ++ toString i)).kind =
    (v.diagnostic .resource "").kind
  value : (v.diagnostic .resource ("resources." ++ toString i)).value =
    (v.diagnostic .resource "").value
  message : (v.diagnostic .resource ("resources." ++ toString i)).message =
      (v.diagnostic .resource "").message ↔
    ¬ (Hint.ShowsExample v.cause.category (v.sentence "") ∧
      FieldPath.normalize (v.diagnostic .resource "").field ∈ Example.changedInline)

theorem isCarried_of_mem_violations {item : Json} {v : Violation}
    (hv : v ∈ Schema.resource.violations [] item) (i : Nat) : v.IsCarried i where
  field := v.field_eq_join _
  kind := rfl
  value := rfl
  message := by
    simp only [Violation.diagnostic, sentence_inline hv ("resources." ++ toString i)]
    exact Hint.enhance_inline_eq_iff (inline_of_mem_violations hv i)
      (isSettled_of_mem_violations hv) _ _

/-- A workflow document gets its own diagnostics and then those of the resources in it that are
objects.  These are, in the same order, the diagnostics of the resources alone, each with the
position in front of its field and with the same message unless it shows an example that
changes. -/
theorem DocumentKind.diagnoseAll_inline (doc : Json) :
    workflow.diagnoseAll doc = workflow.diagnose "" doc ++
        (inlineResources doc).flatMap (fun r =>
          resource.diagnose ("resources." ++ toString r.2) r.1) ∧
      (∀ item i, (item, i) ∈ inlineResources doc ↔ ∃ items,
        doc.get? "resources" = some (.arr items) ∧ items[i]? = some item ∧
          item.kind = .object) ∧
      ∀ item i, (item, i) ∈ inlineResources doc →
        resource.diagnoseAll item =
            (Schema.resource.violations [] item).map (Violation.diagnostic resource "") ∧
          resource.diagnose ("resources." ++ toString i) item =
            (Schema.resource.violations [] item).map
              (Violation.diagnostic resource ("resources." ++ toString i)) ∧
          ∀ v ∈ Schema.resource.violations [] item, v.IsCarried i := by
  refine ⟨rfl, fun item i => mem_inlineResources_iff, fun item i _ => ⟨?_, rfl, ?_⟩⟩
  · exact List.append_nil _
  · exact fun v hv => isCarried_of_mem_violations hv i

/-- A resource that gives a number for the file of a script. -/
def numberedScript : Json :=
  .obj [("metadata", .obj [("actionId", .str "a")]),
    ("run", .obj [("python", .obj [("scriptFile", .int 5)])])]

/-- A workflow document with nothing but that resource. -/
def numberedScriptWorkflow : Json :=
  .obj [("apiVersion", .str "kdeps.io/v1"), ("kind", .str "Workflow"),
    ("metadata", .obj [("name", .str "demo"), ("targetActionId", .str "a")]),
    ("resources", .arr [numberedScript])]

theorem DocumentKind.example_of_scriptFile :
    workflow.diagnoseAll numberedScriptWorkflow =
        [{ field := "resources.0.run.python.scriptFile", kind := .type, value := some (.int 5)
           message := "Invalid type. Expected: string, given: integer. Expected type: string" ++
            ". Example: \"print('Hello, World!')\"" }] ∧
      resource.diagnoseAll numberedScript =
        [{ field := "run.python.scriptFile", kind := .type, value := some (.int 5)
           message := "Invalid type. Expected: string, given: integer. Expected type: string" ++
            ". Example: \"script.py\"" }] := by
  exact ⟨rfl, rfl⟩

end FlowCheck
