import FlowCheck.Proofs.Project.Load
import FlowCheck.Proofs.Schema.Allowed

/-!
# The schema as a filter

Whatever can be read with a schema check can be read without one.  The two runs over a document, a
text or a project go step by step in parallel: the strict one stops at the first document that
violates its schema, and up to there they do the same (`Filtered.bind`, `Filtered.mapM`).  So the
check changes nothing that it lets through, hides no failure behind it, and what it lets through is
exactly what has no violation in any of its documents (`filtered_by_schema`).

## Main definitions

* `Filtered` : how the outcome under a filter stands to the outcome without it
* `Project.SatisfiesSchemas` : every document of a project satisfies the schema of its kind
-/

namespace FlowCheck

open Wire (Codec bind_eq_ok_iff)

/-- The fault is a violation of a schema, in the document itself or in a resource file. -/
def Fault.IsViolation : Fault → Prop
  | schemaViolated _ found => found.errors ≠ []
  | resourceFile _ source => source.IsViolation
  | _ => False

/-- The outcome `strict` is the outcome `free` under a filter, which lets pass what `passes`. -/
structure Filtered {α : Type} (passes : Prop) (strict free : Except Fault α) : Prop where
  /-- What comes through the filter is unchanged, and all that passes comes through. -/
  ok_iff : ∀ a, strict = .ok a ↔ free = .ok a ∧ passes
  /-- No failure is hidden. -/
  error_of_error : ∀ f, free = .error f → ∃ g, strict = .error g
  /-- A failure is the same one, or a violation of a schema. -/
  eq_or_violation : strict = free ∨ ∃ f, strict = .error f ∧ f.IsViolation

namespace Filtered

variable {α β : Type} {passes : Prop} {strict free : Except Fault α}

/-- That no failure is hidden follows from what comes through. -/
theorem of_ok_iff (hok : ∀ a, strict = .ok a ↔ free = .ok a ∧ passes)
    (hor : strict = free ∨ ∃ f, strict = .error f ∧ f.IsViolation) :
    Filtered passes strict free where
  ok_iff := hok
  error_of_error f hfree := by
    cases hstrict : strict with
    | error g => exact ⟨g, rfl⟩
    | ok a =>
      have hok : free = .ok a := ((hok a).1 hstrict).1
      rw [hfree] at hok
      contradiction
  eq_or_violation := hor

theorem refl (x : Except Fault α) : Filtered True x x :=
  of_ok_iff (fun _ => (and_iff_left trivial).symm) (.inl rfl)

/-- What passes has to be known only for what is there without the filter. -/
theorem congr {passes' : Prop} (h : Filtered passes strict free)
    (hiff : ∀ a, free = .ok a → (passes ↔ passes')) : Filtered passes' strict free :=
  of_ok_iff (fun a => (h.ok_iff a).trans (and_congr_right (hiff a))) h.eq_or_violation

/-- Two filtered steps in a row: the second one counts where the first one succeeds. -/
theorem bind {passesNext : α → Prop} {strictNext freeNext : α → Except Fault β}
    (h : Filtered passes strict free)
    (hnext : ∀ a, free = .ok a → Filtered (passesNext a) (strictNext a) (freeNext a)) :
    Filtered (passes ∧ ∀ a, free = .ok a → passesNext a)
      (strict >>= strictNext) (free >>= freeNext) := by
  refine of_ok_iff (fun b => ?_) ?_
  · rw [bind_eq_ok_iff, bind_eq_ok_iff]
    constructor
    · rintro ⟨a, hstrict, hb⟩
      obtain ⟨hfree, hpasses⟩ := (h.ok_iff a).1 hstrict
      obtain ⟨hb, hpassesNext⟩ := ((hnext a hfree).ok_iff b).1 hb
      refine ⟨⟨a, hfree, hb⟩, hpasses, fun a' hfree' => ?_⟩
      obtain rfl : a = a' := Except.ok.inj (hfree.symm.trans hfree')
      exact hpassesNext
    · rintro ⟨⟨a, hfree, hb⟩, hpasses, hpassesNext⟩
      exact ⟨a, (h.ok_iff a).2 ⟨hfree, hpasses⟩,
        ((hnext a hfree).ok_iff b).2 ⟨hb, hpassesNext a hfree⟩⟩
  · rcases h.eq_or_violation with heq | ⟨f, hstrict, hf⟩
    · rw [heq]
      cases hfree : free with
      | error f => exact .inl rfl
      | ok a => exact (hnext a hfree).eq_or_violation
    · exact .inr ⟨f, by rw [hstrict]; rfl, hf⟩

/-- A fault wrapped as that of a resource file is the same kind of fault. -/
theorem mapError_resourceFile (h : Filtered passes strict free) (path : String) :
    Filtered passes (strict.mapError (.resourceFile path))
      (free.mapError (.resourceFile path)) := by
  refine of_ok_iff (fun a => ?_) ?_
  · rw [mapError_eq_ok_iff, mapError_eq_ok_iff]
    exact h.ok_iff a
  · rcases h.eq_or_violation with heq | ⟨f, hstrict, hf⟩
    · exact .inl (congrArg _ heq)
    · exact .inr ⟨.resourceFile path f, by rw [hstrict]; rfl, hf⟩

/-- A row of filtered steps. -/
theorem mapM {passes : α → Prop} {strict free : α → Except Fault β} {xs : List α}
    (h : ∀ x ∈ xs, Filtered (passes x) (strict x) (free x)) :
    Filtered (∀ x ∈ xs, passes x) (xs.mapM strict) (xs.mapM free) := by
  induction xs with
  | nil => exact (refl (.ok [])).congr fun _ _ => by simp
  | cons x xs ih =>
    obtain ⟨hx, hxs⟩ := List.forall_mem_cons.1 h
    rw [List.mapM_cons, List.mapM_cons]
    have hrow := hx.bind fun y _ => (ih hxs).bind fun ys _ => refl (pure (y :: ys))
    refine hrow.congr fun ys hys => ?_
    obtain ⟨y, hy, -⟩ := bind_eq_ok_iff.1 hys
    simp only [hy, Except.ok.injEq, forall_eq', implies_true, and_true, List.forall_mem_cons]

end Filtered

/-! ## Documents and texts -/

/-- A check succeeds or finds violations. -/
theorem DocumentKind.check_filtered (kind : DocumentKind) (doc : Json) :
    Filtered (kind.check doc = .ok ()) (kind.check doc) (.ok ()) := by
  refine .of_ok_iff (fun _ => ⟨fun h => ⟨rfl, h⟩, fun h => h.2⟩) ?_
  by_cases hfound : kind.diagnoseAll doc = []
  · exact .inl (check_eq_ok_iff.2 hfound)
  · exact .inr ⟨_, check_eq_error hfound, hfound⟩

namespace Document

theorem read_filtered {α : Type} (c : Codec α) (kind : DocumentKind) (path : String) (doc : Json) :
    Filtered (kind.check doc = .ok ()) (read c kind true path doc)
      (read c kind false path doc) := by
  have hread := (kind.check_filtered doc).bind fun _ _ =>
    Filtered.refl ((c.read .inPlace doc).mapError fun p => Fault.unreadable path p.message)
  exact hread.congr fun _ _ => by simp

/-- A text is read by way of the document that it stands for. -/
theorem ofText_filtered {α : Type} {kind : DocumentKind} {path text : String}
    {strict free : Json → Except Fault α}
    (h : ∀ doc, Filtered (kind.check doc = .ok ()) (strict doc) (free doc)) :
    Filtered (∀ doc, Yaml.read text = .ok doc → kind.check doc = .ok ())
      (ofText path text >>= strict) (ofText path text >>= free) := by
  have htext := (Filtered.refl (ofText path text)).bind fun doc _ => h doc
  exact htext.congr fun _ _ => by simp only [true_and, ofText_eq_ok_iff]

theorem workflowOfText_filtered (path text : String) :
    Filtered (∀ doc, Yaml.read text = .ok doc → DocumentKind.workflow.check doc = .ok ())
      (workflowOfText true path text) (workflowOfText false path text) :=
  ofText_filtered fun doc => read_filtered _ _ path doc

theorem resourceOfText_filtered (path text : String) :
    Filtered (∀ doc, Yaml.read text = .ok doc → DocumentKind.resource.check doc = .ok ())
      (resourceOfText true path text) (resourceOfText false path text) :=
  ofText_filtered fun doc => read_filtered _ _ path doc

/-- The rules behind reading do not know of the filter. -/
theorem readValid_filtered (doc : Json) : Filtered (DocumentKind.workflow.check doc = .ok ())
    (readValid true doc) (readValid false doc) := by
  have hread := (read_filtered Workflow.codec .workflow "<document>" doc).bind fun w _ =>
    Filtered.refl (w.check >>= fun _ => pure w)
  exact hread.congr fun _ _ => by simp

end Document

/-! ## Projects -/

namespace Project

/-- Every document of a project satisfies the schema of its kind. -/
structure SatisfiesSchemas (files : Files) (path : String) : Prop where
  workflow : ∀ doc, files.Holds path doc → DocumentKind.workflow.check doc = .ok ()
  resources : ∀ entries, files.entries? (resourceDirectory path) = some entries →
    ∀ name ∈ resourceNames entries, ∀ doc,
      files.Holds (Path.join (resourceDirectory path) name) doc →
        DocumentKind.resource.check doc = .ok ()

variable {files : Files}

theorem readText_eq_ok_iff {path text : String} :
    readText files path = .ok text ↔ files.read path = .ok text :=
  mapError_eq_ok_iff

/-- A file is read by way of its text. -/
theorem readText_filtered {α : Type} {kind : DocumentKind} {path : String}
    {strict free : String → Except Fault α}
    (h : ∀ text, Filtered (∀ doc, Yaml.read text = .ok doc → kind.check doc = .ok ())
      (strict text) (free text)) :
    Filtered (∀ doc, files.Holds path doc → kind.check doc = .ok ())
      (readText files path >>= strict) (readText files path >>= free) := by
  have hfile := (Filtered.refl (readText files path)).bind fun text _ => h text
  refine hfile.congr fun _ _ => ?_
  simp only [true_and, readText_eq_ok_iff, Files.Holds]
  constructor
  · rintro hall doc ⟨text, htext, hdoc⟩
    exact hall text htext doc hdoc
  · intro hall text htext doc hdoc
    exact hall doc ⟨text, htext, hdoc⟩

theorem loadEntry_filtered (directory name : String) :
    Filtered (∀ doc, files.Holds (Path.join directory name) doc →
        DocumentKind.resource.check doc = .ok ())
      (loadEntry files true directory name) (loadEntry files false directory name) :=
  (readText_filtered fun text => Document.resourceOfText_filtered _ text).mapError_resourceFile _

theorem loadResources_filtered (files : Files) (directory : String) :
    Filtered (∀ entries, files.entries? directory = some entries →
        ∀ name ∈ resourceNames entries, ∀ doc, files.Holds (Path.join directory name) doc →
          DocumentKind.resource.check doc = .ok ())
      (loadResources files true directory) (loadResources files false directory) := by
  unfold loadResources
  cases files.entries? directory with
  | none => exact (Filtered.refl _).congr fun _ _ => by simp
  | some entries =>
    have hrow : Filtered _ ((resourceNames entries).mapM (loadEntry files true directory))
        ((resourceNames entries).mapM (loadEntry files false directory)) :=
      .mapM fun name _ => loadEntry_filtered directory name
    exact hrow.congr fun _ _ => by simp

theorem load_filtered (files : Files) (path : String) :
    Filtered (SatisfiesSchemas files path) (load files true path) (load files false path) := by
  have hown : Filtered _ (loadOwn files true path) (loadOwn files false path) :=
    readText_filtered fun text => Document.workflowOfText_filtered path text
  have hall := hown.bind fun own _ =>
    (loadResources_filtered files (resourceDirectory path)).bind fun further _ =>
      Filtered.refl (pure { own with resources := own.resources ++ further })
  rw [load_eq, load_eq]
  refine hall.congr fun w hw => ?_
  obtain ⟨own, hfree, -⟩ := bind_eq_ok_iff.1 hw
  simp only [hfree, Except.ok.injEq, forall_eq', implies_true, and_true]
  exact ⟨fun h => ⟨h.1, h.2⟩, fun h => ⟨h.workflow, h.resources⟩⟩

theorem loadValid_filtered (files : Files) (path : String) :
    Filtered (SatisfiesSchemas files path) (loadValid files true path)
      (loadValid files false path) := by
  have hvalid := (load_filtered files path).bind fun w _ =>
    Filtered.refl (w.check >>= fun _ => pure w)
  exact hvalid.congr fun _ _ => by simp

end Project

/-- The schema check is a filter: on projects, on workflow documents, and on the texts of workflows
and resources. -/
theorem filtered_by_schema :
    (∀ files path, Filtered (Project.SatisfiesSchemas files path)
      (Project.loadValid files true path) (Project.loadValid files false path)) ∧
    (∀ doc, Filtered (DocumentKind.workflow.check doc = .ok ())
      (Document.readValid true doc) (Document.readValid false doc)) ∧
    (∀ path text, Filtered
      (∀ doc, Yaml.read text = .ok doc → DocumentKind.workflow.check doc = .ok ())
      (Document.workflowOfText true path text) (Document.workflowOfText false path text)) ∧
    ∀ path text, Filtered
      (∀ doc, Yaml.read text = .ok doc → DocumentKind.resource.check doc = .ok ())
      (Document.resourceOfText true path text) (Document.resourceOfText false path text) :=
  ⟨Project.loadValid_filtered, Document.readValid_filtered, Document.workflowOfText_filtered,
    Document.resourceOfText_filtered⟩

end FlowCheck
