import FlowCheck.Project.Load
import FlowCheck.Proofs.Json.Sameness
import FlowCheck.Proofs.Model.AddedResource

/-!
# Resources inside a workflow file and beside it

A resource can stand in the workflow file or in a file of its own.  Both projects are loaded alike
(`Project.load_iff_of_addsResource`): the one file is checked and read as a whole, the two files one
by one, and either way it comes down to the same document and the same resource.
-/

namespace FlowCheck

open Wire (Codec bind_eq_ok_iff)

theorem mapError_eq_ok_iff {α ε δ : Type} {x : Except ε α} {f : ε → δ} {a : α} :
    x.mapError f = .ok a ↔ x = .ok a := by
  cases x <;> simp [Except.mapError]

theorem mapError_eq_error_iff {α ε δ : Type} {x : Except ε α} {f : ε → δ} {d : δ} :
    x.mapError f = .error d ↔ ∃ e, x = .error e ∧ f e = d := by
  cases x <;> simp [Except.mapError]

/-! ## Typed documents -/

namespace Document

/-- A document is read when the schema, if there is one, accepts it, and its codec reads it. -/
theorem read_eq_ok_iff {α : Type} {c : Codec α} {kind : DocumentKind} {withSchema : Bool}
    {path : String} {doc : Json} {a : α} : read c kind withSchema path doc = .ok a ↔
      (withSchema = true → kind.check doc = .ok ()) ∧ c.read .inPlace doc = .ok a := by
  unfold read
  cases withSchema with
  | false => simp [mapError_eq_ok_iff]
  | true =>
    change (kind.check doc >>= fun _ => (c.read .inPlace doc).mapError _) = .ok a ↔ _
    rw [bind_eq_ok_iff]
    simp only [mapError_eq_ok_iff]
    constructor
    · rintro ⟨⟨⟩, hcheck, hread⟩
      exact ⟨fun _ => hcheck, hread⟩
    · rintro ⟨hcheck, hread⟩
      exact ⟨(), hcheck trivial, hread⟩

theorem ofText_eq_ok_iff {path text : String} {doc : Json} :
    ofText path text = .ok doc ↔ Yaml.read text = .ok doc :=
  mapError_eq_ok_iff

end Document

/-- There is a file at the path, and its text stands for the document. -/
def Files.Holds (files : Files) (path : String) (doc : Json) : Prop :=
  ∃ text, files.read path = .ok text ∧ Yaml.read text = .ok doc

namespace Project

variable {files : Files} {withSchema : Bool} {path : String} {doc : Json}

/-- The text of a file that holds a document is read as that document. -/
theorem readText_eq_ok {text : String} (h : files.read path = .ok text) :
    readText files path = .ok text := by
  rw [readText, h]
  rfl

theorem loadResource_eq_ok_iff (h : files.Holds path doc) {r : Resource} :
    loadResource files withSchema path = .ok r ↔
      (withSchema = true → DocumentKind.resource.check doc = .ok ()) ∧
        Resource.codec.read .inPlace doc = .ok r := by
  obtain ⟨text, htext, hdoc⟩ := h
  have hof : Document.ofText path text = .ok doc := Document.ofText_eq_ok_iff.2 hdoc
  unfold loadResource Document.resourceOfText
  rw [readText_eq_ok htext]
  simp only [bind, Except.bind, hof]
  exact Document.read_eq_ok_iff

theorem load_eq_ok_iff (h : files.Holds path doc) {w : Workflow} :
    load files withSchema path = .ok w ↔ ∃ own further,
      ((withSchema = true → DocumentKind.workflow.check doc = .ok ()) ∧
        Workflow.codec.read .inPlace doc = .ok own) ∧
      loadResources files withSchema (resourceDirectory path) = .ok further ∧
      w = { own with resources := own.resources ++ further } := by
  obtain ⟨text, htext, hdoc⟩ := h
  have hof : Document.ofText path text = .ok doc := Document.ofText_eq_ok_iff.2 hdoc
  have hown : Document.workflowOfText withSchema path text =
      Document.readWorkflow withSchema path doc := by
    unfold Document.workflowOfText
    rw [hof]
    rfl
  unfold load
  simp only [readText_eq_ok htext, bind_eq_ok_iff, Except.ok.injEq, exists_eq_left', hown,
    Document.readWorkflow, Document.read_eq_ok_iff, pure, Except.pure]
  constructor
  · rintro ⟨own, hread, further, hfurther, rfl⟩
    exact ⟨own, further, hread, hfurther, rfl⟩
  · rintro ⟨own, further, hread, hfurther, rfl⟩
    exact ⟨own, hread, further, hfurther, rfl⟩

/-- The workflow in a file by itself. -/
def loadOwn (files : Files) (withSchema : Bool) (path : String) : Except Fault Workflow :=
  readText files path >>= Document.workflowOfText withSchema path

/-- Loading adds the resources of the directory to the workflow in the file. -/
theorem load_eq (files : Files) (withSchema : Bool) (path : String) :
    load files withSchema path = (do
      let own ← loadOwn files withSchema path
      let further ← loadResources files withSchema (resourceDirectory path)
      pure { own with resources := own.resources ++ further }) := by
  unfold load loadOwn
  rw [bind_assoc]

/-- What is wrong with the document of a workflow file is wrong with the whole project. -/
theorem loadValid_eq_error_of_check {f : Fault} (h : files.Holds path doc)
    (hcheck : DocumentKind.workflow.check doc = .error f) :
    loadValid files true path = .error f := by
  obtain ⟨text, htext, hdoc⟩ := h
  have hof : Document.ofText path text = .ok doc := Document.ofText_eq_ok_iff.2 hdoc
  have hown : loadOwn files true path = .error f := by
    unfold loadOwn Document.workflowOfText Document.readWorkflow Document.read
    simp only [readText_eq_ok htext, hof, hcheck, bind, Except.bind, if_true]
  rw [loadValid, load_eq, hown]
  rfl

/-! ## Projects of one resource -/

/-- The project is a workflow file with this document, and there is no directory of resources. -/
structure IsFile (files : Files) (path : String) (doc : Json) : Prop where
  document : files.Holds path doc
  noDirectory : files.entries? (resourceDirectory path) = none

/-- The project is a workflow file with this document, and the only resource file beside it holds
the resource. -/
structure HasResourceFile (files : Files) (path : String) (doc resource : Json) : Prop where
  document : files.Holds path doc
  resource : ∃ entries name, files.entries? (resourceDirectory path) = some entries ∧
    entries.filter (fun e => e.isFile && isResourceName e.name) = [⟨name, true⟩] ∧
      files.Holds (Path.join (resourceDirectory path) name) resource

theorem load_eq_ok_iff_of_isFile (h : IsFile files path doc) {w : Workflow} :
    load files withSchema path = .ok w ↔
      (withSchema = true → DocumentKind.workflow.check doc = .ok ()) ∧
        Workflow.codec.read .inPlace doc = .ok w := by
  have hnone : loadResources files withSchema (resourceDirectory path) = .ok [] := by
    rw [loadResources, h.noDirectory]
  rw [load_eq_ok_iff h.document]
  constructor
  · rintro ⟨own, further, hread, hfurther, rfl⟩
    obtain rfl := Except.ok.inj (hnone.symm.trans hfurther)
    rw [List.append_nil]
    exact hread
  · intro hread
    refine ⟨w, [], hread, hnone, ?_⟩
    rw [List.append_nil]

/-- A workflow file without a directory beside it is valid when its document is. -/
theorem loadValid_eq_ok_iff_of_isFile (h : IsFile files path doc) {w : Workflow} :
    loadValid files withSchema path = .ok w ↔ Document.readValid withSchema doc = .ok w := by
  unfold loadValid Document.readValid Document.readWorkflow
  simp only [bind_eq_ok_iff, load_eq_ok_iff_of_isFile h, Document.read_eq_ok_iff]

theorem loadResources_eq_ok_iff {resource : Json} (h : HasResourceFile files path doc resource)
    {further : List Resource} :
    loadResources files withSchema (resourceDirectory path) = .ok further ↔ ∃ r,
      ((withSchema = true → DocumentKind.resource.check resource = .ok ()) ∧
        Resource.codec.read .inPlace resource = .ok r) ∧ further = [r] := by
  obtain ⟨entries, name, hentries, hfiles, hholds⟩ := h.resource
  have hnames : resourceNames entries = [name] := by
    rw [resourceNames, hfiles, List.map_singleton, List.mergeSort_singleton]
  have hone : loadResources files withSchema (resourceDirectory path) =
      [name].mapM (loadEntry files withSchema (resourceDirectory path)) := by
    rw [loadResources, hentries]
    simp only [hnames]
  rw [hone, List.mapM_cons, List.mapM_nil]
  simp only [bind_eq_ok_iff, loadEntry, mapError_eq_ok_iff, loadResource_eq_ok_iff hholds, pure,
    Except.pure, Except.ok.injEq, exists_eq_left']
  exact exists_congr fun r => and_congr_right fun _ => eq_comm

/-- A resource at the end of the workflow file and the same resource in a file of its own: loading
succeeds for both projects or for neither, with the same workflow. -/
theorem load_iff_of_addsResource {files' : Files} {doc' resource : Json}
    (h : Json.AddsResource resource doc doc') (hinside : IsFile files path doc')
    (hbeside : HasResourceFile files' path doc resource) (withSchema : Bool) (w : Workflow) :
    load files withSchema path = .ok w ↔ load files' withSchema path = .ok w := by
  have hcheck : (withSchema = true → DocumentKind.workflow.check doc' = .ok ()) ↔
      (withSchema = true → DocumentKind.workflow.check doc = .ok ()) ∧
        (withSchema = true → DocumentKind.resource.check resource = .ok ()) := by
    rw [DocumentKind.check_iff_of_addsResource h, imp_and]
  rw [load_eq_ok_iff_of_isFile hinside, load_eq_ok_iff hbeside.document, hcheck,
    Workflow.read_iff_of_addsResource h]
  simp only [loadResources_eq_ok_iff hbeside]
  constructor
  · rintro ⟨⟨hdoc, hresource⟩, own, r, hown, hr, rfl⟩
    exact ⟨own, [r], ⟨hdoc, hown⟩, ⟨r, ⟨hresource, hr⟩, rfl⟩, rfl⟩
  · rintro ⟨own, further, ⟨hdoc, hown⟩, ⟨r, ⟨hresource, hr⟩, rfl⟩, rfl⟩
    exact ⟨⟨hdoc, hresource⟩, own, r, hown, hr, rfl⟩

/-! ### One resource inside and beside -/

/-- A workflow file with a resource in it. -/
def demoInside : Files where
  read path := if path = "workflow.yaml" then .ok "resources: [{kind: R}]" else .error .missing
  entries? _ := none

/-- A workflow file without resources, and the resource in a file beside it. -/
def demoBeside : Files where
  read path :=
    if path = "workflow.yaml" then .ok "resources: []"
    else if path = "resources/a.yaml" then .ok "kind: R"
    else .error .missing
  entries? path := if path = "resources" then some [⟨"a.yaml", true⟩] else none

theorem load_demo : ∃ w, load demoInside false "workflow.yaml" = .ok w ∧
    load demoBeside false "workflow.yaml" = .ok w := by
  have hdirectory : resourceDirectory "workflow.yaml" = "resources" := by decide +kernel
  have hinside : IsFile demoInside "workflow.yaml"
      (.obj [("resources", .arr [.obj [("kind", .str "R")]])]) :=
    ⟨⟨_, rfl, by decide +kernel⟩, rfl⟩
  have hbeside : HasResourceFile demoBeside "workflow.yaml" (.obj [("resources", .arr [])])
      (.obj [("kind", .str "R")]) := by
    have hpath : Path.join "resources" "a.yaml" = "resources/a.yaml" := by decide +kernel
    refine ⟨⟨_, rfl, by decide +kernel⟩, [⟨"a.yaml", true⟩], "a.yaml", ?_, rfl, "kind: R", ?_,
      by decide +kernel⟩
    · rw [hdirectory]
      rfl
    · rw [hdirectory, hpath]
      rfl
  obtain ⟨w, hw⟩ : ∃ w, Workflow.codec.read .inPlace
      (.obj [("resources", .arr [.obj [("kind", .str "R")]])]) = .ok w := ⟨_, rfl⟩
  have hload : load demoInside false "workflow.yaml" = .ok w :=
    (load_eq_ok_iff_of_isFile hinside).2 ⟨fun h => absurd h Bool.false_ne_true, hw⟩
  exact ⟨w, hload, (load_iff_of_addsResource (.object rfl) hinside hbeside false w).1 hload⟩

end Project
end FlowCheck
