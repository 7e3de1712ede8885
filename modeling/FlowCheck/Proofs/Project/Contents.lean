import FlowCheck.Proofs.Project.Load
import FlowCheck.Proofs.Text.ByteOrder

/-!
# What is in the directory of resources

A directory lists its entries in any order, and among them may be anything.  What is loaded depends
on the regular files whose names end in `.yaml` or `.yml`, in the order of the bytes of their names,
and on the texts of these files (`Project.load_of_contents`): each of them gives a resource behind
those of the workflow file, and the least of those that cannot be read is the one that is reported.
-/

namespace FlowCheck

open Wire (bind_eq_ok_iff bind_eq_error_iff mapM_eq_ok_iff_forall₂ mapM_eq_error_iff
  mapM_congr_of_mem exists_forall₂_iff)

/-- A regular file whose name ends in `.yaml` or `.yml`. -/
def Entry.IsResourceFile (e : Entry) : Prop :=
  e.isFile = true ∧ (".yaml".toList <:+ e.name.toList ∨ ".yml".toList <:+ e.name.toList)

instance : DecidablePred Entry.IsResourceFile := fun e =>
  inferInstanceAs (Decidable (e.isFile = true ∧ _))

namespace Project

variable {files files' : Files} {withSchema : Bool} {path : String}

/-! ## Names of resource files -/

/-- The names of the resource files beside a workflow file, as the directory lists them. -/
def listed (files : Files) (path : String) : List String :=
  (((files.entries? (resourceDirectory path)).getD []).filter (·.IsResourceFile)).map Entry.name

/-- These names in order. -/
def resourceFiles (files : Files) (path : String) : List String :=
  resourceNames ((files.entries? (resourceDirectory path)).getD [])

theorem isResourceFile_iff {e : Entry} :
    e.IsResourceFile ↔ (e.isFile && isResourceName e.name) = true := by
  unfold Entry.IsResourceFile isResourceName Path.hasEnding
  rw [Bool.and_eq_true, Bool.or_eq_true, List.isSuffixOf_iff_suffix, List.isSuffixOf_iff_suffix]

theorem resourceFiles_eq (files : Files) (path : String) :
    resourceFiles files path = (listed files path).mergeSort fun a b => decide (a ≤ b) := by
  unfold resourceFiles resourceNames listed
  simp only [isResourceFile_iff, Bool.decide_eq_true]

theorem resourceFiles_perm (files : Files) (path : String) :
    (resourceFiles files path).Perm (listed files path) := by
  rw [resourceFiles_eq]
  exact List.mergeSort_perm _ _

/-- The names are in the order of their bytes. -/
theorem resourceFiles_sorted (files : Files) (path : String) :
    (resourceFiles files path).Pairwise fun a b => Text.bytes a ≤ Text.bytes b := by
  have hsorted := @List.pairwise_mergeSort _ (fun a b : String => decide (a ≤ b))
    (fun a b c hab hbc => by simpa using le_trans (by simpa using hab) (by simpa using hbc))
    (fun a b => by simpa using le_total a b) (listed files path)
  rw [resourceFiles_eq]
  exact hsorted.imp fun h => Text.bytes_le_bytes_iff.2 (by simpa using h)

theorem eq_of_bytes_le {a b : String} (hab : Text.bytes a ≤ Text.bytes b)
    (hba : Text.bytes b ≤ Text.bytes a) : a = b :=
  Text.bytes_injective (le_antisymm hab hba)

/-- The order in which a directory lists its entries does not matter. -/
theorem resourceFiles_congr (h : (listed files path).Perm (listed files' path)) :
    resourceFiles files path = resourceFiles files' path := by
  have hperm : (resourceFiles files path).Perm (resourceFiles files' path) :=
    ((resourceFiles_perm files path).trans h).trans (resourceFiles_perm files' path).symm
  exact hperm.eq_of_pairwise (fun _ _ _ _ => eq_of_bytes_le) (resourceFiles_sorted files path)
    (resourceFiles_sorted files' path)

/-! ## Loading the files -/

/-- The path of a resource file. -/
def resourcePath (path name : String) : String := Path.join (resourceDirectory path) name

theorem loadResources_eq (files : Files) (withSchema : Bool) (path : String) :
    loadResources files withSchema (resourceDirectory path) =
      (resourceFiles files path).mapM (loadEntry files withSchema (resourceDirectory path)) := by
  unfold loadResources resourceFiles
  cases files.entries? (resourceDirectory path) with
  | none => simp [resourceNames, pure, Except.pure]
  | some entries => rfl

theorem loadEntry_eq_ok_iff {name : String} {r : Resource} :
    loadEntry files withSchema (resourceDirectory path) name = .ok r ↔
      loadResource files withSchema (resourcePath path name) = .ok r :=
  mapError_eq_ok_iff

theorem loadEntry_eq_error_iff {name : String} {f : Fault} :
    loadEntry files withSchema (resourceDirectory path) name = .error f ↔
      ∃ source, loadResource files withSchema (resourcePath path name) = .error source ∧
        .resourceFile (resourcePath path name) source = f :=
  mapError_eq_error_iff

/-- What is loaded from a path depends on the text at the path. -/
theorem loadResource_congr {place : String} (h : files.read place = files'.read place) :
    loadResource files withSchema place = loadResource files' withSchema place := by
  unfold loadResource readText
  rw [h]

theorem loadOwn_congr (h : files.read path = files'.read path) :
    loadOwn files withSchema path = loadOwn files' withSchema path := by
  unfold loadOwn readText
  rw [h]

/-- Two projects have the same contents, as far as loading is concerned. -/
structure SameContents (files files' : Files) (path : String) : Prop where
  workflow : files.read path = files'.read path
  names : (listed files path).Perm (listed files' path)
  texts : ∀ name ∈ listed files path,
    files.read (resourcePath path name) = files'.read (resourcePath path name)

theorem SameContents.load_eq (h : SameContents files files' path) (withSchema : Bool) :
    load files withSchema path = load files' withSchema path := by
  have hentry : ∀ name ∈ resourceFiles files path,
      loadEntry files withSchema (resourceDirectory path) name =
        loadEntry files' withSchema (resourceDirectory path) name := by
    intro name hname
    have hlisted : name ∈ listed files path := (resourceFiles_perm files path).mem_iff.1 hname
    exact congrArg (Except.mapError _) (loadResource_congr (h.texts name hlisted))
  have hfurther : loadResources files withSchema (resourceDirectory path) =
      loadResources files' withSchema (resourceDirectory path) := by
    rw [loadResources_eq, loadResources_eq, ← resourceFiles_congr h.names]
    exact mapM_congr_of_mem hentry
  rw [Project.load_eq, Project.load_eq, loadOwn_congr h.workflow, hfurther]

/-- The resources of the files are loaded one by one, in order. -/
theorem loadResources_eq_ok_iff_forall₂ {further : List Resource} :
    loadResources files withSchema (resourceDirectory path) = .ok further ↔
      List.Forall₂ (fun name r => loadResource files withSchema (resourcePath path name) = .ok r)
        (resourceFiles files path) further := by
  rw [loadResources_eq, mapM_eq_ok_iff_forall₂]
  simp only [loadEntry_eq_ok_iff]

/-- The name is that of the least resource file that cannot be loaded, and the fault says so. -/
def FailsAt (files : Files) (withSchema : Bool) (path name : String) (f : Fault) : Prop :=
  (∃ source, loadResource files withSchema (resourcePath path name) = .error source ∧
    f = .resourceFile (resourcePath path name) source) ∧
  ∀ other ∈ listed files path,
    (∃ g, loadResource files withSchema (resourcePath path other) = .error g) →
      Text.bytes name ≤ Text.bytes other

theorem loadResources_eq_error_iff {f : Fault} :
    loadResources files withSchema (resourceDirectory path) = .error f ↔
      ∃ name ∈ listed files path, FailsAt files withSchema path name f := by
  have hfails (name : String) :
      (∃ g, loadEntry files withSchema (resourceDirectory path) name = .error g) ↔
        ∃ g, loadResource files withSchema (resourcePath path name) = .error g := by
    simp only [loadEntry_eq_error_iff]
    constructor
    · rintro ⟨-, source, hsource, -⟩
      exact ⟨source, hsource⟩
    · rintro ⟨source, hsource⟩
      exact ⟨_, source, hsource, rfl⟩
  rw [loadResources_eq, mapM_eq_error_iff (fun a b => Text.bytes a ≤ Text.bytes b)
    (fun _ => le_rfl) (fun _ _ => eq_of_bytes_le) (resourceFiles_sorted files path)]
  simp only [(resourceFiles_perm files path).mem_iff, hfails, FailsAt]
  simp only [loadEntry_eq_error_iff, eq_comm (a := f)]

/-! ## Whole projects -/

theorem load_eq_ok_iff_own {w : Workflow} : load files withSchema path = .ok w ↔
    ∃ own further, loadOwn files withSchema path = .ok own ∧
      List.Forall₂ (fun name r => loadResource files withSchema (resourcePath path name) = .ok r)
        (resourceFiles files path) further ∧
      w = { own with resources := own.resources ++ further } := by
  simp only [Project.load_eq, bind_eq_ok_iff, loadResources_eq_ok_iff_forall₂, pure, Except.pure,
    Except.ok.injEq]
  constructor
  · rintro ⟨own, hown, further, hfurther, rfl⟩
    exact ⟨own, further, hown, hfurther, rfl⟩
  · rintro ⟨own, further, hown, hfurther, rfl⟩
    exact ⟨own, hown, further, hfurther, rfl⟩

theorem load_eq_error_iff {f : Fault} : load files withSchema path = .error f ↔
    loadOwn files withSchema path = .error f ∨
      (∃ own, loadOwn files withSchema path = .ok own) ∧
        ∃ name ∈ listed files path, FailsAt files withSchema path name f := by
  have hpure (own : Workflow) :
      (loadResources files withSchema (resourceDirectory path) >>= fun further =>
        pure { own with resources := own.resources ++ further }) = .error f ↔
        loadResources files withSchema (resourceDirectory path) = .error f := by
    rw [bind_eq_error_iff]
    simp [pure, Except.pure]
  rw [Project.load_eq, bind_eq_error_iff]
  simp only [hpure, loadResources_eq_error_iff, exists_and_right]

/-- A project can be loaded unless its workflow file or one of its resource files cannot. -/
theorem exists_load_eq_error_iff : (∃ f, load files withSchema path = .error f) ↔
    (∃ f, loadOwn files withSchema path = .error f) ∨ ∃ name ∈ listed files path,
      ∃ f, loadResource files withSchema (resourcePath path name) = .error f := by
  constructor
  · rintro ⟨f, hf⟩
    rcases load_eq_error_iff.1 hf with hown | ⟨-, name, hname, ⟨source, hsource, -⟩, -⟩
    · exact .inl ⟨f, hown⟩
    · exact .inr ⟨name, hname, source, hsource⟩
  · intro hfail
    cases hload : load files withSchema path with
    | error f => exact ⟨f, rfl⟩
    | ok w =>
      obtain ⟨own, further, hown, hfurther, -⟩ := load_eq_ok_iff_own.1 hload
      rcases hfail with ⟨f, hf⟩ | ⟨name, hname, f, hf⟩
      · rw [hown] at hf
        contradiction
      · have hmem : name ∈ resourceFiles files path :=
          (resourceFiles_perm files path).mem_iff.2 hname
        obtain ⟨r, hr⟩ := exists_forall₂_iff.1 ⟨further, hfurther⟩ name hmem
        rw [hr] at hf
        contradiction

/-- Loading gives the resources in the workflow file and one for each resource file, in the order of
the bytes of the names; it fails when the workflow file or a resource file does, and then with the
fault of the workflow file, or that of the least such resource file; and two projects with the same
contents are loaded alike. -/
theorem load_of_contents (files : Files) (withSchema : Bool) (path : String) :
    (∃ names, names.Perm (listed files path) ∧
      names.Pairwise (fun a b => Text.bytes a ≤ Text.bytes b) ∧
      ∀ w, load files withSchema path = .ok w ↔ ∃ own further,
        loadOwn files withSchema path = .ok own ∧
        List.Forall₂ (fun name r => loadResource files withSchema (resourcePath path name) = .ok r)
          names further ∧
        w = { own with resources := own.resources ++ further }) ∧
    ((∃ f, load files withSchema path = .error f) ↔
      (∃ f, loadOwn files withSchema path = .error f) ∨ ∃ name ∈ listed files path,
        ∃ f, loadResource files withSchema (resourcePath path name) = .error f) ∧
    (∀ f, load files withSchema path = .error f ↔
      loadOwn files withSchema path = .error f ∨
        (∃ own, loadOwn files withSchema path = .ok own) ∧
          ∃ name ∈ listed files path, FailsAt files withSchema path name f) ∧
    ∀ files', SameContents files files' path →
      load files withSchema path = load files' withSchema path :=
  ⟨⟨resourceFiles files path, resourceFiles_perm files path, resourceFiles_sorted files path,
      fun _ => load_eq_ok_iff_own⟩,
    exists_load_eq_error_iff, fun _ => load_eq_error_iff, fun _ h => h.load_eq withSchema⟩

end Project
end FlowCheck
