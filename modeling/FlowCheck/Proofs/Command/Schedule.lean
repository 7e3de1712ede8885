import FlowCheck.Command.Report
import FlowCheck.Proofs.Number.Sorting
import FlowCheck.Proofs.Project.Load
import Mathlib.Logic.Relation

/-!
# Schedules

The files of a command are checked by tasks that run at the same time.  Any of them may be the next
to finish, and any finished one may be the next whose verdict is collected.  A step of either kind
keeps what is due (`Moment.Next.due_perm`), so that every run that comes to its end has collected
one verdict for each argument, whatever the order (`Moment.Run.collected_perm`), and no run stops
before its end or goes on for ever (`Moment.exists_next`, `Moment.Next.left_eq`).  Since the report
puts the verdicts back into the order of the arguments, it does not show the schedule
(`report_of_schedule`).

## Main definitions

* `Task` : a file to be checked, for one of the arguments
* `Moment`, `Moment.Next` : where the tasks stand, and what may happen next
-/

namespace FlowCheck
namespace Command

open scoped List

/-- A file to be checked: which argument it is, and its path. -/
structure Task where
  index : Nat
  path : String

/-- One task for each argument. -/
def tasks (paths : List String) : List Task := paths.zipIdx.map fun (path, index) => ⟨index, path⟩

/-- What a task finds out about its file. -/
def Task.verdict (files : Files) (withSchema : Bool) (t : Task) : Verdict :=
  ⟨t.index, t.path, Project.loadValid files withSchema t.path⟩

/-- A moment while files are checked. -/
structure Moment where
  running : List Task
  /-- Verdicts of finished tasks that nobody has looked at. -/
  waiting : List Verdict
  /-- Verdicts in the order in which they were collected. -/
  collected : List Verdict

variable {files : Files} {withSchema : Bool} {paths : List String}

namespace Moment

/-- All tasks have just been started. -/
def start (paths : List String) : Moment := ⟨tasks paths, [], []⟩

/-- There is nothing left to run or to collect. -/
def IsDone (m : Moment) : Prop := m.running = [] ∧ m.waiting = []

/-- What may happen next: some task finishes, or the verdict of some finished task is collected. -/
inductive Next (files : Files) (withSchema : Bool) : Moment → Moment → Prop
  | finish (before after : List Task) (t : Task) (waiting collected : List Verdict) :
      Next files withSchema ⟨before ++ t :: after, waiting, collected⟩
        ⟨before ++ after, waiting ++ [t.verdict files withSchema], collected⟩
  | collect (running : List Task) (before after : List Verdict) (v : Verdict)
      (collected : List Verdict) :
      Next files withSchema ⟨running, before ++ v :: after, collected⟩
        ⟨running, before ++ after, collected ++ [v]⟩

/-- What may have happened from one moment to another. -/
def Run (files : Files) (withSchema : Bool) : Moment → Moment → Prop :=
  Relation.ReflTransGen (Next files withSchema)

/-! ## Nothing is lost, doubled or confused -/

/-- The verdicts that are collected in the end: those there are, and those of running tasks. -/
def due (files : Files) (withSchema : Bool) (m : Moment) : List Verdict :=
  m.running.map (Task.verdict files withSchema) ++ m.waiting ++ m.collected

theorem due_start : (start paths).due files withSchema = verdicts files withSchema paths := by
  simp [start, due, tasks, verdicts, Task.verdict, Function.comp_def]

theorem IsDone.due_eq {m : Moment} (h : m.IsDone) : m.due files withSchema = m.collected := by
  rw [due, h.1, h.2, List.map_nil, List.nil_append, List.nil_append]

/-- An item is moved to the end of the next list. -/
theorem perm_of_moved {α : Type} (before after next : List α) (a : α) :
    (before ++ after ++ (next ++ [a])).Perm (before ++ a :: after ++ next) :=
  calc before ++ after ++ (next ++ [a])
    _ = before ++ after ++ next ++ [a] := (List.append_assoc ..).symm
    _ ~ a :: (before ++ after ++ next) := List.perm_append_singleton _ _
    _ ~ before ++ a :: after ++ next := List.perm_middle.symm.append_right next

/-- A step keeps what is due, up to the order. -/
theorem Next.due_perm {m m' : Moment} (h : Next files withSchema m m') :
    (m'.due files withSchema).Perm (m.due files withSchema) := by
  cases h with
  | finish before after t waiting collected =>
    simp only [due, List.map_append, List.map_cons]
    exact (perm_of_moved _ _ waiting _).append_right collected
  | collect running before after v collected =>
    simp only [due, List.append_assoc]
    exact List.Perm.append_left _ (by simpa using perm_of_moved before after collected v)

/-- And so does a run. -/
theorem Run.due_perm {m m' : Moment} (h : Run files withSchema m m') :
    (m'.due files withSchema).Perm (m.due files withSchema) := by
  induction h with
  | refl => exact .refl _
  | tail _ hstep ih => exact hstep.due_perm.trans ih

theorem Run.collected_perm {m : Moment} (h : Run files withSchema (start paths) m)
    (hdone : m.IsDone) : m.collected.Perm (verdicts files withSchema paths) := by
  rw [← hdone.due_eq, ← due_start]
  exact h.due_perm

/-! ## Every run comes to its end -/

/-- As long as something is left, something can happen. -/
theorem exists_next {m : Moment} (h : ¬ m.IsDone) : ∃ m', Next files withSchema m m' := by
  obtain ⟨running, waiting, collected⟩ := m
  cases running with
  | cons t rest => exact ⟨_, .finish [] rest t waiting collected⟩
  | nil =>
    cases waiting with
    | cons v rest => exact ⟨_, .collect [] [] rest v collected⟩
    | nil => exact absurd ⟨rfl, rfl⟩ h

/-- The number of steps to the end. -/
def left (m : Moment) : Nat := 2 * m.running.length + m.waiting.length

theorem Next.left_eq {m m' : Moment} (h : Next files withSchema m m') : m.left = m'.left + 1 := by
  cases h with
  | finish before after t waiting collected =>
    simp only [left, List.length_append, List.length_cons, List.length_nil]
    omega
  | collect running before after v collected =>
    simp only [left, List.length_append, List.length_cons]
    omega

/-- The tasks may be finished in any order. -/
theorem run_of_perm (files : Files) (withSchema : Bool) {order : List Task}
    (h : order.Perm (tasks paths)) :
    Run files withSchema (start paths) ⟨[], [], order.map (Task.verdict files withSchema)⟩ := by
  have hrun (order running : List Task) (hperm : order.Perm running) (collected : List Verdict) :
      Run files withSchema ⟨running, [], collected⟩
        ⟨[], [], collected ++ order.map (Task.verdict files withSchema)⟩ := by
    induction order generalizing running collected with
    | nil =>
      obtain rfl := hperm.nil_eq
      rw [List.map_nil, List.append_nil]
      exact .refl
    | cons t rest ih =>
      obtain ⟨before, after, rfl⟩ := List.append_of_mem (hperm.mem_iff.1 List.mem_cons_self)
      have hrest : rest.Perm (before ++ after) := (hperm.trans List.perm_middle).cons_inv
      have hstep := ih _ hrest (collected ++ [t.verdict files withSchema])
      rw [List.map_cons, List.append_cons collected]
      exact .head (.finish before after t [] collected)
        (.head (.collect (before ++ after) [] [] _ collected) hstep)
  exact hrun order _ h []

end Moment

/-! ## The report -/

/-- The verdicts come in the order of the arguments. -/
theorem map_index_verdicts (files : Files) (withSchema : Bool) (paths : List String) :
    (verdicts files withSchema paths).map Verdict.index = List.range paths.length := by
  have hpositions : (Verdict.index ∘ fun (path, index) =>
      (⟨index, path, Project.loadValid files withSchema path⟩ : Verdict)) = Prod.snd := rfl
  rw [verdicts, List.map_map, hpositions, List.zipIdx_map_snd, List.range_eq_range']

/-- Sorting brings collected verdicts into the order of the arguments. -/
theorem mergeSort_eq_verdicts {finished : List Verdict}
    (h : finished.Perm (verdicts files withSchema paths)) :
    (finished.mergeSort fun a b => decide (a.index ≤ b.index)) =
      verdicts files withSchema paths :=
  mergeSort_eq_of_perm h
    (List.pairwise_map.1 (map_index_verdicts files withSchema paths ▸ List.pairwise_lt_range))

/-- What is said of each verdict is said of each argument. -/
theorem map_verdicts {α : Type} (files : Files) (withSchema : Bool) (paths : List String)
    (f : String → Except Fault Workflow → α) :
    (verdicts files withSchema paths).map (fun v => f v.path v.result) =
      paths.map fun p => f p (Project.loadValid files withSchema p) := by
  rw [verdicts, List.map_map]
  conv_rhs => rw [← List.zipIdx_map_fst 0 paths, List.map_map]
  rfl

/-- The report shows the verdicts on the arguments, whatever the order in which they came in. -/
theorem reportVerdicts_eq {finished : List Verdict}
    (h : finished.Perm (verdicts files withSchema paths)) : reportVerdicts finished =
      let lines := paths.map fun p => verdictLine p (Project.loadValid files withSchema p)
      if paths.all fun p => (Project.loadValid files withSchema p).isOk then .success lines
      else .refusal lines := by
  have hall := congrArg (List.all · id)
    (map_verdicts files withSchema paths fun _ result => result.isOk)
  simp only [List.all_map, Function.comp_def, id] at hall
  rw [reportVerdicts, mergeSort_eq_verdicts h]
  simp only [hall, map_verdicts]

theorem output_reportVerdicts {finished : List Verdict}
    (h : finished.Perm (verdicts files withSchema paths)) :
    (reportVerdicts finished).output = Report.ofLines
      (paths.map fun p => verdictLine p (Project.loadValid files withSchema p)) := by
  rw [reportVerdicts_eq h]
  split <;> rfl

theorem isOk_eq_true_iff {ε α : Type} {x : Except ε α} : x.isOk = true ↔ ∃ a, x = .ok a := by
  cases x <;> simp [Except.isOk, Except.toBool]

theorem isOk_eq_false_iff {ε α : Type} {x : Except ε α} : x.isOk = false ↔ ∃ e, x = .error e := by
  cases x <;> simp [Except.isOk, Except.toBool]

/-- Whatever the schedule, the output has one entry for each argument, in the order of the
arguments, which is the verdict on that file alone; the status is 1 exactly when a file is refused,
and 0 otherwise.  So the report is that of checking the files one after the other. -/
theorem report_of_schedule {m : Moment} (hrun : Moment.Run files withSchema (.start paths) m)
    (hdone : m.IsDone) :
    (reportVerdicts m.collected).output = Report.ofLines
        (paths.map fun p => verdictLine p (Project.loadValid files withSchema p)) ∧
      ((reportVerdicts m.collected).status = 1 ↔
        ∃ p ∈ paths, ∃ f, Project.loadValid files withSchema p = .error f) ∧
      ((reportVerdicts m.collected).status = 0 ↔
        ∀ p ∈ paths, ∃ w, Project.loadValid files withSchema p = .ok w) ∧
      reportVerdicts m.collected = (Command.validate withSchema paths).run files := by
  have hperm := hrun.collected_perm hdone
  have hinOrder : (Command.validate withSchema paths).run files =
      reportVerdicts (verdicts files withSchema paths) := rfl
  refine ⟨output_reportVerdicts hperm, ?_⟩
  rw [hinOrder, reportVerdicts_eq hperm, reportVerdicts_eq (.refl _)]
  simp only [← isOk_eq_true_iff, ← isOk_eq_false_iff, and_true]
  by_cases hall : ∀ p ∈ paths, (Project.loadValid files withSchema p).isOk = true
  · rw [if_pos (List.all_eq_true.2 hall)]
    refine ⟨⟨fun h => ?_, ?_⟩, fun _ => hall, fun _ => rfl⟩
    · contradiction
    · rintro ⟨p, hp, hfail⟩
      rw [hall p hp] at hfail
      contradiction
  · rw [if_neg fun h => hall (List.all_eq_true.1 h)]
    refine ⟨⟨fun _ => ?_, fun _ => rfl⟩, fun h => ?_, fun h => absurd h hall⟩
    · simpa using hall
    · contradiction

/-! ### One file twice, and one that is missing -/

/-- The document of a workflow with one resource. -/
def echoDocument : Json :=
  .obj [("metadata", .obj [("name", .str "demo"), ("targetActionId", .str "a")]),
    ("resources", .arr [.obj [("metadata", .obj [("actionId", .str "a"), ("name", .str "A")]),
      ("run", .obj [("exec", .obj [("command", .str "echo")])])]])]

/-- A workflow file, and a file with an empty document. -/
def twoFiles : Files where
  read path :=
    if path = "echo.yaml" then
      .ok ("metadata:\n name: demo\n targetActionId: a\nresources:\n" ++
        "- metadata:\n   actionId: a\n   name: A\n  run:\n   exec:\n    command: echo\n")
    else if path = "empty.yaml" then .ok "\x7b\x7d"
    else .error .missing
  entries? _ := none

theorem isFile_echo : Project.IsFile twoFiles "echo.yaml" echoDocument :=
  ⟨⟨_, rfl, by decide +kernel⟩, rfl⟩

/-- The tasks are finished in the opposite order, and one file is missing. -/
theorem report_of_schedule_reversed :
    ∃ m, Moment.Run twoFiles false (.start ["echo.yaml", "none.yaml", "echo.yaml"]) m ∧ m.IsDone ∧
      m.collected.map Verdict.index = [2, 1, 0] ∧
      (reportVerdicts m.collected).output = "echo.yaml: valid\n" ++
        "[ERROR] PARSE_ERROR none.yaml: failed to parse none.yaml: " ++
          "No such file or directory (os error 2)\n" ++
        "echo.yaml: valid\n" ∧
      (reportVerdicts m.collected).status = 1 := by
  have hrun := Moment.run_of_perm twoFiles false
    (List.reverse_perm (tasks ["echo.yaml", "none.yaml", "echo.yaml"]))
  obtain ⟨houtput, hstatus, -⟩ := report_of_schedule hrun ⟨rfl, rfl⟩
  obtain ⟨w, hvalid⟩ : ∃ w, Project.loadValid twoFiles false "echo.yaml" = .ok w := by
    simp only [Project.loadValid_eq_ok_iff_of_isFile isFile_echo, ← isOk_eq_true_iff]
    decide +kernel
  have hmissing : Project.loadValid twoFiles false "none.yaml" =
      .error (.unreadable "none.yaml" ReadFailure.missing.text) := rfl
  refine ⟨_, hrun, ⟨rfl, rfl⟩, rfl, ?_, hstatus.2 ⟨"none.yaml", by simp, _, hmissing⟩⟩
  rw [houtput]
  simp only [List.map_cons, List.map_nil, hvalid, hmissing, verdictLine]
  decide +kernel

/-- A text with a line break in its title is shown on two lines at least. -/
theorem two_le_count_of_title (front name title back : String) (h : '\n' ∈ title.toList) :
    2 ≤ (Report.ofLines [front ++ (name ++ title ++ back)]).toList.count '\n' := by
  have htitle : 0 < title.toList.count '\n' := List.count_pos_iff.2 h
  have hentry : (Report.ofLines [front ++ (name ++ title ++ back)]).toList =
      front.toList ++ name.toList ++ title.toList ++ back.toList ++ ['\n'] := by
    simp [Report.ofLines]
  rw [hentry]
  simp only [List.count_append, List.count_singleton_self]
  omega

theorem two_le_count_of_violation (path : String) (kind : DocumentKind) (found : Diagnostics) :
    2 ≤ (Report.ofLines
      [verdictLine path (.error (.schemaViolated kind found))]).toList.count '\n' :=
  two_le_count_of_title ("[ERROR] " ++ FaultCode.validationFailed.name ++ " " ++ path ++ ": ")
    kind.name " validation failed:\n" found.bullets (by decide)

/-- The entry of a file that violates its schema takes a line for each diagnostic, and two more. -/
theorem entry_of_several_lines : ¬ ∀ files withSchema paths m,
    Moment.Run files withSchema (.start paths) m → m.IsDone →
      (reportVerdicts m.collected).output.toList.count '\n' = paths.length := by
  intro hlines
  have hrun := Moment.run_of_perm twoFiles true (List.Perm.refl (tasks ["empty.yaml"]))
  have hfound : DocumentKind.workflow.diagnoseAll (.obj []) ≠ [] := by decide +kernel
  have hempty : Project.loadValid twoFiles true "empty.yaml" = .error (.schemaViolated .workflow
      ⟨DocumentKind.workflow.diagnoseAll (.obj [])⟩) :=
    Project.loadValid_eq_error_of_check ⟨_, rfl, by decide +kernel⟩
      (DocumentKind.check_eq_error hfound)
  have hcount := hlines _ _ _ _ hrun ⟨rfl, rfl⟩
  rw [output_reportVerdicts (hrun.collected_perm ⟨rfl, rfl⟩)] at hcount
  simp only [List.map_cons, List.map_nil, hempty, List.length_singleton] at hcount
  have htwo := two_le_count_of_violation "empty.yaml" .workflow
    ⟨DocumentKind.workflow.diagnoseAll (.obj [])⟩
  rw [hcount] at htwo
  exact absurd htwo (by decide)

end Command
end FlowCheck
