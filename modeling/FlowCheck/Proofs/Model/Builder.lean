import FlowCheck.Model.Run
import Mathlib.Data.List.Induction

/-!
# Runs built step by step

Of the steps that build a run, those of one kind do not see those of another.  What is built is
therefore told by three rows (the primary actions, the API responses and the options that were
given, each in order), and it does not matter how the steps were interleaved (`Run.build_eq`).  A
second primary action is refused, and it is refused when it is given (`Run.assemble_stops_iff`).
-/

namespace FlowCheck

namespace RunStep

/-! ## The steps of one kind -/

@[simp] def primary? : RunStep → Option Action
  | .primary action => some action
  | _ => none

@[simp] def apiResponse? : RunStep → Option ApiResponse
  | .apiResponse response => some response
  | _ => none

@[simp] def options? : RunStep → Option RunOptions
  | .options block => some block
  | _ => none

end RunStep

namespace Run

variable {before : List RunStep} {s : RunStep}

/-- The primary actions that some steps give, in order. -/
def primaries (steps : List RunStep) : List Action := steps.filterMap RunStep.primary?

def responses (steps : List RunStep) : List ApiResponse := steps.filterMap RunStep.apiResponse?

def optionBlocks (steps : List RunStep) : List RunOptions := steps.filterMap RunStep.options?

@[simp] theorem primaries_concat :
    primaries (before ++ [s]) = primaries before ++ s.primary?.toList := by
  cases s <;> simp [primaries]

theorem length_primaries_concat (action : Action) :
    (primaries (before ++ [.primary action])).length = (primaries before).length + 1 := by
  simp

@[simp] theorem responses_concat :
    responses (before ++ [s]) = responses before ++ s.apiResponse?.toList := by
  cases s <;> simp [responses]

@[simp] theorem optionBlocks_concat :
    optionBlocks (before ++ [s]) = optionBlocks before ++ s.options?.toList := by
  cases s <;> simp [optionBlocks]

/-- The run with the first primary action, the last API response and the last options of some
steps. -/
def given (steps : List RunStep) : Run where
  primary := (primaries steps).head?
  apiResponse := (responses steps).getLast?
  options := (optionBlocks steps).getLast?.getD {}

/-! ## What steps build -/

/-- One more step is taken from the run that the steps before it built. -/
theorem build_concat : build (before ++ [s]) = build before >>= fun run => run.step s := by
  have hlast : (fun run => List.foldlM step run [s]) = fun run => run.step s := by
    funext run
    rw [List.foldlM_cons]
    exact bind_pure _
  rw [build, build, List.foldlM_append, hlast]

/-- A step from what some steps gave leads to what is given with it, unless it gives a second
primary action. -/
theorem step_given (h : (primaries (before ++ [s])).length ≤ 1) :
    (given before).step s = .ok (given (before ++ [s])) := by
  cases s with
  | primary action =>
    have hnil : primaries before = [] := by
      rw [length_primaries_concat] at h
      exact List.length_eq_zero_iff.1 (by omega)
    have hnone : (given before).primary = none := by
      rw [given, hnil, List.head?_nil]
    rw [step, setPrimary, hnone]
    simp [given, hnil]
  | apiResponse response => simp [step, given]
  | options block => simp [step, given]

/-- Behind a primary action the only step that fails is another one. -/
theorem step_given_of_second (hbefore : (primaries before).length ≤ 1)
    (h : ¬ (primaries (before ++ [s])).length ≤ 1) :
    (given before).step s = .error .severalPrimaries := by
  cases s with
  | primary action =>
    rw [length_primaries_concat] at h
    obtain ⟨first, hfirst⟩ : ∃ first, primaries before = [first] :=
      List.length_eq_one_iff.1 (by omega)
    have hsome : (given before).primary = some first := by
      rw [given, hfirst, List.head?_cons]
    rw [step, setPrimary, hsome]
  | apiResponse response => exact absurd hbefore (by simpa using h)
  | options block => exact absurd hbefore (by simpa using h)

/-- What steps build: what they give, if they give one primary action at most. -/
theorem build_eq (steps : List RunStep) :
    build steps =
      if (primaries steps).length ≤ 1 then .ok (given steps) else .error .severalPrimaries := by
  -- the induction is on the end of the row, where the next step stands
  induction steps using List.reverseRecOn with
  | nil => rfl
  | append_singleton before s ih =>
    have hgrow : (primaries before).length ≤ (primaries (before ++ [s])).length := by
      rw [primaries_concat, List.length_append]
      exact Nat.le_add_right _ _
    rw [build_concat, ih]
    by_cases h : (primaries (before ++ [s])).length ≤ 1
    · rw [if_pos h, if_pos (Nat.le_trans hgrow h)]
      exact step_given h
    · rw [if_neg h]
      by_cases hbefore : (primaries before).length ≤ 1
      · rw [if_pos hbefore]
        exact step_given_of_second hbefore h
      · rw [if_neg hbefore]
        rfl

/-- A run that cannot be built is a fault of its resource. -/
theorem assemble_eq (steps : List RunStep) :
    assemble steps =
      if (primaries steps).length ≤ 1 then .ok (given steps)
      else .error (.invalidResource Wire.Problem.severalPrimariesText) := by
  rw [assemble, build_eq]
  split <;> rfl

theorem exists_assemble_eq_ok_iff {steps : List RunStep} :
    (∃ run, assemble steps = .ok run) ↔ (primaries steps).length ≤ 1 := by
  rw [assemble_eq]
  split <;> simp_all

theorem exists_assemble_eq_error_iff {steps : List RunStep} :
    (∃ fault, assemble steps = .error fault) ↔ 1 < (primaries steps).length := by
  rw [assemble_eq]
  split <;> simp_all

/-- Building fails at the second primary action and at no other step. -/
theorem assemble_stops_iff : ((∃ run, assemble before = .ok run) ∧
      ∃ fault, assemble (before ++ [s]) = .error fault) ↔
    (primaries before).length = 1 ∧ ∃ action, s = .primary action := by
  rw [exists_assemble_eq_ok_iff, exists_assemble_eq_error_iff]
  cases s with
  | primary action =>
    have hprimary : ∃ a, RunStep.primary action = .primary a := ⟨action, rfl⟩
    rw [length_primaries_concat]
    constructor
    · rintro ⟨hle, hlt⟩
      exact ⟨by omega, hprimary⟩
    · rintro ⟨hlength, -⟩
      exact ⟨by omega, by omega⟩
  | apiResponse response => simp
  | options block => simp

end Run
end FlowCheck
