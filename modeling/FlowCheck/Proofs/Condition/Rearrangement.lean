import FlowCheck.Condition.Eval
import FlowCheck.Proofs.Wire.Reading

/-!
# Rearranged conditions

Clauses are evaluated one after the other while they are true, and conjunctions while they are
false.  So each of the two loops comes to the first outcome that is not the neutral one, be it a
truth value or a problem (`firstOther`).  Which one is the first depends on the order, but whether
there is one does not, and the first is one of them.

From this it follows, going up from the clauses, what the order can change and what it cannot
(`verdict_of_rearranged`): true never becomes false nor false true, a condition without problems
keeps its truth value, and a problem is that of a clause by itself.
-/

namespace FlowCheck
namespace Condition

/-! ## The first outcome that counts -/

section FirstOther

variable {ε : Type}

def differs (neutral : Bool) : Except ε Bool → Bool
  | .ok truth => truth != neutral
  | .error _ => true

/-- The first outcome that is not the neutral truth value; without one, that truth value. -/
def firstOther (neutral : Bool) (outcomes : List (Except ε Bool)) : Except ε Bool :=
  (outcomes.find? (differs neutral)).getD (.ok neutral)

variable {neutral : Bool} {outcomes outcomes' : List (Except ε Bool)} {r : Except ε Bool}

theorem differs_eq_false_iff : differs neutral r = false ↔ r = .ok neutral := by
  cases r <;> simp [differs]

theorem firstOther_cons_neutral :
    firstOther neutral (.ok neutral :: outcomes) = firstOther neutral outcomes := by
  have hneutral : differs (ε := ε) neutral (.ok neutral) = false := differs_eq_false_iff.2 rfl
  rw [firstOther, List.find?_cons, hneutral, firstOther]

theorem firstOther_cons_of_ne (h : r ≠ .ok neutral) :
    firstOther neutral (r :: outcomes) = r := by
  have hdiffers : differs neutral r = true := by
    rw [← Bool.not_eq_false]
    exact mt differs_eq_false_iff.1 h
  rw [firstOther, List.find?_cons, hdiffers, Option.getD_some]

/-- The neutral truth value comes out when nothing else is there. -/
theorem firstOther_eq_neutral_iff :
    firstOther neutral outcomes = .ok neutral ↔ ∀ r ∈ outcomes, r = .ok neutral := by
  induction outcomes with
  | nil => exact ⟨nofun, fun _ => rfl⟩
  | cons r outcomes ih =>
    rw [List.forall_mem_cons]
    by_cases h : r = .ok neutral
    · rw [h, firstOther_cons_neutral, ih]
      exact (and_iff_right rfl).symm
    · rw [firstOther_cons_of_ne h]
      exact (and_iff_left_of_imp fun hr => absurd hr h).symm

/-- Anything else that comes out is there. -/
theorem firstOther_mem (h : firstOther neutral outcomes ≠ .ok neutral) :
    firstOther neutral outcomes ∈ outcomes := by
  induction outcomes with
  | nil => exact absurd rfl h
  | cons r outcomes ih =>
    by_cases hr : r = .ok neutral
    · rw [hr, firstOther_cons_neutral] at h ⊢
      exact List.mem_cons_of_mem _ (ih h)
    · rw [firstOther_cons_of_ne hr]
      exact List.mem_cons_self

/-- Without problems there are two outcomes, so that it matters only which of them are there. -/
theorem firstOther_congr (hsame : ∀ r, r ∈ outcomes ↔ r ∈ outcomes')
    (hok : ∀ r ∈ outcomes, ∃ truth, r = .ok truth) :
    firstOther neutral outcomes = firstOther neutral outcomes' := by
  by_cases h : ∀ r ∈ outcomes, r = .ok neutral
  · rw [firstOther_eq_neutral_iff.2 h,
      firstOther_eq_neutral_iff.2 fun r hr => h r ((hsame r).2 hr)]
  · -- Both firsts are not neutral, and only one such truth value is left.
    have hother : ∀ r ∈ outcomes, r ≠ .ok neutral → r = .ok !neutral := by
      intro r hr hne
      obtain ⟨truth, rfl⟩ := hok r hr
      exact congrArg Except.ok (Bool.eq_not_of_ne fun heq => hne (congrArg Except.ok heq))
    have hfirst : firstOther neutral outcomes ≠ .ok neutral := mt firstOther_eq_neutral_iff.1 h
    have hfirst' : firstOther neutral outcomes' ≠ .ok neutral := fun heq =>
      h fun r hr => firstOther_eq_neutral_iff.1 heq r ((hsame r).1 hr)
    rw [hother _ (firstOther_mem hfirst) hfirst,
      hother _ ((hsame _).2 (firstOther_mem hfirst')) hfirst']

end FirstOther

/-! ## The two loops -/

variable {env : Members} {p q : Conjunction} {c d : Condition}

theorem evalAll_eq (env : Members) (p : Conjunction) :
    evalAll env p = firstOther true (p.map (Clause.eval env)) := by
  induction p with
  | nil => rfl
  | cons clause p ih =>
    rw [evalAll, List.map_cons, ih]
    cases clause.eval env with
    | error problem => rfl
    | ok truth => cases truth <;> rfl

theorem evalAny_eq (env : Members) (any : List Conjunction) :
    evalAny env any = firstOther false (any.map (evalAll env)) := by
  induction any with
  | nil => rfl
  | cons p any ih =>
    rw [evalAny, List.map_cons, ih]
    cases evalAll env p with
    | error problem => rfl
    | ok truth => cases truth <;> rfl

theorem evalAll_eq_true_iff :
    evalAll env p = .ok true ↔ ∀ clause ∈ p, clause.eval env = .ok true := by
  rw [evalAll_eq, firstOther_eq_neutral_iff, List.forall_mem_map]

theorem evalAny_eq_false_iff {any : List Conjunction} :
    evalAny env any = .ok false ↔ ∀ p ∈ any, evalAll env p = .ok false := by
  rw [evalAny_eq, firstOther_eq_neutral_iff, List.forall_mem_map]

/-- What else a conjunction comes to, one of its clauses comes to. -/
theorem exists_clause_of_evalAll {r : Except EvalProblem Bool} (h : evalAll env p = r)
    (hr : r ≠ .ok true) : ∃ clause ∈ p, clause.eval env = r := by
  rw [evalAll_eq] at h
  subst h
  exact List.mem_map.1 (firstOther_mem hr)

theorem exists_conjunction_of_evalAny {any : List Conjunction} {r : Except EvalProblem Bool}
    (h : evalAny env any = r) (hr : r ≠ .ok false) : ∃ p ∈ any, evalAll env p = r := by
  rw [evalAny_eq] at h
  subst h
  exact List.mem_map.1 (firstOther_mem hr)

theorem eval_of_any_eq_nil (h : c.any = []) : c.eval env = .ok true := by
  rw [eval, h]
  rfl

theorem eval_of_any_ne_nil (h : c.any ≠ []) : c.eval env = evalAny env c.any := by
  rw [eval, if_neg (by simpa using h)]

/-! ## Rearranging -/

/-- The same clauses, in any order and any number of times. -/
def SameClauses (p q : Conjunction) : Prop := ∀ clause, clause ∈ p ↔ clause ∈ q

theorem SameClauses.symm (h : SameClauses p q) : SameClauses q p := fun clause => (h clause).symm

/-- Disjuncts with the same clauses, in any order and any number of times. -/
structure Rearranged (c d : Condition) : Prop where
  left : ∀ p ∈ c.any, ∃ q ∈ d.any, SameClauses p q
  right : ∀ q ∈ d.any, ∃ p ∈ c.any, SameClauses p q

/-- The disjuncts in another order, each with its clauses in another order. -/
def Permuted (c d : Condition) : Prop := ∃ any, c.any.Perm any ∧ List.Forall₂ List.Perm any d.any

theorem Permuted.rearranged (h : Permuted c d) : Rearranged c d := by
  obtain ⟨any, hany, hclauses⟩ := h
  constructor
  · have hleft : ∀ p ∈ any, ∃ q ∈ d.any, SameClauses p q :=
      Wire.forall_mem_of_forall₂ hclauses.flip fun q hq p hp => ⟨q, hq, fun _ => hp.mem_iff⟩
    exact fun p hp => hleft p (hany.mem_iff.1 hp)
  · exact Wire.forall_mem_of_forall₂ hclauses fun p hp q hq =>
      ⟨p, hany.mem_iff.2 hp, fun _ => hq.mem_iff⟩

theorem Rearranged.symm (h : Rearranged c d) : Rearranged d c where
  left q hq := (h.right q hq).imp fun _ hp => ⟨hp.1, hp.2.symm⟩
  right p hp := (h.left p hp).imp fun _ hq => ⟨hq.1, hq.2.symm⟩

/-- Each clause stands in the rearranged condition as well. -/
theorem Rearranged.mem_clauses (h : Rearranged c d) {clause : Clause}
    (hclause : clause ∈ c.any.flatten) : clause ∈ d.any.flatten := by
  obtain ⟨p, hp, hclause⟩ := List.mem_flatten.1 hclause
  obtain ⟨q, hq, hsame⟩ := h.left p hp
  exact List.mem_flatten.2 ⟨q, hq, (hsame clause).1 hclause⟩

theorem Rearranged.any_ne_nil (h : Rearranged c d) (hc : c.any ≠ []) : d.any ≠ [] := by
  obtain ⟨p, hp⟩ := List.exists_mem_of_ne_nil _ hc
  obtain ⟨q, hq, -⟩ := h.left p hp
  exact List.ne_nil_of_mem hq

/-! ## Verdicts -/

/-- A condition is true where one of its conjunctions is, and then it is not false rearranged. -/
theorem Rearranged.not_flipped (h : Rearranged c d) (hc : c.eval env = .ok true) :
    d.eval env ≠ .ok false := by
  intro hd
  have hdne : d.any ≠ [] := fun hnil => by
    rw [eval_of_any_eq_nil hnil] at hd
    cases hd
  rw [eval_of_any_ne_nil hdne, evalAny_eq_false_iff] at hd
  rw [eval_of_any_ne_nil (h.symm.any_ne_nil hdne)] at hc
  obtain ⟨p, hp, htrue⟩ := exists_conjunction_of_evalAny hc nofun
  obtain ⟨q, hq, hsame⟩ := h.left p hp
  have hqtrue : evalAll env q = .ok true := evalAll_eq_true_iff.2 fun clause hclause =>
    evalAll_eq_true_iff.1 htrue clause ((hsame clause).2 hclause)
  rw [hd q hq] at hqtrue
  cases hqtrue

/-- A problem of a condition is that of one of its clauses. -/
theorem exists_clause_of_eval {problem : EvalProblem} (h : c.eval env = .error problem) :
    ∃ clause ∈ c.any.flatten, clause.eval env = .error problem := by
  have hne : c.any ≠ [] := fun hnil => by
    rw [eval_of_any_eq_nil hnil] at h
    contradiction
  rw [eval_of_any_ne_nil hne] at h
  obtain ⟨p, hp, hproblem⟩ := exists_conjunction_of_evalAny h nofun
  obtain ⟨clause, hclause, hproblem⟩ := exists_clause_of_evalAll hproblem nofun
  exact ⟨clause, List.mem_flatten.2 ⟨p, hp, hclause⟩, hproblem⟩

theorem SameClauses.evalAll_eq (h : SameClauses p q)
    (hok : ∀ clause ∈ p, ∃ truth, clause.eval env = .ok truth) : evalAll env p = evalAll env q := by
  rw [Condition.evalAll_eq, Condition.evalAll_eq]
  refine firstOther_congr (fun r => ?_) (List.forall_mem_map.2 hok)
  simp only [List.mem_map, h _]

theorem exists_evalAll_eq_ok (hok : ∀ clause ∈ p, ∃ truth, clause.eval env = .ok truth) :
    ∃ truth, evalAll env p = .ok truth := by
  cases h : evalAll env p with
  | ok truth => exact ⟨truth, rfl⟩
  | error problem =>
    obtain ⟨clause, hclause, hproblem⟩ := exists_clause_of_evalAll h nofun
    obtain ⟨truth, htruth⟩ := hok clause hclause
    rw [hproblem] at htruth
    contradiction

/-- Without problems a condition comes to the same, rearranged. -/
theorem Rearranged.eval_eq (h : Rearranged c d)
    (hok : ∀ clause ∈ c.any.flatten, ∃ truth, clause.eval env = .ok truth) :
    c.eval env = d.eval env := by
  have hclauses : ∀ p ∈ c.any, ∀ clause ∈ p, ∃ truth, clause.eval env = .ok truth :=
    fun p hp clause hclause => hok clause (List.mem_flatten.2 ⟨p, hp, hclause⟩)
  by_cases hne : c.any = []
  · have hdnil : d.any = [] := by
      by_contra hd
      exact h.symm.any_ne_nil hd hne
    rw [eval_of_any_eq_nil hne, eval_of_any_eq_nil hdnil]
  · rw [eval_of_any_ne_nil hne, eval_of_any_ne_nil (h.any_ne_nil hne), evalAny_eq, evalAny_eq]
    refine firstOther_congr (fun r => ?_)
      (List.forall_mem_map.2 fun p hp => exists_evalAll_eq_ok (hclauses p hp))
    constructor
    · intro hr
      obtain ⟨p, hp, rfl⟩ := List.mem_map.1 hr
      obtain ⟨q, hq, hsame⟩ := h.left p hp
      exact List.mem_map.2 ⟨q, hq, (hsame.evalAll_eq (hclauses p hp)).symm⟩
    · intro hr
      obtain ⟨q, hq, rfl⟩ := List.mem_map.1 hr
      obtain ⟨p, hp, hsame⟩ := h.right q hq
      exact List.mem_map.2 ⟨p, hp, hsame.evalAll_eq (hclauses p hp)⟩

/-- Permuting the disjuncts of a condition, and the clauses in each, is a way to rearrange it.  A
condition and a rearranged one are never true and false.  They come to the same when no clause has
a problem.  A problem that either of them has is that of a clause by itself. -/
theorem verdict_of_rearranged (c d : Condition) (env : Members) :
    (Permuted c d → Rearranged c d) ∧ (Rearranged c d →
      ¬ (c.eval env = .ok true ∧ d.eval env = .ok false) ∧
      ¬ (c.eval env = .ok false ∧ d.eval env = .ok true) ∧
      ((∀ clause ∈ c.any.flatten, ∃ truth, clause.eval env = .ok truth) →
        c.eval env = d.eval env) ∧
      ∀ problem, c.eval env = .error problem ∨ d.eval env = .error problem →
        ∃ clause ∈ c.any.flatten, clause.eval env = .error problem) := by
  refine ⟨Permuted.rearranged, fun h => ⟨?_, ?_, h.eval_eq, ?_⟩⟩
  · rintro ⟨hc, hd⟩
    exact h.not_flipped hc hd
  · rintro ⟨hc, hd⟩
    exact h.symm.not_flipped hd hc
  · rintro problem (hc | hd)
    · exact exists_clause_of_eval hc
    · obtain ⟨clause, hclause, hproblem⟩ := exists_clause_of_eval hd
      exact ⟨clause, h.symm.mem_clauses hclause, hproblem⟩

end Condition
end FlowCheck
