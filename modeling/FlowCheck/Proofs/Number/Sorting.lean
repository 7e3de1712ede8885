import Mathlib.Data.List.Nodup
import Mathlib.Data.Nat.Basic
import Mathlib.Order.Basic

/-!
# Rows sorted by number

Sorting by a number has one result where no two members have the same number: the row of the same
members in which the numbers rise.
-/

namespace FlowCheck

variable {α : Type} {number : α → Nat} {row sorted : List α}

/-- A row is sorted into the one of its members whose numbers rise. -/
theorem mergeSort_eq_of_perm (hperm : row.Perm sorted)
    (hsorted : sorted.Pairwise fun a b => number a < number b) :
    (row.mergeSort fun a b => decide (number a ≤ number b)) = sorted := by
  have hmembers := (List.mergeSort_perm row fun a b => decide (number a ≤ number b)).trans hperm
  have hmerged := @List.pairwise_mergeSort _ (fun a b => decide (number a ≤ number b))
    (fun a b c => by simpa using le_trans) (fun a b => by simpa using le_total _ _) row
  have hnodup : (sorted.map number).Nodup := List.pairwise_map.2 (hsorted.imp Nat.ne_of_lt)
  refine hmembers.eq_of_pairwise (fun a b ha hb hab hba => ?_) hmerged
    (hsorted.imp fun hlt => by simpa using hlt.le)
  -- The number tells which member it is.
  have hequal : number a = number b := le_antisymm (by simpa using hab) (by simpa using hba)
  exact List.inj_on_of_nodup_map hnodup (hmembers.mem_iff.1 ha) hb hequal

end FlowCheck
