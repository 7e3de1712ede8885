import FlowCheck.Json.Basic
import FlowCheck.Schema.Pointer
import Mathlib.Data.List.Forall2

/-!
# Places

A row of steps leads from a schema to one of its parts, and from a value to all the values that
the part is about: a step takes the member of a name, every item of a list, or every entry of a
table.  A demand asks something of all the values that some steps lead to (`Json.AllAt`), and a
value meets demands together with the values it contains (`Demand.Met`).
-/

namespace FlowCheck

inductive Step where
  | member (name : String)
  | item
  | entry
deriving DecidableEq

namespace Step

/-- The segments that a step takes. -/
def Takes : Step → Segment → Prop
  | member name, .key key => key = name
  | item, .index _ => True
  | entry, .key _ => True
  | _, _ => False

theorem takes_member (name : String) : (member name).Takes (.key name) := rfl

theorem takes_item (i : Nat) : item.Takes (.index i) := trivial

theorem takes_entry (key : String) : entry.Takes (.key key) := trivial

/-- A path goes where some steps lead. -/
def Follows (steps : List Step) (path : List Segment) : Prop := List.Forall₂ Takes steps path

theorem Follows.append {steps : List Step} {path : List Segment} {step : Step} {segment : Segment}
    (h : Follows steps path) (hlast : step.Takes segment) :
    Follows (steps ++ [step]) (path ++ [segment]) := by
  induction h with
  | nil => exact .cons hlast .nil
  | cons hstep _ ih => exact .cons hstep ih

end Step

/-! ## Demands -/

/-- Every value that the steps lead to has the property. -/
def Json.AllAt (p : Json → Prop) : List Step → Json → Prop
  | [], j => p j
  | .member name :: steps, j => ∀ v, j.get? name = some v → v.AllAt p steps
  | .item :: steps, j => ∀ values, j = .arr values → ∀ v ∈ values, v.AllAt p steps
  | .entry :: steps, j => ∀ members, j = .obj members → ∀ m ∈ members, m.2.AllAt p steps

/-- A property of all the values at a place. -/
structure Demand where
  place : List Step
  holds : Json → Prop

namespace Demand

/-- A value meets the demands. -/
def Met (demands : List Demand) (j : Json) : Prop := ∀ d ∈ demands, j.AllAt d.holds d.place

/-- The demands on what one more step leads to. -/
def behind (step : Step) (demands : List Demand) : List Demand :=
  demands.map fun d => { d with place := step :: d.place }

@[simp] theorem met_nil (j : Json) : Met [] j := by
  simp [Met]

@[simp] theorem met_here (p : Json → Prop) (j : Json) : Met [⟨[], p⟩] j ↔ p j := by
  simp [Met, Json.AllAt]

@[simp] theorem met_append (demands more : List Demand) (j : Json) :
    Met (demands ++ more) j ↔ Met demands j ∧ Met more j := by
  simp only [Met, List.forall_mem_append]

theorem met_behind_member {name : String} {demands : List Demand} {j : Json} :
    Met (behind (.member name) demands) j ↔ ∀ v, j.get? name = some v → Met demands v := by
  simp only [Met, behind, List.forall_mem_map, Json.AllAt]
  exact ⟨fun h v hv d hd => h d hd v hv, fun h d hd v hv => h v hv d hd⟩

theorem met_behind_item {demands : List Demand} {values : List Json} :
    Met (behind .item demands) (.arr values) ↔ ∀ v ∈ values, Met demands v := by
  simp only [Met, behind, List.forall_mem_map, Json.AllAt, Json.arr.injEq, forall_eq']
  exact ⟨fun h v hv d hd => h d hd v hv, fun h d hd v hv => h v hv d hd⟩

theorem met_behind_entry {demands : List Demand} {members : Members} :
    Met (behind .entry demands) (.obj members) ↔ ∀ m ∈ members, Met demands m.2 := by
  simp only [Met, behind, List.forall_mem_map, Json.AllAt, Json.obj.injEq, forall_eq']
  exact ⟨fun h m hm d hd => h d hd m hm, fun h d hd m hm => h m hm d hd⟩

end Demand
end FlowCheck
