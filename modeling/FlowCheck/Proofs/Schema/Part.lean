import FlowCheck.Proofs.Schema.Place
import FlowCheck.Schema.Violation
import Mathlib.Data.List.Basic

/-!
# The parts of a schema

Every violation is found at a part of the schema: the path of the value follows the steps to the
part, and the part by itself gives the cause (`Schema.exists_part_of_mem_violations`).  A schema
has finitely many parts, whatever the keys of a document are, so what is to be said of all
violations can be checked part by part.
-/

namespace FlowCheck
namespace Schema

open Step (Follows)

/-- The violations of a value by itself, without the values it contains. -/
def ownCauses (j : Json) : Schema → List Violation.Cause
  | any => []
  | text rule => textCauses rule j ++ kindCauses .string j
  | integer range options =>
    optionCauses (options.map .int) j ++ rangeCauses range j ++ kindCauses .integer j
  | number range => rangeCauses range j ++ kindCauses .number j
  | boolean => kindCauses .boolean j
  | list _ => kindCauses .array j
  | record closed required properties =>
    (if closed then unexpectedCauses properties j else []) ++ missingCauses required j ++
      kindCauses .object j
  | table _ => kindCauses .object j

/-- The members that a schema by itself requires. -/
def required : Schema → List String
  | record _ required _ => required
  | _ => []

/-- The parts behind one more step. -/
def behind (step : Step) (parts : List (List Step × Schema)) : List (List Step × Schema) :=
  parts.map fun part => (step :: part.1, part.2)

mutual

/-- The parts of a schema, itself first, each with the steps that lead to it. -/
def parts : Schema → List (List Step × Schema)
  | list items => ([], list items) :: behind .item items.parts
  | record closed required properties =>
    ([], record closed required properties) :: propertyParts properties
  | table values => ([], table values) :: behind .entry values.parts
  | any => [([], any)]
  | text rule => [([], text rule)]
  | integer range options => [([], integer range options)]
  | number range => [([], number range)]
  | boolean => [([], boolean)]

/-- The parts of the members that a record names. -/
def propertyParts : List (String × Schema) → List (List Step × Schema)
  | [] => []
  | (name, schema) :: rest => behind (.member name) schema.parts ++ propertyParts rest

end

theorem self_mem_parts (s : Schema) : ([], s) ∈ s.parts := by
  cases s <;> simp [parts]

theorem mem_behind {step : Step} {parts : List (List Step × Schema)} {steps : List Step}
    {s : Schema} (h : (steps, s) ∈ parts) : (step :: steps, s) ∈ behind step parts :=
  List.mem_map_of_mem (f := fun part : List Step × Schema => (step :: part.1, part.2)) h

/-! ## Parts of containers -/

theorem mem_behind_iff {step : Step} {parts : List (List Step × Schema)} {steps : List Step}
    {t : Schema} :
    (steps, t) ∈ behind step parts ↔ ∃ rest, steps = step :: rest ∧ (rest, t) ∈ parts := by
  unfold behind
  rw [List.mem_map]
  constructor
  · rintro ⟨⟨rest, u⟩, hu, heq⟩
    obtain ⟨rfl, rfl⟩ := Prod.mk.inj heq
    exact ⟨rest, rfl, hu⟩
  · rintro ⟨rest, rfl, hu⟩
    exact ⟨(rest, t), hu, rfl⟩

theorem mem_parts_list_iff {s : Schema} {steps : List Step} {t : Schema} :
    (steps, t) ∈ (list s).parts ↔
      (steps = [] ∧ t = list s) ∨ ∃ rest, steps = .item :: rest ∧ (rest, t) ∈ s.parts := by
  rw [parts, List.mem_cons, Prod.mk.injEq, mem_behind_iff]

theorem mem_parts_table_iff {s : Schema} {steps : List Step} {t : Schema} :
    (steps, t) ∈ (table s).parts ↔
      (steps = [] ∧ t = table s) ∨ ∃ rest, steps = .entry :: rest ∧ (rest, t) ∈ s.parts := by
  rw [parts, List.mem_cons, Prod.mk.injEq, mem_behind_iff]

theorem mem_propertyParts_iff {properties : List (String × Schema)} {steps : List Step}
    {t : Schema} : (steps, t) ∈ propertyParts properties ↔
      ∃ p ∈ properties, ∃ rest, steps = .member p.1 :: rest ∧ (rest, t) ∈ p.2.parts := by
  induction properties with
  | nil => simp [propertyParts]
  | cons p properties ih =>
    rw [propertyParts, List.mem_append, mem_behind_iff, ih, List.exists_mem_cons_iff]

theorem mem_parts_record_iff {closed : Bool} {required : List String}
    {properties : List (String × Schema)} {steps : List Step} {t : Schema} :
    (steps, t) ∈ (record closed required properties).parts ↔
      (steps = [] ∧ t = record closed required properties) ∨
        ∃ p ∈ properties, ∃ rest, steps = .member p.1 :: rest ∧ (rest, t) ∈ p.2.parts := by
  rw [parts, List.mem_cons, Prod.mk.injEq, mem_propertyParts_iff]

/-! ## Violations and parts -/

/-- The violation is found at one of the parts, `path` leading to the whole. -/
def FoundAt (path : List Segment) (v : Violation) (parts : List (List Step × Schema)) : Prop :=
  ∃ steps s, (steps, s) ∈ parts ∧
    ∃ rest, v.path = path ++ rest ∧ Follows steps rest ∧ v.cause ∈ s.ownCauses v.value

theorem FoundAt.mono {path : List Segment} {v : Violation} {parts more : List (List Step × Schema)}
    (hsub : parts ⊆ more) (h : FoundAt path v parts) : FoundAt path v more := by
  obtain ⟨steps, s, hmem, hrest⟩ := h
  exact ⟨steps, s, hsub hmem, hrest⟩

theorem foundAt_self {s : Schema} {path : List Segment} {j : Json} {v : Violation}
    (h : v ∈ here path j (s.ownCauses j)) : FoundAt path v s.parts := by
  obtain ⟨cause, hcause, rfl⟩ := List.mem_map.1 h
  exact ⟨[], s, self_mem_parts s, [], by simp, .nil, hcause⟩

theorem FoundAt.behind {path : List Segment} {v : Violation} {parts : List (List Step × Schema)}
    {step : Step} {segment : Segment} (htakes : step.Takes segment)
    (h : FoundAt (path ++ [segment]) v parts) : FoundAt path v (behind step parts) := by
  obtain ⟨steps, s, hmem, rest, hpath, hfollows, hcause⟩ := h
  exact ⟨step :: steps, s, mem_behind hmem, segment :: rest, by simpa using hpath,
    .cons htakes hfollows, hcause⟩

mutual

/-- Every violation is found at a part of the schema. -/
theorem foundAt_of_mem_violations {s : Schema} {path : List Segment} {j : Json} {v : Violation}
    (h : v ∈ s.violations path j) : FoundAt path v s.parts := by
  cases s with
  | any => simp [violations] at h
  | text rule => exact foundAt_self h
  | integer range options => exact foundAt_self h
  | number range => exact foundAt_self h
  | boolean => exact foundAt_self h
  | list items =>
    unfold violations at h
    rcases List.mem_append.1 h with h | h
    · split at h
      · obtain ⟨⟨value, i⟩, -, hv⟩ := List.mem_flatMap.1 h
        have hbehind := (foundAt_of_mem_violations hv).behind (Step.takes_item i)
        exact hbehind.mono (List.subset_cons_self _ _)
      · contradiction
    · exact foundAt_self h
  | record closed required properties =>
    unfold violations at h
    rcases List.mem_append.1 h with h | h
    · exact (foundAt_of_mem_propertyViolations h).mono (List.subset_cons_self _ _)
    · exact foundAt_self h
  | table values =>
    unfold violations at h
    rcases List.mem_append.1 h with h | h
    · split at h
      · obtain ⟨m, -, hv⟩ := List.mem_flatMap.1 h
        have hbehind := (foundAt_of_mem_violations hv).behind (Step.takes_entry m.1)
        exact hbehind.mono (List.subset_cons_self _ _)
      · contradiction
    · exact foundAt_self h

theorem foundAt_of_mem_propertyViolations {properties : List (String × Schema)}
    {path : List Segment} {j : Json} {v : Violation}
    (h : v ∈ propertyViolations path j properties) : FoundAt path v (propertyParts properties) := by
  cases properties with
  | nil => simp [propertyViolations] at h
  | cons property rest =>
    obtain ⟨name, schema⟩ := property
    rw [propertyViolations, List.mem_append] at h
    rcases h with h | h
    · split at h
      · have hbehind := (foundAt_of_mem_violations h).behind (Step.takes_member name)
        exact hbehind.mono (List.subset_append_left _ _)
      · contradiction
    · exact (foundAt_of_mem_propertyViolations h).mono (List.subset_append_right _ _)

end

/-! ## Causes -/

/-- A schema by itself can give a cause: it has the restriction that the cause is about. -/
def CanGive : Schema → Violation.Cause → Prop
  | s, .wrongKind kind => s.kind? = some kind
  | record _ required _, .missing name => name ∈ required
  | record closed _ _, .unexpected _ => closed = true
  | text rule, .notAmong options => options = rule.options.map .str ∧ rule.options ≠ []
  | integer _ values, .notAmong options => options = values.map .int ∧ values ≠ []
  | integer range _, .below low => range.low = some low
  | number range, .below low => range.low = some low
  | integer range _, .above high => range.high = some high
  | number range, .above high => range.high = some high
  | text rule, .tooShort length => length = rule.minLength ∧ 0 < length
  | text rule, .notRooted => rule.rooted = true
  | _, _ => False

theorem eq_of_mem_kindCauses {kind : Json.Kind} {j : Json} {cause : Violation.Cause}
    (h : cause ∈ kindCauses kind j) : cause = .wrongKind kind := by
  unfold kindCauses at h
  split at h
  · contradiction
  · exact List.mem_singleton.1 h

theorem eq_of_mem_optionCauses {options : List Json} {j : Json} {cause : Violation.Cause}
    (h : cause ∈ optionCauses options j) : cause = .notAmong options ∧ options ≠ [] := by
  unfold optionCauses at h
  split at h
  · contradiction
  · next hfound =>
    refine ⟨List.mem_singleton.1 h, fun hnil => hfound ?_⟩
    simp [hnil]

theorem eq_of_mem_rangeCauses {range : NumberRange} {j : Json} {cause : Violation.Cause}
    (h : cause ∈ rangeCauses range j) :
    (∃ high, range.high = some high ∧ cause = .above high) ∨
      ∃ low, range.low = some low ∧ cause = .below low := by
  unfold rangeCauses at h
  split at h
  · rcases List.mem_append.1 h with h | h
    · split at h
      · next high hhigh =>
        split at h
        · exact .inl ⟨high, hhigh, List.mem_singleton.1 h⟩
        · contradiction
      · contradiction
    · split at h
      · next low hlow =>
        split at h
        · exact .inr ⟨low, hlow, List.mem_singleton.1 h⟩
        · contradiction
      · contradiction
  · contradiction

theorem canGive_of_mem_textCauses {rule : TextRule} {j : Json} {cause : Violation.Cause}
    (h : cause ∈ textCauses rule j) : (text rule).CanGive cause := by
  unfold textCauses at h
  rcases List.mem_append.1 h with h | h
  · obtain ⟨rfl, hne⟩ := eq_of_mem_optionCauses h
    exact ⟨rfl, by simpa using hne⟩
  · split at h
    · rcases List.mem_append.1 h with h | h
      · split at h
        · next hshort =>
          obtain rfl := List.mem_singleton.1 h
          exact ⟨rfl, Nat.zero_lt_of_lt hshort⟩
        · contradiction
      · split at h
        · next hrooted =>
          obtain rfl := List.mem_singleton.1 h
          exact (Bool.and_eq_true_iff.1 hrooted).1
        · contradiction
    · contradiction

theorem canGive_of_mem_unexpectedCauses {closed : Bool} {required : List String}
    {properties : List (String × Schema)} {j : Json} {cause : Violation.Cause}
    (h : cause ∈ if closed then unexpectedCauses properties j else []) :
    (record closed required properties).CanGive cause := by
  split at h
  · next hclosed =>
    unfold unexpectedCauses at h
    split at h
    · simp only at h
      split at h
      · contradiction
      · obtain rfl := List.mem_singleton.1 h
        exact hclosed
    · contradiction
  · contradiction

theorem canGive_of_mem_missingCauses {closed : Bool} {required : List String}
    {properties : List (String × Schema)} {j : Json} {cause : Violation.Cause}
    (h : cause ∈ missingCauses required j) : (record closed required properties).CanGive cause := by
  unfold missingCauses at h
  split at h
  · obtain ⟨name, hname, rfl⟩ := List.mem_map.1 h
    exact (List.mem_filter.1 hname).1
  · contradiction

/-- A value breaks only restrictions that its schema has. -/
theorem canGive_of_mem_ownCauses {s : Schema} {j : Json} {cause : Violation.Cause}
    (h : cause ∈ s.ownCauses j) : s.CanGive cause := by
  have hkind {kind : Json.Kind} (hs : s.kind? = some kind) (h : cause ∈ kindCauses kind j) :
      s.CanGive cause := by
    obtain rfl := eq_of_mem_kindCauses h
    cases s <;> exact hs
  cases s with
  | any => contradiction
  | text rule =>
    rcases List.mem_append.1 h with h | h
    · exact canGive_of_mem_textCauses h
    · exact hkind rfl h
  | integer range options =>
    rcases List.mem_append.1 h with h | h
    · rcases List.mem_append.1 h with h | h
      · obtain ⟨rfl, hne⟩ := eq_of_mem_optionCauses h
        exact ⟨rfl, by simpa using hne⟩
      · rcases eq_of_mem_rangeCauses h with ⟨high, hhigh, rfl⟩ | ⟨low, hlow, rfl⟩
        · exact hhigh
        · exact hlow
    · exact hkind rfl h
  | number range =>
    rcases List.mem_append.1 h with h | h
    · rcases eq_of_mem_rangeCauses h with ⟨high, hhigh, rfl⟩ | ⟨low, hlow, rfl⟩
      · exact hhigh
      · exact hlow
    · exact hkind rfl h
  | boolean => exact hkind rfl h
  | list items => exact hkind rfl h
  | record closed required properties =>
    rcases List.mem_append.1 h with h | h
    · rcases List.mem_append.1 h with h | h
      · exact canGive_of_mem_unexpectedCauses h
      · exact canGive_of_mem_missingCauses h
    · exact hkind rfl h
  | table values => exact hkind rfl h

theorem mem_required_of_canGive {s : Schema} {name : String} (h : s.CanGive (.missing name)) :
    name ∈ s.required := by
  cases s with
  | record closed required properties => exact h
  | _ => exact h.elim

end Schema
end FlowCheck
