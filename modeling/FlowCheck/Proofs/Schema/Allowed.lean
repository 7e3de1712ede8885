import FlowCheck.Schema.Check
import Mathlib.Data.List.Basic

/-!
# What a schema allows

`Schema.Allows` says which values a schema is about, without listing violations: a value of the
right kind, all of whose members and items are allowed in their turn.  The check of a value finds
no violation exactly when the value is allowed (`Schema.violations_eq_nil_iff`).  A workflow
document is checked in two passes, the second one for the resources inside it; together they ask
for one shape, which holds the shape of a resource (`DocumentKind.check_eq_ok_iff_allows`).
-/

namespace FlowCheck

/-- The text is one of the options, if there are any, long enough, and rooted where it has to be. -/
structure TextRule.Allows (rule : TextRule) (s : String) : Prop where
  option : rule.options ≠ [] → s ∈ rule.options
  long : rule.minLength ≤ s.length
  rooted : rule.rooted = true → s.toList.head? = some '/'

/-- The number lies between the bounds. -/
structure NumberRange.Allows (range : NumberRange) (n : Number) : Prop where
  low : ∀ low, range.low = some low → n.compareInt low ≠ .lt
  high : ∀ high, range.high = some high → n.compareInt high ≠ .gt

namespace Schema

mutual

/-- The value has the shape of the schema. -/
def Allows : Schema → Json → Prop
  | any, _ => True
  | text rule, j => ∃ s, j = .str s ∧ rule.Allows s
  | integer range options, j =>
    ∃ n, j = .num n ∧ isOfKind .integer j = true ∧ range.Allows n ∧
      (options ≠ [] → ∃ i ∈ options, n.compareInt i = .eq)
  | number range, j => ∃ n, j = .num n ∧ range.Allows n
  | boolean, j => ∃ b, j = .bool b
  | list items, j => ∃ values, j = .arr values ∧ ∀ v ∈ values, items.Allows v
  | record closed required properties, j =>
    ∃ members, j = .obj members ∧ AllowsProperties members properties ∧
      (∀ name ∈ required, Members.has members name = true) ∧
      (closed = true → ∀ m ∈ members, ∃ p ∈ properties, p.1 = m.1)
  | table values, j => ∃ members, j = .obj members ∧ ∀ m ∈ members, values.Allows m.2

/-- The members that a record names, as far as they are there, have the shapes it gives them. -/
def AllowsProperties (members : Members) : List (String × Schema) → Prop
  | [] => True
  | (name, schema) :: rest =>
    (∀ j, members.get? name = some j → schema.Allows j) ∧ AllowsProperties members rest

end

/-- Only the schema of any value allows `null`. -/
theorem allows_null_iff {s : Schema} : s.Allows .null ↔ s.kind? = none := by
  cases s <;> simp [Allows, kind?]

/-! ## Single restrictions -/

theorem here_eq_nil_iff {path : List Segment} {j : Json} {causes : List Violation.Cause} :
    here path j causes = [] ↔ causes = [] := by
  simp [here]

theorem kindCauses_eq_nil_iff {kind : Json.Kind} {j : Json} :
    kindCauses kind j = [] ↔ isOfKind kind j = true := by
  simp [kindCauses]

theorem optionCauses_eq_nil_iff {options : List Json} {j : Json} :
    optionCauses options j = [] ↔ (options ≠ [] → ∃ o ∈ options, isOption j o = true) := by
  unfold optionCauses
  by_cases hnil : options = []
  · simp [hnil]
  · simp [hnil]

theorem isOfKind_string_iff {j : Json} : isOfKind .string j = true ↔ ∃ s, j = .str s := by
  rcases j with _ | _ | ⟨_ | _⟩ | _ | _ | _ <;> simp [isOfKind, Json.kind]

theorem isOfKind_number_iff {j : Json} : isOfKind .number j = true ↔ ∃ n, j = .num n := by
  cases j <;> simp [isOfKind, Json.kind]

theorem isOfKind_boolean_iff {j : Json} : isOfKind .boolean j = true ↔ ∃ b, j = .bool b := by
  rcases j with _ | _ | ⟨_ | _⟩ | _ | _ | _ <;> simp [isOfKind, Json.kind]

theorem isOfKind_array_iff {j : Json} : isOfKind .array j = true ↔ ∃ values, j = .arr values := by
  rcases j with _ | _ | ⟨_ | _⟩ | _ | _ | _ <;> simp [isOfKind, Json.kind]

theorem isOfKind_object_iff {j : Json} :
    isOfKind .object j = true ↔ ∃ members, j = .obj members := by
  rcases j with _ | _ | ⟨_ | _⟩ | _ | _ | _ <;> simp [isOfKind, Json.kind]

theorem exists_num_of_isOfKind_integer {j : Json} (h : isOfKind .integer j = true) :
    ∃ n, j = .num n := by
  cases j with
  | num n => exact ⟨n, rfl⟩
  | _ => simp [isOfKind, Json.kind] at h

theorem textCauses_str_eq_nil_iff {rule : TextRule} {s : String} :
    textCauses rule (.str s) = [] ↔ rule.Allows s := by
  have hoption : optionCauses (rule.options.map .str) (.str s) = [] ↔
      (rule.options ≠ [] → s ∈ rule.options) := by
    rw [optionCauses_eq_nil_iff]
    simp [isOption, Json.same, Json.sameBy]
  have hlong : (if s.length < rule.minLength then [Violation.Cause.tooShort rule.minLength]
      else []) = [] ↔ rule.minLength ≤ s.length := by
    simp
  have hrooted : (if rule.rooted && s.toList.head? != some '/' then [Violation.Cause.notRooted]
      else []) = [] ↔ (rule.rooted = true → s.toList.head? = some '/') := by
    simp
  unfold textCauses
  rw [List.append_eq_nil_iff, List.append_eq_nil_iff, hoption, hlong, hrooted]
  exact ⟨fun h => ⟨h.1, h.2.1, h.2.2⟩, fun h => ⟨h.option, h.long, h.rooted⟩⟩

theorem rangeCauses_num_eq_nil_iff {range : NumberRange} {n : Number} :
    rangeCauses range (.num n) = [] ↔ range.Allows n := by
  unfold rangeCauses
  rw [List.append_eq_nil_iff]
  constructor
  · rintro ⟨hhigh, hlow⟩
    refine ⟨fun low h => ?_, fun high h => ?_⟩
    · simpa [h] using hlow
    · simpa [h] using hhigh
  · rintro ⟨hlow, hhigh⟩
    refine ⟨?_, ?_⟩
    · cases h : range.high with
      | none => rfl
      | some high => simpa using hhigh high h
    · cases h : range.low with
      | none => rfl
      | some low => simpa using hlow low h

theorem intOptionCauses_eq_nil_iff {options : List Int} {n : Number} :
    optionCauses (options.map .int) (.num n) = [] ↔
      (options ≠ [] → ∃ i ∈ options, n.compareInt i = .eq) := by
  rw [optionCauses_eq_nil_iff]
  simp [isOption, Json.int]

theorem unexpectedCauses_obj_eq_nil_iff {properties : List (String × Schema)}
    {members : Members} : unexpectedCauses properties (.obj members) = [] ↔
      ∀ m ∈ members, ∃ p ∈ properties, p.1 = m.1 := by
  unfold unexpectedCauses
  simp

theorem missingCauses_obj_eq_nil_iff {required : List String} {members : Members} :
    missingCauses required (.obj members) = [] ↔
      ∀ name ∈ required, Members.has members name = true := by
  unfold missingCauses
  simp

/-! ## Whole values -/

theorem flatMap_zipIdx_eq_nil_iff {α β : Type} {values : List α} {f : α × Nat → List β}
    {p : α → Prop} (h : ∀ v, f v = [] ↔ p v.1) :
    values.zipIdx.flatMap f = [] ↔ ∀ v ∈ values, p v := by
  rw [List.flatMap_eq_nil_iff]
  constructor
  · intro hall v hv
    obtain ⟨i, hi⟩ := List.getElem?_of_mem hv
    exact (h (v, i)).1 (hall (v, i) (List.mk_mem_zipIdx_iff_getElem?.2 hi))
  · rintro hall ⟨v, i⟩ hmem
    exact (h (v, i)).2 (hall v (List.fst_mem_of_mem_zipIdx hmem))

mutual

/-- A schema has no violation exactly in the values that it allows. -/
theorem violations_eq_nil_iff (path : List Segment) (j : Json) :
    (s : Schema) → (s.violations path j = [] ↔ s.Allows j)
  | any => by simp [violations, Allows]
  | text rule => by
    rw [violations, Allows, here_eq_nil_iff, List.append_eq_nil_iff, kindCauses_eq_nil_iff,
      isOfKind_string_iff]
    constructor
    · rintro ⟨htext, s, rfl⟩
      exact ⟨s, rfl, textCauses_str_eq_nil_iff.1 htext⟩
    · rintro ⟨s, rfl, hrule⟩
      exact ⟨textCauses_str_eq_nil_iff.2 hrule, s, rfl⟩
  | integer range options => by
    rw [violations, Allows, here_eq_nil_iff, List.append_eq_nil_iff, List.append_eq_nil_iff,
      kindCauses_eq_nil_iff]
    constructor
    · rintro ⟨⟨hoption, hrange⟩, hkind⟩
      obtain ⟨n, rfl⟩ := exists_num_of_isOfKind_integer hkind
      exact ⟨n, rfl, hkind, rangeCauses_num_eq_nil_iff.1 hrange,
        intOptionCauses_eq_nil_iff.1 hoption⟩
    · rintro ⟨n, rfl, hkind, hrange, hoption⟩
      exact ⟨⟨intOptionCauses_eq_nil_iff.2 hoption, rangeCauses_num_eq_nil_iff.2 hrange⟩, hkind⟩
  | number range => by
    rw [violations, Allows, here_eq_nil_iff, List.append_eq_nil_iff, kindCauses_eq_nil_iff,
      isOfKind_number_iff]
    constructor
    · rintro ⟨hrange, n, rfl⟩
      exact ⟨n, rfl, rangeCauses_num_eq_nil_iff.1 hrange⟩
    · rintro ⟨n, rfl, hrange⟩
      exact ⟨rangeCauses_num_eq_nil_iff.2 hrange, n, rfl⟩
  | boolean => by
    rw [violations, Allows, here_eq_nil_iff, kindCauses_eq_nil_iff, isOfKind_boolean_iff]
  | list items => by
    unfold violations
    rw [Allows, List.append_eq_nil_iff, here_eq_nil_iff, kindCauses_eq_nil_iff,
      isOfKind_array_iff]
    have hitems (values : List Json) : values.zipIdx.flatMap (fun v =>
        items.violations (path ++ [.index v.2]) v.1) = [] ↔ ∀ v ∈ values, items.Allows v :=
      flatMap_zipIdx_eq_nil_iff fun v => violations_eq_nil_iff _ v.1 items
    constructor
    · rintro ⟨hnil, values, rfl⟩
      exact ⟨values, rfl, (hitems values).1 hnil⟩
    · rintro ⟨values, rfl, hall⟩
      exact ⟨(hitems values).2 hall, values, rfl⟩
  | record closed required properties => by
    rw [violations, Allows, List.append_eq_nil_iff, here_eq_nil_iff, List.append_eq_nil_iff,
      List.append_eq_nil_iff, kindCauses_eq_nil_iff, isOfKind_object_iff]
    constructor
    · rintro ⟨hproperties, ⟨hclosed, hmissing⟩, members, rfl⟩
      refine ⟨members, rfl, (propertyViolations_eq_nil_iff path members properties).1 hproperties,
        missingCauses_obj_eq_nil_iff.1 hmissing, fun h => ?_⟩
      rw [if_pos h] at hclosed
      exact unexpectedCauses_obj_eq_nil_iff.1 hclosed
    · rintro ⟨members, rfl, hproperties, hrequired, hclosed⟩
      refine ⟨(propertyViolations_eq_nil_iff path members properties).2 hproperties,
        ⟨?_, missingCauses_obj_eq_nil_iff.2 hrequired⟩, members, rfl⟩
      by_cases h : closed = true
      · rw [if_pos h]
        exact unexpectedCauses_obj_eq_nil_iff.2 (hclosed h)
      · rw [if_neg h]
  | table values => by
    unfold violations
    rw [Allows, List.append_eq_nil_iff, here_eq_nil_iff, kindCauses_eq_nil_iff,
      isOfKind_object_iff]
    have hentries (members : Members) : members.flatMap (fun m =>
        values.violations (path ++ [.key m.1]) m.2) = [] ↔ ∀ m ∈ members, values.Allows m.2 := by
      rw [List.flatMap_eq_nil_iff]
      exact forall₂_congr fun m _ => violations_eq_nil_iff _ m.2 values
    constructor
    · rintro ⟨hnil, members, rfl⟩
      exact ⟨members, rfl, (hentries members).1 hnil⟩
    · rintro ⟨members, rfl, hall⟩
      exact ⟨(hentries members).2 hall, members, rfl⟩

theorem propertyViolations_eq_nil_iff (path : List Segment) (members : Members) :
    (properties : List (String × Schema)) →
      (propertyViolations path (.obj members) properties = [] ↔
        AllowsProperties members properties)
  | [] => by simp [propertyViolations, AllowsProperties]
  | (name, schema) :: rest => by
    rw [propertyViolations, AllowsProperties, List.append_eq_nil_iff,
      propertyViolations_eq_nil_iff path members rest]
    refine and_congr_left fun _ => ?_
    cases hget : Json.get? name (.obj members) with
    | none =>
      have hnone : members.get? name = none := hget
      simp [hnone]
    | some value =>
      have hsome : members.get? name = some value := hget
      simp [hsome, violations_eq_nil_iff _ value schema]

end

/-- The members that a record schema names. -/
def properties : Schema → List (String × Schema)
  | record _ _ properties => properties
  | _ => []

/-- A member that a record names has the shape it gives it. -/
theorem allows_of_lookup {members : Members} {properties : List (String × Schema)} {name : String}
    {s : Schema} (hproperties : AllowsProperties members properties)
    (hlookup : properties.lookup name = some s) {j : Json} (hj : members.get? name = some j) :
    s.Allows j := by
  induction properties with
  | nil => contradiction
  | cons property rest ih =>
    obtain ⟨hhead, hrest⟩ := hproperties
    rw [List.lookup_cons] at hlookup
    split at hlookup
    · next heq =>
      obtain rfl : property.2 = s := Option.some.inj hlookup
      exact hhead j (by rw [← beq_iff_eq.1 heq]; exact hj)
    · exact ih hrest hlookup

end Schema

/-! ## Documents -/

namespace DocumentKind

theorem diagnose_eq_nil_iff {kind : DocumentKind} {base : String} {doc : Json} :
    kind.diagnose base doc = [] ↔ kind.schema.Allows doc := by
  rw [diagnose, List.map_eq_nil_iff, Schema.violations_eq_nil_iff]

theorem check_eq_ok_iff {kind : DocumentKind} {doc : Json} :
    kind.check doc = .ok () ↔ kind.diagnoseAll doc = [] := by
  unfold check Diagnostics.toExcept
  cases h : kind.diagnoseAll doc <;> simp [Except.mapError]

/-- A document that is not accepted is refused with all its diagnostics. -/
theorem check_eq_error {kind : DocumentKind} {doc : Json} (h : kind.diagnoseAll doc ≠ []) :
    kind.check doc = .error (.schemaViolated kind ⟨kind.diagnoseAll doc⟩) := by
  have hfound : (kind.diagnoseAll doc).isEmpty = false := by simpa using h
  simp only [check, Diagnostics.toExcept, hfound, Bool.false_eq_true, if_false, Except.mapError]

/-- An allowed workflow document has nothing but objects for resources, so that none of them
escapes the check. -/
theorem mem_inlineResources {doc : Json} {items : List Json} {item : Json}
    (hobjects : (Schema.list (.table .any)).Allows (.arr items))
    (hitems : doc.get? "resources" = some (.arr items)) (hitem : item ∈ items) :
    ∃ i, (item, i) ∈ inlineResources doc := by
  obtain ⟨values, hvalues, hall⟩ := hobjects
  obtain rfl : items = values := by simpa using hvalues
  obtain ⟨ms, rfl, -⟩ := hall item hitem
  obtain ⟨i, hi⟩ := List.getElem?_of_mem hitem
  refine ⟨i, ?_⟩
  rw [inlineResources, hitems]
  exact List.mem_filter.2 ⟨List.mk_mem_zipIdx_iff_getElem?.2 hi, by simp [Json.kind]⟩

/-- The resources inside a workflow document are its items that are objects. -/
theorem of_mem_inlineResources {doc item : Json} {i : Nat} (h : (item, i) ∈ inlineResources doc) :
    ∃ items, doc.get? "resources" = some (.arr items) ∧ item ∈ items := by
  unfold inlineResources at h
  split at h
  · next items hitems =>
    exact ⟨items, hitems, List.fst_mem_of_mem_zipIdx (List.mem_of_mem_filter h)⟩
  · contradiction

theorem table_any_allows_of_resource {j : Json} (h : Schema.resource.Allows j) :
    (Schema.table .any).Allows j := by
  obtain ⟨members, rfl, -⟩ := h
  exact ⟨members, rfl, fun _ _ => trivial⟩

/-- The shape of a whole document, with that of the documents inside it. -/
def wholeSchema : DocumentKind → Schema
  | workflow => .record true ["apiVersion", "kind", "metadata"]
    [("apiVersion", Schema.oneOf ["kdeps.io/v1"]), ("kind", Schema.oneOf ["Workflow"]),
      ("metadata", Schema.workflowMetadata), ("resources", .list Schema.resource),
      ("settings", Schema.settings)]
  | resource => Schema.resource

theorem wholeSchema_workflow_allows_iff {doc : Json} : workflow.wholeSchema.Allows doc ↔
    Schema.workflow.Allows doc ∧ ∀ items, doc.get? "resources" = some (.arr items) →
      ∀ item ∈ items, Schema.resource.Allows item := by
  constructor
  · rintro ⟨members, rfl, ⟨hversion, hkind, hmetadata, hresources, hsettings⟩, hrequired, hclosed⟩
    refine ⟨⟨members, rfl, ⟨hversion, hkind, hmetadata, fun j hj => ?_, hsettings⟩, hrequired,
      by simpa using hclosed⟩, fun items hitems item hitem => ?_⟩
    · obtain ⟨values, rfl, hall⟩ := hresources j hj
      exact ⟨values, rfl, fun v hv => table_any_allows_of_resource (hall v hv)⟩
    · obtain ⟨values, hvalues, hall⟩ := hresources _ hitems
      obtain rfl : items = values := by simpa using hvalues
      exact hall item hitem
  · rintro ⟨⟨members, rfl, ⟨hversion, hkind, hmetadata, hresources, hsettings⟩, hrequired, hclosed⟩,
      hall⟩
    refine ⟨members, rfl, ⟨hversion, hkind, hmetadata, fun j hj => ?_, hsettings⟩, hrequired,
      by simpa using hclosed⟩
    obtain ⟨values, rfl, -⟩ := hresources j hj
    exact ⟨values, rfl, fun v hv => hall values hj v hv⟩

/-- A document is accepted exactly when its whole shape is allowed. -/
theorem check_eq_ok_iff_allows {kind : DocumentKind} {doc : Json} :
    kind.check doc = .ok () ↔ kind.wholeSchema.Allows doc := by
  rw [check_eq_ok_iff]
  unfold diagnoseAll
  rw [List.append_eq_nil_iff, diagnose_eq_nil_iff]
  cases kind with
  | resource => exact and_iff_left rfl
  | workflow =>
    rw [wholeSchema_workflow_allows_iff, List.flatMap_eq_nil_iff]
    refine and_congr_right fun hdoc => ?_
    constructor
    · intro hall items hitems item hitem
      obtain ⟨members, rfl, hproperties, -⟩ := hdoc
      have hobjects : (Schema.list (.table .any)).Allows (.arr items) :=
        Schema.allows_of_lookup hproperties rfl hitems
      obtain ⟨i, hi⟩ := mem_inlineResources hobjects hitems hitem
      exact diagnose_eq_nil_iff.1 (hall _ hi)
    · rintro hall ⟨item, i⟩ hmem
      obtain ⟨items, hitems, hitem⟩ := of_mem_inlineResources hmem
      exact diagnose_eq_nil_iff.2 (hall items hitems item hitem)

end DocumentKind
end FlowCheck
