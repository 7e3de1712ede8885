import FlowCheck.Proofs.Expression.CustomRules
import FlowCheck.Request.Check

/-!
# What a request is told

Every finding about a request is reported once, in order: what is missing of the required fields,
what is wrong with the fields that are given, and which custom rules are not true.  The three parts
are described by relations that say, case by case, what there is to say about one required field,
one rule for a field and one custom rule (`RequiredFinding`, `FieldFinding`, `CustomFinding`);
`Reported` collects them over a row.

The answer to a request is exactly what they describe, and only a custom rule without an evaluator
keeps it back (`ValidationRules.check_reports`).  That the custom rules are checked for themselves,
and their findings put behind the others, does not show (`ValidationRules.check_eq_merge`).
-/

namespace FlowCheck

/-! ## Findings over a row -/

/-- The findings about the members of a row: one about each member that has one, in the order of the
row. -/
inductive Reported {α : Type} (tells : α → Option Diagnostic → Prop) :
    List α → List Diagnostic → Prop
  | nil : Reported tells [] []
  | silent {a : α} {row : List α} {found : List Diagnostic} (h : tells a none)
      (hrow : Reported tells row found) : Reported tells (a :: row) found
  | finding {a : α} {row : List α} {d : Diagnostic} {found : List Diagnostic}
      (h : tells a (some d)) (hrow : Reported tells row found) :
      Reported tells (a :: row) (d :: found)

/-- Where it is settled what there is to say about each member, it is settled about a row. -/
theorem reported_iff {α : Type} {tells : α → Option Diagnostic → Prop}
    {finding? : α → Option Diagnostic} (h : ∀ a o, tells a o ↔ finding? a = o) {row : List α}
    {found : List Diagnostic} : Reported tells row found ↔ row.filterMap finding? = found := by
  constructor
  · intro hfound
    induction hfound with
    | nil => rfl
    | silent ha _ ih => rw [List.filterMap_cons_none ((h _ _).1 ha), ih]
    | finding ha _ ih => rw [List.filterMap_cons_some ((h _ _).1 ha), ih]
  · rintro rfl
    induction row with
    | nil => exact .nil
    | cons a row ih =>
      cases ha : finding? a with
      | none =>
        rw [List.filterMap_cons_none ha]
        exact .silent ((h _ _).2 ha) ih
      | some d =>
        rw [List.filterMap_cons_some ha]
        exact .finding ((h _ _).2 ha) ih

/-! ## What there is to say -/

/-- The values that count as not given. -/
def Json.blanks : List Json := [.null, .str "", .arr [], .obj []]

theorem Json.isAbsent_iff {j : Json} : j.isAbsent = true ↔ j ∈ Json.blanks := by
  cases j <;> simp [Json.isAbsent, Json.blanks]

/-- A required field has to be there, with a value that is not blank. -/
inductive RequiredFinding (data : Members) (field : String) : Option Diagnostic → Prop
  | given {j : Json} (hget : data.get? field = some j) (hj : j ∉ Json.blanks) :
      RequiredFinding data field none
  | missing (hget : ∀ j, data.get? field = some j → j ∈ Json.blanks) :
      RequiredFinding data field
        (some ⟨field, .required, "field '" ++ field ++ "' is required", none⟩)

theorem requiredFinding_iff {data : Members} (field : String) (o : Option Diagnostic) :
    RequiredFinding data field o ↔ ValidationRules.requiredFinding? data field = o := by
  constructor
  · rintro (⟨hget, hj⟩ | hget)
    · rw [ValidationRules.requiredFinding?, hget, Option.all_some,
        if_neg (mt Json.isAbsent_iff.1 hj)]
    · rw [ValidationRules.requiredFinding?, if_pos]
      exact Option.all_eq_true .. |>.2 fun j hj => Json.isAbsent_iff.2 (hget j hj)
  · rintro rfl
    unfold ValidationRules.requiredFinding?
    cases hget : data.get? field with
    | none => exact .missing fun j hj => by simp [hget] at hj
    | some j =>
      rw [Option.all_some]
      by_cases hj : j.isAbsent = true
      · rw [if_pos hj]
        exact .missing fun k hk => by
          obtain rfl := Option.some.inj (hget.symm.trans hk)
          exact Json.isAbsent_iff.1 hj
      · rw [if_neg hj]
        exact .given hget (mt Json.isAbsent_iff.2 hj)

theorem reported_required_iff {data : Members} {fields : List String} {found : List Diagnostic} :
    Reported (RequiredFinding data) fields found ↔
      fields.filterMap (ValidationRules.requiredFinding? data) = found :=
  reported_iff requiredFinding_iff

/-- A rule is about a field that is there, and tells its first problem. -/
inductive FieldFinding (data : Members) (rule : FieldRule) : Option Diagnostic → Prop
  | absent (hget : data.get? rule.field = none) : FieldFinding data rule none
  | right {j : Json} (hget : data.get? rule.field = some j)
      (hj : rule.problem? Pattern.compile j = none) : FieldFinding data rule none
  | wrong {j : Json} {p : FieldProblem} (hget : data.get? rule.field = some j)
      (hj : rule.problem? Pattern.compile j = some p) :
      FieldFinding data rule (some ⟨rule.field, p.kind, rule.messageFor p, some j⟩)

theorem fieldFinding_iff {data : Members} (rule : FieldRule) (o : Option Diagnostic) :
    FieldFinding data rule o ↔ ValidationRules.fieldFinding? data rule = o := by
  constructor
  · rintro (hget | ⟨hget, hj⟩ | ⟨hget, hj⟩) <;>
      rw [ValidationRules.fieldFinding?, hget]
    · rfl
    · rw [Option.bind_some, FieldRule.finding?, FieldRule.findingBy, hj, Option.map_none]
    · rw [Option.bind_some, FieldRule.finding?, FieldRule.findingBy, hj, Option.map_some]
  · rintro rfl
    unfold ValidationRules.fieldFinding?
    cases hget : data.get? rule.field with
    | none => exact .absent hget
    | some j =>
      rw [Option.bind_some, FieldRule.finding?, FieldRule.findingBy]
      cases hj : rule.problem? Pattern.compile j with
      | none => exact .right hget hj
      | some p => exact .wrong hget hj

theorem reported_fields_iff {data : Members} {rules : List FieldRule} {found : List Diagnostic} :
    Reported (FieldFinding data) rules found ↔
      rules.filterMap (ValidationRules.fieldFinding? data) = found :=
  reported_iff fieldFinding_iff

/-- A custom rule has to be true under the evaluator that is set; one that is false tells its own
message, one that cannot be unwrapped or evaluated tells why. -/
inductive CustomFinding (evaluator? : Option Evaluator) (data : Members) (rule : CustomRule) :
    Option Diagnostic → Prop
  | true {evaluator : Evaluator} {text : String} (heval : evaluator? = some evaluator)
      (htext : Template.unwrap rule.expr = .ok text) (h : evaluator text data = .ok true) :
      CustomFinding evaluator? data rule none
  | false {evaluator : Evaluator} {text : String} (heval : evaluator? = some evaluator)
      (htext : Template.unwrap rule.expr = .ok text) (h : evaluator text data = .ok false) :
      CustomFinding evaluator? data rule
        (some ⟨"", .custom, rule.message, some (.str rule.expr)⟩)
  | malformed {evaluator : Evaluator} {fault : Fault} (heval : evaluator? = some evaluator)
      (htext : Template.unwrap rule.expr = .error fault) :
      CustomFinding evaluator? data rule
        (some ⟨"", .expression, "expression evaluation failed: " ++ fault.text,
          some (.str rule.expr)⟩)
  | failed {evaluator : Evaluator} {text : String} {fault : Fault}
      (heval : evaluator? = some evaluator) (htext : Template.unwrap rule.expr = .ok text)
      (h : evaluator text data = .error fault) :
      CustomFinding evaluator? data rule
        (some ⟨"", .expression, "expression evaluation failed: " ++ fault.text,
          some (.str rule.expr)⟩)

theorem customFinding_iff {evaluator : Evaluator} {data : Members} (rule : CustomRule)
    (o : Option Diagnostic) :
    CustomFinding (some evaluator) data rule o ↔ rule.finding? evaluator data = o := by
  constructor
  · rintro (⟨⟨⟩, htext, h⟩ | ⟨⟨⟩, htext, h⟩ | ⟨⟨⟩, htext⟩ | ⟨⟨⟩, htext, h⟩)
    · rw [CustomRule.finding?, CustomRule.outcome_of_unwrap htext, h]
    · rw [CustomRule.finding?, CustomRule.outcome_of_unwrap htext, h]
    · rw [CustomRule.finding?, CustomRule.outcome, htext]
      rfl
    · rw [CustomRule.finding?, CustomRule.outcome_of_unwrap htext, h]
  · rintro rfl
    cases htext : Template.unwrap rule.expr with
    | error fault =>
      rw [CustomRule.finding?, CustomRule.outcome, htext]
      exact .malformed rfl htext
    | ok text =>
      rw [CustomRule.finding?, CustomRule.outcome_of_unwrap htext]
      cases h : evaluator text data with
      | error fault => exact .failed rfl htext h
      | ok holds =>
        cases holds with
        | true => exact .true rfl htext h
        | false => exact .false rfl htext h

/-- Without an evaluator there is something to say about no rule only. -/
theorem reported_custom_iff {checker : RuleChecker} {data : Members} {rules : List CustomRule}
    {found : List Diagnostic} :
    Reported (CustomFinding checker.evaluator data) rules found ↔
      checker.findings rules none data = .ok found := by
  cases heval : checker.evaluator with
  | some evaluator =>
    have hset : (none <|> checker.evaluator) = some evaluator := by simp [heval]
    rw [RuleChecker.findings_of_evaluator hset, Except.ok.injEq]
    exact reported_iff customFinding_iff
  | none =>
    cases rules with
    | nil =>
      rw [RuleChecker.findings_nil, Except.ok.injEq]
      exact ⟨by rintro ⟨⟩; rfl, by rintro rfl; exact .nil⟩
    | cons rule rest =>
      rw [RuleChecker.findings_of_no_evaluator (by simp) (by simp [heval])]
      constructor
      · rintro (_ | ⟨h, _⟩ | ⟨h, _⟩) <;> cases h <;> contradiction
      · rintro ⟨⟩

/-! ## The answer -/

namespace ValidationRules

variable {rules : ValidationRules} {checker : RuleChecker} {data : Members}

/-- What there is to say about a request: about the required fields, then about the fields with
rules, then about the custom rules. -/
def Finds (rules : ValidationRules) (checker : RuleChecker) (data : Members)
    (found : List Diagnostic) : Prop :=
  ∃ missing wrong untrue, Reported (RequiredFinding data) rules.required missing ∧
    Reported (FieldFinding data) rules.rules wrong ∧
    Reported (CustomFinding checker.evaluator data) rules.customRules untrue ∧
    found = missing ++ wrong ++ untrue

theorem finds_iff {found : List Diagnostic} : rules.Finds checker data found ↔
    ∃ untrue, checker.findings rules.customRules none data = .ok untrue ∧
      rules.findings data ++ untrue = found := by
  simp only [Finds, reported_required_iff, reported_fields_iff, reported_custom_iff]
  constructor
  · rintro ⟨_, _, untrue, rfl, rfl, hcustom, rfl⟩
    exact ⟨untrue, hcustom, rfl⟩
  · rintro ⟨untrue, hcustom, rfl⟩
    exact ⟨_, _, untrue, rfl, rfl, hcustom, rfl⟩

theorem Finds.unique {found found' : List Diagnostic} (h : rules.Finds checker data found)
    (h' : rules.Finds checker data found') : found = found' := by
  obtain ⟨untrue, hcustom, rfl⟩ := finds_iff.1 h
  obtain ⟨untrue', hcustom', rfl⟩ := finds_iff.1 h'
  rw [Except.ok.inj (hcustom.symm.trans hcustom')]

/-- There is something to say about every request, if only that nothing is wrong, unless there is a
custom rule and no evaluator. -/
theorem exists_finds_iff : (∃ found, rules.Finds checker data found) ↔
    ¬ (rules.customRules ≠ [] ∧ checker.evaluator = none) := by
  have hset : (none <|> checker.evaluator) = checker.evaluator := by simp
  simp only [finds_iff]
  cases hcustom : checker.findings rules.customRules none data with
  | error fault =>
    obtain ⟨-, hrules, hnone⟩ := RuleChecker.findings_eq_error_iff.1 hcustom
    rw [hset] at hnone
    simp [hrules, hnone]
  | ok untrue =>
    have hgiven : ¬ (rules.customRules ≠ [] ∧ checker.evaluator = none) := by
      rintro ⟨hrules, hnone⟩
      have herror : checker.findings rules.customRules none data = .error .missingEvaluator :=
        RuleChecker.findings_of_no_evaluator hrules (hset.trans hnone)
      rw [hcustom] at herror
      contradiction
    simp [hgiven]

/-- What there is to say is the answer. -/
theorem check_of_finds {found : List Diagnostic} (h : rules.Finds checker data found) :
    rules.check checker data =
      if found = [] then .ok () else .error (.invalidData ⟨found⟩) := by
  obtain ⟨untrue, hcustom, rfl⟩ := finds_iff.1 h
  rw [check, hcustom, ← Diagnostics.report_eq]
  rfl

theorem check_of_no_evaluator (hrules : rules.customRules ≠ []) (hnone : checker.evaluator = none) :
    rules.check checker data = .error .missingEvaluator := by
  have hset : (none <|> checker.evaluator) = none := by simp [hnone]
  rw [check, RuleChecker.findings_of_no_evaluator hrules hset]
  rfl

/-- The answer is made of two: what the first passes find is kept apart from the custom rules, whose
findings are put behind it and whose other faults take its place. -/
theorem check_eq_merge : rules.check checker data =
    match checker.check rules.customRules none data with
    | .ok () => (Diagnostics.mk (rules.findings data)).toExcept.mapError .invalidData
    | .error (.invalidData custom) =>
      (Diagnostics.mk (rules.findings data ++ custom.errors)).toExcept.mapError .invalidData
    | .error fault => .error fault := by
  rw [check, RuleChecker.check]
  cases hcustom : checker.findings rules.customRules none data with
  | error fault =>
    obtain ⟨rfl, -, -⟩ := RuleChecker.findings_eq_error_iff.1 hcustom
    rfl
  | ok untrue =>
    cases untrue with
    | nil =>
      change (Diagnostics.mk (rules.findings data ++ [])).toExcept.mapError Fault.invalidData = _
      rw [List.append_nil]
      rfl
    | cons d rest => rfl

/-- The answer to a request: every finding is reported, once and in order, unless there is a custom
rule and no evaluator, and the data are accepted exactly when there is none. -/
theorem check_reports :
    (rules.check checker data = .error .missingEvaluator ↔
        rules.customRules ≠ [] ∧ checker.evaluator = none) ∧
      (rules.check checker data = .ok () ↔ rules.Finds checker data []) ∧
      (∀ found, rules.check checker data = .error (.invalidData ⟨found⟩) ↔
        found ≠ [] ∧ rules.Finds checker data found) ∧
      (rules.check checker data = .error .missingEvaluator ∨
        ∃ found, rules.Finds checker data found) := by
  by_cases hmissing : rules.customRules ≠ [] ∧ checker.evaluator = none
  · have hsilent (found : List Diagnostic) : ¬ rules.Finds checker data found := fun h =>
      exists_finds_iff.1 ⟨found, h⟩ hmissing
    have hcheck : rules.check checker data = .error .missingEvaluator :=
      check_of_no_evaluator hmissing.1 hmissing.2
    simp [hcheck, hsilent, hmissing]
  · obtain ⟨found, hfound⟩ := exists_finds_iff.2 hmissing
    have hfinds (other : List Diagnostic) : rules.Finds checker data other ↔ other = found := by
      constructor
      · intro h
        exact h.unique hfound
      · rintro rfl
        exact hfound
    rw [check_of_finds hfound]
    simp only [hfinds, hmissing]
    split <;> simp_all [eq_comm]

end ValidationRules
end FlowCheck
