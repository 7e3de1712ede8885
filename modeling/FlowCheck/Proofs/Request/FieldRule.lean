import FlowCheck.Proofs.Number.Nearest
import FlowCheck.Request.Field
import Mathlib.Data.Option.Basic

/-!
# What a field rule asks of a value

A rule looks at the type of a value and then at what its kind of value is asked for.  Bounds are
looked at one after the other, so a number below the least is not compared with the most
(`FieldRule.reports_minimum_iff`, `FieldRule.reports_maximum_iff`).

A rule may list the values allowed.  The list is held against texts only: a value passes the rule
when it passes the rule without the list and, if it is a text, is on the list
(`FieldRule.finding?_eq_none_iff_of_options`).
-/

namespace FlowCheck

/-! ## Types -/

namespace FieldType

variable {t : FieldType} {p : FieldProblem}

theorem kind_of_textProblem? {s : String} (h : t.textProblem? s = some p) : p.kind = .type := by
  cases t with
  | email | uuid | date =>
    obtain ⟨-, heq⟩ := Option.ite_none_left_eq_some.1 h
    rw [← Option.some.inj heq]
    rfl
  | url =>
    obtain ⟨problem, -, rfl⟩ := Option.map_eq_some_iff.1 h
    rfl
  | string | integer | number | boolean | array | object => contradiction

/-- A problem with the type of a value is reported as one. -/
theorem kind_of_problem? {j : Json} (h : t.problem? j = some p) : p.kind = .type := by
  unfold problem? at h
  split at h
  · split at h
    · exact kind_of_textProblem? h
    · contradiction
  · obtain rfl := Option.some.inj h
    rfl

end FieldType

namespace FieldRule

variable {rule : FieldRule}

theorem kind_of_typeProblem? {j : Json} {p : FieldProblem} (h : rule.typeProblem? j = some p) :
    p.kind = .type := by
  obtain ⟨t, -, ht⟩ := Option.bind_eq_some_iff.1 h
  exact FieldType.kind_of_problem? ht

/-- A bound that is not kept is reported as a problem with this bound. -/
theorem kind_of_bound {α : Type} {bound : Option α} {broken : α → Prop} [DecidablePred broken]
    (problem : α → FieldProblem) {kind : CheckKind} (hkind : ∀ a, (problem a).kind = kind)
    {p : FieldProblem}
    (h : (bound.bind fun a => if broken a then some (problem a) else none) = some p) :
    p.kind = kind := by
  obtain ⟨a, -, ha⟩ := Option.bind_eq_some_iff.1 h
  obtain ⟨-, heq⟩ := Option.ite_none_right_eq_some.1 ha
  rw [← Option.some.inj heq, hkind]

theorem kind_of_lengthProblem? {text : String} {p : FieldProblem}
    (h : rule.lengthProblem? text = some p) : p.kind = .minLength ∨ p.kind = .maxLength := by
  rcases (Option.orElse_eq_some _ _ _).1 h with hmin | ⟨-, hmax⟩
  · exact .inl (kind_of_bound .tooShort (fun _ => rfl) hmin)
  · exact .inr (kind_of_bound .tooLong (fun _ => rfl) hmax)

theorem kind_of_patternProblem? {find : PatternFinder} {text : String} {p : FieldProblem}
    (h : rule.patternProblem? find text = some p) : p.kind = .pattern := by
  obtain ⟨pattern, -, hfound⟩ := Option.bind_eq_some_iff.1 h
  split at hfound
  · rw [← Option.some.inj hfound]
    rfl
  · obtain ⟨-, heq⟩ := Option.ite_none_left_eq_some.1 hfound
    rw [← Option.some.inj heq]
    rfl

theorem kind_of_optionProblem? {text : String} {p : FieldProblem}
    (h : rule.optionProblem? text = some p) : p.kind = .enum := by
  obtain ⟨-, heq⟩ := Option.ite_none_left_eq_some.1 h
  rw [← Option.some.inj heq]
  rfl

/-! ## Bounds -/

/-- A value is reported, as a problem of this kind. -/
def Reports (rule : FieldRule) (kind : CheckKind) (j : Json) : Prop :=
  ∃ d, rule.finding? j = some d ∧ d.kind = kind

theorem reports_iff {kind : CheckKind} {j : Json} : rule.Reports kind j ↔
    ∃ p, rule.problem? Pattern.compile j = some p ∧ p.kind = kind := by
  unfold Reports finding? findingBy
  constructor
  · rintro ⟨d, hd, rfl⟩
    obtain ⟨p, hp, rfl⟩ := Option.map_eq_some_iff.1 hd
    exact ⟨p, hp, rfl⟩
  · rintro ⟨p, hp, rfl⟩
    exact ⟨_, Option.map_eq_some_iff.2 ⟨p, hp, rfl⟩, rfl⟩

/-- For a text a type problem is all that is reported as one. -/
theorem reports_type_str_iff {text : String} :
    rule.Reports .type (.str text) ↔ rule.typeProblem? (.str text) ≠ none := by
  rw [reports_iff]
  constructor
  · rintro ⟨p, hp, hkind⟩ hnone
    have hrest : (rule.lengthProblem? text <|> rule.patternProblem? Pattern.compile text <|>
        rule.optionProblem? text) = some p := by
      rcases (Option.orElse_eq_some _ _ _).1 hp with htype | ⟨-, hrest⟩
      · rw [hnone] at htype
        contradiction
      · exact hrest
    rcases (Option.orElse_eq_some _ _ _).1 hrest with hlength | ⟨-, hrest⟩
    · rcases kind_of_lengthProblem? hlength with h | h <;> rw [h] at hkind <;> contradiction
    rcases (Option.orElse_eq_some _ _ _).1 hrest with hpattern | ⟨-, hoption⟩
    · rw [kind_of_patternProblem? hpattern] at hkind
      contradiction
    · rw [kind_of_optionProblem? hoption] at hkind
      contradiction
  · intro hsome
    obtain ⟨p, hp⟩ := Option.ne_none_iff_exists'.1 hsome
    exact ⟨p, (Option.orElse_eq_some _ _ _).2 (.inl hp), kind_of_typeProblem? hp⟩

/-- The number is below the least that is asked for. -/
def IsBelow (rule : FieldRule) (x : Binary64) : Prop := ∃ m, rule.min = some m ∧ x.lt m = true

/-- The number is above the most that is asked for. -/
def IsAbove (rule : FieldRule) (x : Binary64) : Prop := ∃ m, rule.max = some m ∧ m.lt x = true

theorem rangeProblem?_eq_some_iff {x : Binary64} {p : FieldProblem} :
    rule.rangeProblem? x = some p ↔
      (∃ m, rule.min = some m ∧ x.lt m = true ∧ FieldProblem.tooSmall m = p) ∨
        (¬ rule.IsBelow x ∧
          ∃ m, rule.max = some m ∧ m.lt x = true ∧ FieldProblem.tooLarge m = p) := by
  have hleast : (rule.min.bind fun m =>
      if x.lt m then some (FieldProblem.tooSmall m) else none) = none ↔ ¬ rule.IsBelow x := by
    simp [IsBelow, Option.bind_eq_none_iff]
  rw [rangeProblem?, Option.orElse_eq_some, hleast]
  simp only [Option.bind_eq_some_iff, Option.ite_none_right_eq_some, Option.some.injEq]

/-- A number is reported for its type, or for its range if its type is right. -/
theorem reports_num_iff {kind : CheckKind} {n : Number} (hkind : kind ≠ .type) :
    rule.Reports kind (.num n) ↔ rule.typeProblem? (.num n) = none ∧
      ∃ p, rule.rangeProblem? n.toBinary64 = some p ∧ p.kind = kind := by
  rw [reports_iff]
  constructor
  · rintro ⟨p, hp, rfl⟩
    rcases (Option.orElse_eq_some _ _ _).1 hp with htype | ⟨hnone, hrange⟩
    · exact absurd (kind_of_typeProblem? htype) hkind
    · exact ⟨hnone, p, hrange, rfl⟩
  · rintro ⟨hnone, p, hrange, hp⟩
    exact ⟨p, (Option.orElse_eq_some _ _ _).2 (.inr ⟨hnone, hrange⟩), hp⟩

theorem reports_minimum_iff {n : Number} : rule.Reports .minimum (.num n) ↔
    rule.typeProblem? (.num n) = none ∧ rule.IsBelow n.toBinary64 := by
  rw [reports_num_iff (by decide)]
  refine and_congr_right fun _ => ⟨?_, ?_⟩
  · rintro ⟨p, hp, hkind⟩
    rcases rangeProblem?_eq_some_iff.1 hp with ⟨m, hm, hlt, rfl⟩ | ⟨-, m, -, -, rfl⟩
    · exact ⟨m, hm, hlt⟩
    · contradiction
  · rintro ⟨m, hm, hlt⟩
    exact ⟨_, rangeProblem?_eq_some_iff.2 (.inl ⟨m, hm, hlt, rfl⟩), rfl⟩

theorem reports_maximum_iff {n : Number} : rule.Reports .maximum (.num n) ↔
    rule.typeProblem? (.num n) = none ∧ ¬ rule.IsBelow n.toBinary64 ∧
      rule.IsAbove n.toBinary64 := by
  rw [reports_num_iff (by decide)]
  refine and_congr_right fun _ => ⟨?_, ?_⟩
  · rintro ⟨p, hp, hkind⟩
    rcases rangeProblem?_eq_some_iff.1 hp with ⟨m, -, -, rfl⟩ | ⟨hbelow, m, hm, hlt, rfl⟩
    · contradiction
    · exact ⟨hbelow, m, hm, hlt⟩
  · rintro ⟨hbelow, m, hm, hlt⟩
    exact ⟨_, rangeProblem?_eq_some_iff.2 (.inr ⟨hbelow, m, hm, hlt, rfl⟩), rfl⟩

end FieldRule

/-! ## Options -/

/-- The same value, written as an integer or as a double. -/
def Number.equals (m n : Number) : Bool := m.units == n.units

namespace Json

/-- Same shape and same leaves, numbers compared by value. -/
def equals (a b : Json) : Bool := a.sameBy Number.equals b

theorem equals_str_iff {j : Json} {s : String} : j.equals (.str s) = true ↔ j = .str s := by
  cases j <;> simp [equals, sameBy]

end Json

namespace FieldRule

/-- The value is equal to one of those allowed or, if it is a text, is how one of them is
written. -/
def Lists (rule : FieldRule) (j : Json) : Prop :=
  ∃ option ∈ rule.allowed, option.equals j = true ∨
    ∃ s, j = .str s ∧ FieldProblem.plainText option = s

/-- The rule that asks for the same, and allows all values. -/
def withoutOptions (rule : FieldRule) : FieldRule := { rule with allowed := [] }

variable {rule : FieldRule}

theorem lists_str_iff {s : String} : rule.Lists (.str s) ↔
    ∃ option ∈ rule.allowed, FieldProblem.plainText option = s := by
  constructor
  · rintro ⟨option, hoption, heq | ⟨t, ht, hwritten⟩⟩
    · rw [Json.equals_str_iff.1 heq] at hoption
      exact ⟨_, hoption, rfl⟩
    · exact ⟨option, hoption, hwritten.trans (Json.str.inj ht).symm⟩
  · rintro ⟨option, hoption, hwritten⟩
    exact ⟨option, hoption, .inr ⟨s, rfl, hwritten⟩⟩

theorem optionProblem?_eq_none_iff (hoptions : rule.allowed ≠ []) {s : String} :
    rule.optionProblem? s = none ↔ rule.Lists (.str s) := by
  rw [lists_str_iff]
  simp [optionProblem?, hoptions]

/-- The options of a text are looked at last. -/
theorem problem?_str (find : PatternFinder) (s : String) : rule.problem? find (.str s) =
    (rule.withoutOptions.problem? find (.str s) <|> rule.optionProblem? s) := by
  have hrest : rule.withoutOptions.problem? find (.str s) = (rule.typeProblem? (.str s) <|>
      rule.lengthProblem? s <|> rule.patternProblem? find s <|> none) := rfl
  have hwhole : rule.problem? find (.str s) = (rule.typeProblem? (.str s) <|>
      rule.lengthProblem? s <|> rule.patternProblem? find s <|> rule.optionProblem? s) := rfl
  simp only [hrest, hwhole, Option.orElse_eq_orElse, Option.orElse_eq_or, Option.or_none,
    Option.or_assoc]

theorem finding?_eq_none_iff {j : Json} :
    rule.finding? j = none ↔ rule.problem? Pattern.compile j = none :=
  Option.map_eq_none_iff

/-- A value passes a rule with options when it passes the rule without them and, if it is a text, is
one of them.  A value of another kind need not be one. -/
theorem finding?_eq_none_iff_of_options (hoptions : rule.allowed ≠ []) (j : Json) :
    rule.finding? j = none ↔
      rule.withoutOptions.finding? j = none ∧ (j.kind = .string → rule.Lists j) := by
  rw [finding?_eq_none_iff, finding?_eq_none_iff]
  cases j with
  | str s =>
    rw [problem?_str, Option.orElse_eq_none, optionProblem?_eq_none_iff hoptions]
    exact and_congr_right fun _ => ⟨fun h _ => h, fun h => h rfl⟩
  | num n =>
    have hkind : (Json.num n).kind ≠ .string := by cases n <;> exact nofun
    exact ⟨fun h => ⟨h, fun hs => absurd hs hkind⟩, And.left⟩
  | null | bool _ | arr _ | obj _ => exact ⟨fun h => ⟨h, nofun⟩, And.left⟩

/-- A rule that asks for one of three numbers. -/
def oneToThree : FieldRule where
  field := "size"
  fieldType := none
  minLength := none
  maxLength := none
  pattern := none
  min := none
  max := none
  minItems := none
  maxItems := none
  allowed := [.int 1, .int 2, .int 3]
  message := none

/-- A numeral is one of the options as a text. -/
theorem finding?_eq_none_iff_of_options_numeral :
    oneToThree.allowed ≠ [] ∧ oneToThree.Lists (.str "2") ∧
      oneToThree.finding? (.str "2") = none := by
  have hoptions : oneToThree.allowed ≠ [] := nofun
  have hlists : oneToThree.Lists (.str "2") :=
    lists_str_iff.2 ⟨.int 2, by simp [oneToThree], rfl⟩
  exact ⟨hoptions, hlists,
    (finding?_eq_none_iff_of_options hoptions (.str "2")).2 ⟨rfl, fun _ => hlists⟩⟩

/-- A number that is none of the options passes. -/
theorem oneToThree_passes_five :
    oneToThree.allowed ≠ [] ∧ oneToThree.finding? (.int 5) = none ∧
      ¬ oneToThree.Lists (.int 5) := by
  refine ⟨nofun, rfl, ?_⟩
  rintro ⟨option, hoption, heq | ⟨s, hs, -⟩⟩
  · have hnone : oneToThree.allowed.any (fun option => option.equals (.int 5)) = false := by
      decide +kernel
    exact List.any_eq_false.1 hnone option hoption heq
  · contradiction

end FieldRule

end FlowCheck
