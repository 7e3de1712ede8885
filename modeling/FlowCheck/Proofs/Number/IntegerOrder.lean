import FlowCheck.Proofs.Condition.Comparison
import FlowCheck.Proofs.Request.FieldRule

/-!
# How integers are compared

Conditions and field rules compare numbers as doubles, so integers are rounded first.  Rounding
keeps order and carries no integer past a double; thus a comparison goes wrong in one way only:
values come out equal that are not.  Two integers do when they are read as one double, an integer
and a bound when the bound is the double that the integer is read as, and both happen from
`2 ^ 53` on only (`integers_compared_as_doubles`).
-/

namespace FlowCheck

namespace Binary64

variable {x : Binary64}

/-- Integers are in order as doubles as they are by themselves, unless both are one double. -/
theorem compare_ofInt (a b : Int) :
    (ofInt a).compare (ofInt b) = if sameDouble a b then .eq else Ord.compare a b := by
  by_cases hsame : sameDouble a b = true
  · rw [if_pos hsame]
    exact Int.compare_eq_eq.2 (sameDouble_iff.1 hsame)
  · rw [if_neg hsame]
    have hne : (ofInt a).units ≠ (ofInt b).units := mt sameDouble_iff.2 hsame
    rcases Int.lt_trichotomy a b with hlt | rfl | hgt
    · rw [Int.compare_eq_lt.2 hlt]
      have hle := units_ofInt_mono (Int.le_of_lt hlt)
      exact Int.compare_eq_lt.2 (Int.lt_iff_le_and_ne.2 ⟨hle, hne⟩)
    · exact absurd rfl hne
    · rw [Int.compare_eq_gt.2 hgt]
      have hle := units_ofInt_mono (Int.le_of_lt hgt)
      exact Int.compare_eq_gt.2 (Int.lt_iff_le_and_ne.2 ⟨hle, hne.symm⟩)

/-- An integer is below a bound as a double when it is below and is not read as the bound. -/
theorem ofInt_lt_iff {n : Int} : (ofInt n).lt x = true ↔
    n * unitsPerOne < x.units ∧ (ofInt n).units ≠ x.units := by
  rw [lt, decide_eq_true_iff]
  constructor
  · intro h
    refine ⟨Int.not_le.1 fun hle => ?_, Int.ne_of_lt h⟩
    exact Int.not_le.2 h (le_units_ofInt hle)
  · rintro ⟨hlt, hne⟩
    exact Int.lt_iff_le_and_ne.2 ⟨units_ofInt_le (Int.le_of_lt hlt), hne⟩

theorem lt_ofInt_iff {n : Int} : x.lt (ofInt n) = true ↔
    x.units < n * unitsPerOne ∧ (ofInt n).units ≠ x.units := by
  rw [lt, decide_eq_true_iff]
  constructor
  · intro h
    refine ⟨Int.not_le.1 fun hle => ?_, Int.ne_of_gt h⟩
    exact Int.not_le.2 h (units_ofInt_le hle)
  · rintro ⟨hlt, hne⟩
    exact Int.lt_iff_le_and_ne.2 ⟨le_units_ofInt (Int.le_of_lt hlt), hne.symm⟩

end Binary64

/-! ## Conditions -/

namespace Condition

/-- Every operator decides two numbers by their order as doubles. -/
theorem Clause.eval_compare_num {env : Members} {left right : Operand} {m n : Number}
    (hleft : left.resolve env = .num m) (hright : right.resolve env = .num n) (op : Operator) :
    (Clause.compare left op right).eval env =
      .ok (op.holdsFor (m.toBinary64.compare n.toBinary64)) := by
  have horder : order? (left.resolve env) (right.resolve env) =
      some (m.toBinary64.compare n.toBinary64) := by
    rw [hleft, hright]
    rfl
  exact eval_of_order? horder op

theorem Clause.eval_compare_int {env : Members} {left right : Operand} {a b : Int}
    (hleft : left.resolve env = .int a) (hright : right.resolve env = .int b) (op : Operator) :
    (Clause.compare left op right).eval env =
      .ok (op.holdsFor (if Binary64.sameDouble a b then .eq else Ord.compare a b)) := by
  rw [eval_compare_num hleft hright, ← Binary64.compare_ofInt]
  rfl

end Condition

/-! ## Field rules -/

namespace FieldRule

variable {rule : FieldRule} {n : Int}

theorem isBelow_ofInt_iff : rule.IsBelow (.ofInt n) ↔ ∃ m, rule.min = some m ∧
    n * Binary64.unitsPerOne < m.units ∧ (Binary64.ofInt n).units ≠ m.units := by
  simp only [IsBelow, Binary64.ofInt_lt_iff]

theorem isAbove_ofInt_iff : rule.IsAbove (.ofInt n) ↔ ∃ m, rule.max = some m ∧
    m.units < n * Binary64.unitsPerOne ∧ (Binary64.ofInt n).units ≠ m.units := by
  simp only [IsAbove, Binary64.lt_ofInt_iff]

end FieldRule

/-! ## Both -/

/-- Integers are compared exactly up to what they share a double with.  An operator decides two
integers by their order, or as equal ones if they are read as one double.  A number is reported as
too small, its type being right, when it is below the least that is asked for and not read as that
double, and as too large when it is not reported as too small, and above the most and not read as
that double.  Below `2 ^ 53` no integer shares its double, and up to there integers are doubles. -/
theorem integers_compared_as_doubles :
    (∀ {env : Members} {left right : Condition.Operand} {a b : Int},
      left.resolve env = .int a → right.resolve env = .int b → ∀ op : Condition.Operator,
        (Condition.Clause.compare left op right).eval env =
          .ok (op.holdsFor (if Binary64.sameDouble a b then .eq else compare a b))) ∧
      (∀ (rule : FieldRule) (n : Int),
        (rule.Reports .minimum (.int n) ↔ rule.typeProblem? (.int n) = none ∧
          ∃ m, rule.min = some m ∧ n * Binary64.unitsPerOne < m.units ∧
            (Binary64.ofInt n).units ≠ m.units) ∧
        (rule.Reports .maximum (.int n) ↔ rule.typeProblem? (.int n) = none ∧
          ¬ rule.Reports .minimum (.int n) ∧
          ∃ m, rule.max = some m ∧ m.units < n * Binary64.unitsPerOne ∧
            (Binary64.ofInt n).units ≠ m.units)) ∧
      (∀ a b : Int, Binary64.sameDouble a b = true → a.natAbs < 2 ^ 53 → a = b) ∧
      ∀ n : Int, n.natAbs ≤ 2 ^ 53 → (Binary64.ofInt n).units = n * Binary64.unitsPerOne := by
  refine ⟨Condition.Clause.eval_compare_int, fun rule n => ?_, fun _ _ => Binary64.eq_of_sameDouble,
    fun _ => Binary64.units_ofInt_of_natAbs_le⟩
  have hminimum : rule.Reports .minimum (.int n) ↔
      rule.typeProblem? (.int n) = none ∧ rule.IsBelow (.ofInt n) := FieldRule.reports_minimum_iff
  have hmaximum : rule.Reports .maximum (.int n) ↔ rule.typeProblem? (.int n) = none ∧
      ¬ rule.IsBelow (.ofInt n) ∧ rule.IsAbove (.ofInt n) := FieldRule.reports_maximum_iff
  rw [hmaximum, hminimum, FieldRule.isAbove_ofInt_iff]
  refine ⟨and_congr_right fun _ => FieldRule.isBelow_ofInt_iff, and_congr_right fun htype => ?_⟩
  rw [not_and]
  exact and_congr_left fun _ => ⟨fun h _ => h, fun h => h htype⟩

/-- Two identifiers beyond `2 ^ 53` that are read as different doubles. -/
theorem integers_compared_as_doubles_apart :
    let env : Members := [("id", .int 9007199254740994), ("last", .int 9007199254740992)]
    (Condition.Operand.path "id").resolve env = .int 9007199254740994 ∧
      (Condition.Operand.path "last").resolve env = .int 9007199254740992 ∧
      (Condition.Clause.compare (.path "id") .gt (.path "last")).eval env = .ok true := by
  intro env
  have hid : (Condition.Operand.path "id").resolve env = .int 9007199254740994 := rfl
  have hlast : (Condition.Operand.path "last").resolve env = .int 9007199254740992 := rfl
  refine ⟨hid, hlast, ?_⟩
  rw [integers_compared_as_doubles.1 hid hlast .gt,
    show Binary64.sameDouble 9007199254740994 9007199254740992 = false by decide +kernel]
  rfl

/-- An identifier that is equal to the one before it, and not greater, and numbers that pass a rule
although they are below the least and above the most that it asks for. -/
theorem integers_sharing_a_double :
    let env : Members := [("id", .int 9007199254740993), ("last", .int 9007199254740992)]
    let bound : Binary64 := .ofInt 18014398509481984
    let atLeast : FieldRule := ⟨"n", none, none, none, none, some bound, none, none, none, [], none⟩
    let atMost : FieldRule := ⟨"n", none, none, none, none, none, some bound, none, none, [], none⟩
    (Condition.Clause.compare (.path "id") .eq (.path "last")).eval env = .ok true ∧
      (Condition.Clause.compare (.path "id") .gt (.path "last")).eval env = .ok false ∧
      bound.units = 18014398509481984 * Binary64.unitsPerOne ∧
      atLeast.finding? (.int 18014398509481983) = none ∧
      atMost.finding? (.int 18014398509481985) = none := by
  intro env bound atLeast atMost
  have hequal : (Condition.Clause.compare (.path "id") .eq (.path "last")).eval env =
      .ok (Binary64.sameDouble 9007199254740993 9007199254740992) := rfl
  have hgreater : (Condition.Clause.compare (.path "id") .gt (.path "last")).eval env =
      .ok ((Binary64.ofInt 9007199254740993).compare (.ofInt 9007199254740992) == .gt) := rfl
  rw [hequal, hgreater]
  refine ⟨congrArg Except.ok (by decide +kernel), congrArg Except.ok (by decide +kernel),
    by decide +kernel, Option.isNone_iff_eq_none.1 (by decide +kernel),
    Option.isNone_iff_eq_none.1 (by decide +kernel)⟩

end FlowCheck
