import FlowCheck.Proofs.Request.FieldRule

/-!
# Stricter rules let less through

The parts of a rule are looked at in an order, and the first problem counts.  For what passes, the
order does not matter: a value passes when it meets every part of the rule that concerns its kind,
each taken by itself (`FieldRule.finding?_eq_none_iff_meets`).

A part becomes harder to meet when it is asked for where it was not, when a bound moves inwards and
when there are fewer options.  So a rule that is at least as strict in every part
(`FieldRule.Tightens`) lets nothing through that the other stops
(`FieldRule.finding?_eq_none_of_tightens`).
-/

namespace FlowCheck
namespace FieldRule

/-! ## What a rule asks for, part by part -/

/-- Two bounds are looked at one after the other, and both have to be kept. -/
theorem bounds_eq_none_iff {α β : Type} {least most : Option α} {low high : α → Prop}
    [DecidablePred low] [DecidablePred high] {tooLow tooHigh : α → β} :
    ((least.bind fun a => if low a then some (tooLow a) else none) <|>
        most.bind fun a => if high a then some (tooHigh a) else none) = none ↔
      (∀ a, least = some a → ¬ low a) ∧ ∀ a, most = some a → ¬ high a := by
  simp [Option.bind_eq_none_iff]

/-- What a rule asks of a text. -/
structure MeetsText (r : FieldRule) (text : String) : Prop where
  minLength : ∀ n, r.minLength = some n → n.toNat ≤ text.length
  maxLength : ∀ n, r.maxLength = some n → text.length ≤ n.toNat
  pattern : ∀ p, r.pattern = some p →
    ∃ matcher, Pattern.compile p = .ok matcher ∧ matcher.occursIn text = true
  option : r.allowed ≠ [] → ∃ option ∈ r.allowed, FieldProblem.plainText option = text

/-- What a rule asks of a number. -/
structure MeetsNumber (r : FieldRule) (x : Binary64) : Prop where
  min : ∀ m, r.min = some m → m.units ≤ x.units
  max : ∀ m, r.max = some m → x.units ≤ m.units

/-- What a rule asks of an array of some size. -/
structure MeetsSize (r : FieldRule) (size : Nat) : Prop where
  minItems : ∀ n, r.minItems = some n → n.toNat ≤ size
  maxItems : ∀ n, r.maxItems = some n → size ≤ n.toNat

/-- What a rule asks of a value. -/
structure Meets (r : FieldRule) (j : Json) : Prop where
  type : ∀ t, r.fieldType = some t → t.problem? j = none
  text : ∀ text, j = .str text → r.MeetsText text
  number : ∀ n, j = .num n → r.MeetsNumber n.toBinary64
  array : ∀ items, j = .arr items → r.MeetsSize items.length

variable {r s : FieldRule}

theorem typeProblem?_eq_none_iff {j : Json} :
    r.typeProblem? j = none ↔ ∀ t, r.fieldType = some t → t.problem? j = none :=
  Option.bind_eq_none_iff

theorem patternProblem?_eq_none_iff {text : String} :
    r.patternProblem? Pattern.compile text = none ↔ ∀ p, r.pattern = some p →
      ∃ matcher, Pattern.compile p = .ok matcher ∧ matcher.occursIn text = true := by
  refine Option.bind_eq_none_iff.trans (forall₂_congr fun p _ => ?_)
  cases Pattern.compile p with
  | error refusal => simp
  | ok matcher => simp

theorem optionProblem?_eq_none_iff_of_ne_nil {text : String} :
    r.optionProblem? text = none ↔
      (r.allowed ≠ [] → ∃ option ∈ r.allowed, FieldProblem.plainText option = text) := by
  by_cases hall : r.allowed = []
  · simp [optionProblem?, hall]
  · rw [optionProblem?_eq_none_iff hall, lists_str_iff]
    exact ⟨fun h _ => h, fun h => h hall⟩

theorem text_no_problem_iff {text : String} :
    (r.lengthProblem? text <|> r.patternProblem? Pattern.compile text <|>
        r.optionProblem? text) = none ↔ r.MeetsText text := by
  rw [Option.orElse_eq_none, Option.orElse_eq_none, lengthProblem?, bounds_eq_none_iff,
    patternProblem?_eq_none_iff, optionProblem?_eq_none_iff_of_ne_nil]
  simp only [Nat.not_lt]
  constructor
  · rintro ⟨⟨hmin, hmax⟩, hpattern, hoption⟩
    exact ⟨hmin, hmax, hpattern, hoption⟩
  · rintro ⟨hmin, hmax, hpattern, hoption⟩
    exact ⟨⟨hmin, hmax⟩, hpattern, hoption⟩

theorem rangeProblem?_eq_none_iff {x : Binary64} :
    r.rangeProblem? x = none ↔ r.MeetsNumber x := by
  rw [rangeProblem?, bounds_eq_none_iff]
  simp only [Binary64.lt, decide_eq_true_eq, Int.not_lt]
  exact ⟨fun h => ⟨h.1, h.2⟩, fun h => ⟨h.min, h.max⟩⟩

theorem sizeProblem?_eq_none_iff {size : Nat} :
    r.sizeProblem? size = none ↔ r.MeetsSize size := by
  rw [sizeProblem?, bounds_eq_none_iff]
  simp only [Nat.not_lt]
  exact ⟨fun h => ⟨h.1, h.2⟩, fun h => ⟨h.minItems, h.maxItems⟩⟩

/-- A value passes a rule when it meets each of its parts. -/
theorem finding?_eq_none_iff_meets {j : Json} : r.finding? j = none ↔ r.Meets j := by
  rw [finding?_eq_none_iff]
  unfold problem?
  rw [Option.orElse_eq_none, typeProblem?_eq_none_iff]
  constructor
  · rintro ⟨htype, hkind⟩
    refine ⟨htype, ?_, ?_, ?_⟩
    · rintro text rfl
      exact text_no_problem_iff.1 hkind
    · rintro n rfl
      exact rangeProblem?_eq_none_iff.1 hkind
    · rintro items rfl
      exact sizeProblem?_eq_none_iff.1 hkind
  · intro h
    refine ⟨h.type, ?_⟩
    cases j with
    | str text => exact text_no_problem_iff.2 (h.text text rfl)
    | num n => exact rangeProblem?_eq_none_iff.2 (h.number n rfl)
    | arr items => exact sizeProblem?_eq_none_iff.2 (h.array items rfl)
    | null | bool _ | obj _ => rfl

/-! ## Stricter rules -/

/-- The rule `s` is at least as strict as `r` in every part. -/
structure Tightens (s r : FieldRule) : Prop where
  fieldType : r.fieldType = none ∨ r.fieldType = s.fieldType
  pattern : r.pattern = none ∨ r.pattern = s.pattern
  minLength : ∀ a, r.minLength = some a → ∃ b, s.minLength = some b ∧ a ≤ b
  maxLength : ∀ a, r.maxLength = some a → ∃ b, s.maxLength = some b ∧ b ≤ a
  min : ∀ a, r.min = some a → ∃ b, s.min = some b ∧ a.units ≤ b.units
  max : ∀ a, r.max = some a → ∃ b, s.max = some b ∧ b.units ≤ a.units
  minItems : ∀ a, r.minItems = some a → ∃ b, s.minItems = some b ∧ a ≤ b
  maxItems : ∀ a, r.maxItems = some a → ∃ b, s.maxItems = some b ∧ b ≤ a
  allowed : r.allowed = [] ∨ s.allowed ≠ [] ∧ s.allowed ⊆ r.allowed

namespace Tightens

/-- What the stricter rule asks for exactly is asked for by it too, where it is asked for. -/
theorem eq_some_of_eq_some {α : Type} {x y : Option α} (h : x = none ∨ x = y) {a : α}
    (ha : x = some a) : y = some a := by
  rcases h with hnone | heq
  · rw [hnone] at ha
    contradiction
  · exact heq.symm.trans ha

theorem meetsText (h : s.Tightens r) {text : String} (hs : s.MeetsText text) :
    r.MeetsText text where
  minLength a ha := by
    obtain ⟨b, hb, hab⟩ := h.minLength a ha
    exact Nat.le_trans (UInt64.le_iff_toNat_le.1 hab) (hs.minLength b hb)
  maxLength a ha := by
    obtain ⟨b, hb, hba⟩ := h.maxLength a ha
    exact Nat.le_trans (hs.maxLength b hb) (UInt64.le_iff_toNat_le.1 hba)
  pattern p hp := hs.pattern p (eq_some_of_eq_some h.pattern hp)
  option hoptions := by
    rcases h.allowed with hnone | ⟨hgiven, hsubset⟩
    · exact absurd hnone hoptions
    · obtain ⟨option, hmem, htext⟩ := hs.option hgiven
      exact ⟨option, hsubset hmem, htext⟩

theorem meetsNumber (h : s.Tightens r) {x : Binary64} (hs : s.MeetsNumber x) :
    r.MeetsNumber x where
  min a ha := by
    obtain ⟨b, hb, hab⟩ := h.min a ha
    exact Int.le_trans hab (hs.min b hb)
  max a ha := by
    obtain ⟨b, hb, hba⟩ := h.max a ha
    exact Int.le_trans (hs.max b hb) hba

theorem meetsSize (h : s.Tightens r) {size : Nat} (hs : s.MeetsSize size) : r.MeetsSize size where
  minItems a ha := by
    obtain ⟨b, hb, hab⟩ := h.minItems a ha
    exact Nat.le_trans (UInt64.le_iff_toNat_le.1 hab) (hs.minItems b hb)
  maxItems a ha := by
    obtain ⟨b, hb, hba⟩ := h.maxItems a ha
    exact Nat.le_trans (hs.maxItems b hb) (UInt64.le_iff_toNat_le.1 hba)

theorem meets (h : s.Tightens r) {j : Json} (hs : s.Meets j) : r.Meets j where
  type t ht := hs.type t (eq_some_of_eq_some h.fieldType ht)
  text text hj := h.meetsText (hs.text text hj)
  number n hj := h.meetsNumber (hs.number n hj)
  array items hj := h.meetsSize (hs.array items hj)

end Tightens

/-- A value that passes a rule passes every rule that the rule tightens. -/
theorem finding?_eq_none_of_tightens (h : s.Tightens r) {j : Json} (hs : s.finding? j = none) :
    r.finding? j = none :=
  finding?_eq_none_iff_meets.2 (h.meets (finding?_eq_none_iff_meets.1 hs))

/-- A rule for colors, and one that asks for longer names, a pattern and one color of the three. -/
theorem finding?_eq_none_of_tightens_green :
    let color : FieldRule := ⟨"color", some .string, some 2, some 9, none, none, none, none, none,
      [.str "red", .str "green", .str "blue"], some "unknown color"⟩
    let leaf : FieldRule := ⟨"leaf", some .string, some 3, some 9, some "^[a-z]+$", none, none,
      none, some 1, [.str "green"], none⟩
    leaf.Tightens color ∧ leaf.finding? (.str "green") = none ∧
      color.finding? (.str "green") = none := by
  intro color leaf
  have htightens : leaf.Tightens color :=
    { fieldType := .inr rfl
      pattern := .inl rfl
      minLength := fun a ha => ⟨3, rfl, by obtain rfl := Option.some.inj ha; decide⟩
      maxLength := fun a ha => ⟨9, rfl, by obtain rfl := Option.some.inj ha; decide⟩
      min := nofun
      max := nofun
      minItems := nofun
      maxItems := nofun
      allowed := .inr ⟨nofun, fun option hoption => by
        obtain rfl := List.mem_singleton.1 hoption
        simp [color]⟩ }
  have hleaf : leaf.finding? (.str "green") = none := by decide +kernel
  exact ⟨htightens, hleaf, finding?_eq_none_of_tightens htightens hleaf⟩

end FieldRule
end FlowCheck
