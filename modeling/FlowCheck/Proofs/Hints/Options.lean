import FlowCheck.Hints.Options
import FlowCheck.Proofs.Hints.FieldPath
import Mathlib.Data.List.Find

/-!
# Options by names

The look-up of a field's options sees nothing of the path but its names, in their order
(`Options.ofField?_eq_ofNames?`).  It goes by a row of the table or by the last name alone
(`Options.row_or_word_of_ofNames?`), so it finds nothing unless the last name is one of the few
words in which the known paths end (`Options.word_of_ofNames?`).
-/

namespace FlowCheck
namespace Options

/-- The options of a field whose last name is known in its context. -/
def inContextNames? (names : List String) (kind : DocumentKind) : Option Options :=
  (contextWords.find? fun w => names.getLast? == some w.word).bind fun w =>
    if 1 < names.length then
      if names.any w.context.contains then some w.options else none
    else if w.kind = kind then some w.options else none

/-- The options of the field with some names on its path. -/
def ofNames? (names : List String) (kind : DocumentKind) : Option Options :=
  if names = [] then none
  else if names = ["kind"] then
    match kind with
    | .workflow => some workflowKinds
    | .resource => some resourceKinds
  else if names = ["resources", "kind"] then some resourceKinds
  else match fields.find? fun f => (FieldPath.names f.1).isSuffixOf names with
    | some f => some f.2
    | none => inContextNames? names kind

theorem normalize_of_mem_fields :
    ∀ f ∈ fields, FieldPath.normalize f.1 = f.1 ∧ FieldPath.names f.1 ≠ [] := by
  decide +kernel

theorem isName_of_mem_context :
    ∀ w ∈ contextWords, ∀ word ∈ w.context, FieldPath.isName word = true := by
  decide

theorem any_context_eq {w : ContextWord} (hw : w ∈ contextWords) (field : String) :
    (Text.pieces '.' field).any w.context.contains =
      (FieldPath.names field).any w.context.contains := by
  rw [FieldPath.names, List.any_filter]
  refine List.any_congr rfl fun piece => ?_
  by_cases hpiece : w.context.contains piece = true
  · rw [isName_of_mem_context w hw piece (by simpa using hpiece), Bool.true_and]
  · rw [Bool.eq_false_iff.2 hpiece, Bool.and_false]

theorem inContext_eq {field : String} (h : FieldPath.names field ≠ []) (kind : DocumentKind) :
    inContext field (FieldPath.normalize field) kind =
      inContextNames? (FieldPath.names field) kind := by
  have hfind : (contextWords.find? fun w =>
      w.word == FieldPath.last (FieldPath.normalize field)) =
      contextWords.find? fun w => (FieldPath.names field).getLast? == some w.word := by
    refine List.find?_congr fun w _ => ?_
    rw [FieldPath.last_normalize h, Option.some_beq_some, BEq.comm]
  rw [inContext, inContextNames?, hfind]
  refine Option.bind_congr fun w hw => ?_
  rw [any_context_eq (List.mem_of_find?_eq_some hw)]
  by_cases hlength : 1 < (FieldPath.names field).length
  · rw [if_pos hlength, if_pos (by simpa using FieldPath.point_mem_normalize_iff.2 hlength)]
  · have hpoint : '.' ∉ (FieldPath.normalize field).toList :=
      fun hmem => hlength (FieldPath.point_mem_normalize_iff.1 hmem)
    rw [if_neg hlength, if_neg (by simpa using hpoint)]

/-- The look-up of options goes by the names on a path. -/
theorem ofField?_eq_ofNames? (field : String) (kind : DocumentKind) :
    ofField? field kind = ofNames? (FieldPath.names field) kind := by
  have hempty : FieldPath.normalize field = "" ↔ FieldPath.names field = [] :=
    FieldPath.normalize_eq_iff rfl
  have hkind : FieldPath.normalize field = "kind" ↔ FieldPath.names field = ["kind"] :=
    FieldPath.normalize_eq_iff rfl
  have hinline : FieldPath.normalize field = "resources.kind" ↔
      FieldPath.names field = ["resources", "kind"] :=
    FieldPath.normalize_eq_iff rfl
  have hfind : (fields.find? fun f => FieldPath.endsIn (FieldPath.normalize field) f.1) =
      fields.find? fun f => (FieldPath.names f.1).isSuffixOf (FieldPath.names field) := by
    refine List.find?_congr fun f hf => ?_
    obtain ⟨hnormalized, hne⟩ := normalize_of_mem_fields f hf
    rw [Bool.eq_iff_iff, FieldPath.endsIn_normalize_iff hnormalized hne,
      List.isSuffixOf_iff_suffix]
  unfold ofField? ofNames?
  simp only [hempty, hkind, hinline, hfind]
  split
  · rfl
  · next hne => exact inContext_eq hne kind ▸ rfl

/-! ## The last name -/

/-- The words that may name an enumerated field without a row in the table. -/
def lastWords : List String := "kind" :: contextWords.map ContextWord.word

/-- Options are those of a row whose names are the last ones, or the last name is one of a few
words. -/
theorem row_or_word_of_ofNames? {names : List String} {kind : DocumentKind} {options : Options}
    (h : ofNames? names kind = some options) :
    (∃ row ∈ fields, FieldPath.names row.1 <:+ names ∧ row.2 = options) ∨
      ∃ word ∈ lastWords, names.getLast? = some word := by
  unfold ofNames? at h
  split at h
  · contradiction
  · split at h
    · next hkind => exact .inr ⟨"kind", List.mem_cons_self, by rw [hkind]; rfl⟩
    · split at h
      · next hinline => exact .inr ⟨"kind", List.mem_cons_self, by rw [hinline]; rfl⟩
      · split at h
        · next row hrow =>
          have hsuffix : FieldPath.names row.1 <:+ names := by simpa using List.find?_some hrow
          exact .inl ⟨row, List.mem_of_find?_eq_some hrow, hsuffix, Option.some.inj h⟩
        · obtain ⟨w, hw, -⟩ := Option.bind_eq_some_iff.1 h
          have hlast : names.getLast? = some w.word := by simpa using List.find?_some hw
          have hword : w.word ∈ contextWords.map ContextWord.word :=
            List.mem_map_of_mem (List.mem_of_find?_eq_some hw)
          exact .inr ⟨w.word, List.mem_cons_of_mem _ hword, hlast⟩

/-- The words in which the paths of enumerated fields end. -/
def words : List String :=
  "kind" :: fields.map (fun f => FieldPath.last f.1) ++ contextWords.map ContextWord.word

theorem lastWords_subset_words : lastWords ⊆ words := by
  decide +kernel

theorem getLast?_names_of_mem_fields :
    ∀ f ∈ fields, ∃ word ∈ words, (FieldPath.names f.1).getLast? = some word := by
  decide +kernel

/-- Only a field whose path ends in one of the words has options. -/
theorem word_of_ofNames? {names : List String} {kind : DocumentKind} {options : Options}
    (h : ofNames? names kind = some options) : ∃ word ∈ words, names.getLast? = some word := by
  rcases row_or_word_of_ofNames? h with ⟨row, hrow, ⟨front, rfl⟩, -⟩ | ⟨word, hword, hlast⟩
  · obtain ⟨word, hword, hlast⟩ := getLast?_names_of_mem_fields row hrow
    exact ⟨word, hword, by rw [List.getLast?_append, hlast]; rfl⟩
  · exact ⟨word, lastWords_subset_words hword, hlast⟩

end Options
end FlowCheck
