import FlowCheck.Expression.CustomRules
import FlowCheck.Proofs.Schema.Finding
import FlowCheck.Proofs.Wire.Reading
import FlowCheck.Request.Field

/-!
# Written findings

A finding is written as an object of its field, kind and message, and of the offending value where
there is one.  A finding without a value and one about `null` are written differently, but read
alike: as an optional member `null` stands for nothing.  So the written form keeps everything apart
from an offending `null` (`Diagnostic.read_write`).

What is offending is known for each of the three checks (`Diagnostic.About`): the value given to a
rule for a field, the expression of a custom rule, and the value in a document at which the schema
is violated, except that a missing member has none.  Findings are read back as they are exactly when
no offending value is `null` (`Diagnostics.read_write_iff`).
-/

namespace FlowCheck

open Wire (Gives Member Site)
open Wire.Codec (read_list_eq_ok_iff)
open Wire.Record (readMembers_member read_obj_eq_ok_iff)

namespace Diagnostic

/-! ## Writing and reading one finding -/

theorem write_none (field message : String) (kind : CheckKind) :
    codec.write ⟨field, kind, message, none⟩ =
      .obj [("field", .str field), ("message", .str message), ("type", .str kind.name)] := by
  change Json.object [("field", .str field), ("type", .str kind.name),
    ("message", .str message)] = _
  simp only [Json.object, Members.ofList, List.foldl_cons, List.foldl_nil, Members.insert,
    String.reduceEq, String.reduceLT, if_false, if_true]

theorem write_some (field message : String) (kind : CheckKind) (j : Json) :
    codec.write ⟨field, kind, message, some j⟩ = .obj [("field", .str field),
      ("message", .str message), ("type", .str kind.name), ("value", j)] := by
  change Json.object [("field", .str field), ("type", .str kind.name),
    ("message", .str message), ("value", j)] = _
  simp only [Json.object, Members.ofList, List.foldl_cons, List.foldl_nil, Members.insert,
    String.reduceEq, String.reduceLT, if_false, if_true]

/-- The value as it is read: `null` is none. -/
def readValue : Option Json → Option Json
  | some .null => none
  | value => value

/-- The finding without an offending `null`. -/
def withoutNull (d : Diagnostic) : Diagnostic := { d with value := readValue d.value }

theorem readValue_eq_self_iff {value : Option Json} :
    readValue value = value ↔ value ≠ some .null := by
  unfold readValue
  split <;> simp_all

theorem withoutNull_eq_self_iff {d : Diagnostic} : d.withoutNull = d ↔ d.value ≠ some .null := by
  rw [← readValue_eq_self_iff]
  constructor
  · exact congrArg value
  · intro h
    rw [withoutNull, h]

/-- A finding is read back without an offending `null`. -/
theorem read_write (site : Site) (d : Diagnostic) :
    codec.read site (codec.write d) = .ok d.withoutNull := by
  obtain ⟨field, kind, message, _ | j⟩ := d
  · rw [write_none]
    cases kind <;> rfl
  · rw [write_some]
    cases j <;> cases kind <;> rfl

theorem read_write_eq_self_iff {site : Site} {d : Diagnostic} :
    codec.read site (codec.write d) = .ok d ↔ d.value ≠ some .null := by
  rw [read_write, Except.ok.injEq, withoutNull_eq_self_iff]

end Diagnostic

/-! ## Several findings -/

namespace Diagnostics

theorem read_errors {site : Site} {j : Json} {found : List Diagnostic}
    (h : Diagnostic.codec.list.read site j = .ok found) :
    codec.read site (.obj [("errors", j)]) = .ok ⟨found⟩ := by
  have hgiven : Gives Diagnostic.codec.list none site [("errors", j)] "errors" found := h
  exact read_obj_eq_ok_iff.2
    (readMembers_member.2 ⟨_, found, rfl, Member.readFrom_eq_value_iff.2 hgiven, rfl⟩)

theorem read_write (site : Site) (found : List Diagnostic) :
    codec.read site (codec.write ⟨found⟩) = .ok ⟨found.map Diagnostic.withoutNull⟩ := by
  refine read_errors (read_list_eq_ok_iff.2 ⟨found.map Diagnostic.codec.write, rfl, ?_⟩)
  rw [List.forall₂_map_left_iff, List.forall₂_map_right_iff]
  exact List.forall₂_same.2 fun d _ => Diagnostic.read_write site d

theorem read_write_eq_self_iff {site : Site} {found : List Diagnostic} :
    codec.read site (codec.write ⟨found⟩) = .ok ⟨found⟩ ↔ ∀ d ∈ found, d.value ≠ some .null := by
  rw [read_write, Except.ok.injEq, Diagnostics.mk.injEq]
  have hself : found.map Diagnostic.withoutNull = found ↔ ∀ d ∈ found, d.withoutNull = d := by
    simpa using List.map_inj_left (f := Diagnostic.withoutNull) (g := id) (l := found)
  rw [hself]
  exact forall₂_congr fun d _ => Diagnostic.withoutNull_eq_self_iff

end Diagnostics

/-! ## The findings of the checks -/

/-- What stands at the place of a finding; nothing stands in the place of a missing member. -/
def Finding.offending (f : Finding) : Option Json :=
  match f.violation.cause with
  | .missing _ => none
  | _ => some f.violation.value

/-- The diagnostics of the three checks, each with the value that is wrong, if there is one. -/
inductive Diagnostic.About : Diagnostic → Option Json → Prop
  | field {rule : FieldRule} {j : Json} {d : Diagnostic} (h : rule.finding? j = some d) :
    About d (some j)
  | custom {rule : CustomRule} {evaluator : Evaluator} {env : Members} {d : Diagnostic}
      (h : rule.finding? evaluator env = some d) : About d (some (.str rule.expr))
  | schema {kind : DocumentKind} {doc : Json} {f : Finding} (h : f ∈ kind.findings doc) :
    About f.diagnostic f.offending

/-- The diagnostics of a document are about what stands at the places of its findings. -/
theorem DocumentKind.about_diagnoseAll (kind : DocumentKind) (doc : Json) :
    List.Forall₂ Diagnostic.About (kind.diagnoseAll doc)
      ((kind.findings doc).map Finding.offending) := by
  rw [diagnoseAll_eq_map, List.forall₂_map_left_iff, List.forall₂_map_right_iff]
  exact List.forall₂_same.2 fun f hf => .schema hf

/-- Every finding has the value that it is about. -/
theorem Diagnostic.About.value_eq {d : Diagnostic} {value : Option Json} (h : d.About value) :
    d.value = value := by
  cases h with
  | field h =>
    obtain ⟨p, -, rfl⟩ := Option.map_eq_some_iff.1 h
    rfl
  | @custom rule evaluator env d h =>
    unfold CustomRule.finding? at h
    split at h
    · contradiction
    · rw [← Option.some.inj h]
    · rw [← Option.some.inj h]
  | schema h => rfl

namespace Diagnostics

theorem map_value_eq {found : List Diagnostic} {values : List (Option Json)}
    (h : List.Forall₂ Diagnostic.About found values) : found.map Diagnostic.value = values := by
  induction h with
  | nil => rfl
  | cons habout _ ih => rw [List.map_cons, habout.value_eq, ih]

/-- Findings of the checks come back as they are, each for itself and all in one, unless an
offending value is `null`; of such a finding the value is lost and nothing else.  They come back
from the JSON value that is written: behind a text, a double may be a neighbour of the one
written. -/
theorem read_write_iff {found : List Diagnostic} {values : List (Option Json)}
    (h : List.Forall₂ Diagnostic.About found values) (site : Site) :
    List.Forall₂ (fun d value =>
        Diagnostic.codec.read site (Diagnostic.codec.write d) = .ok d ↔ value ≠ some .null)
      found values ∧
    (codec.read site (codec.write ⟨found⟩) = .ok ⟨found⟩ ↔ some .null ∉ values) ∧
    codec.read site (codec.write ⟨found⟩) = .ok ⟨found.map Diagnostic.withoutNull⟩ := by
  refine ⟨h.imp fun d value habout => ?_, ?_, read_write site found⟩
  · rw [Diagnostic.read_write_eq_self_iff, habout.value_eq]
  · rw [read_write_eq_self_iff, ← map_value_eq h, List.mem_map]
    exact ⟨fun hall ⟨d, hd, hnull⟩ => hall d hd hnull, fun hnone d hd hnull => hnone ⟨d, hd, hnull⟩⟩

/-- A rule for a text. -/
def textRule : FieldRule :=
  ⟨"a", some .string, none, none, none, none, none, none, none, [], none⟩

/-- A number in the place of a text comes back. -/
theorem read_write_iff_number : ∃ d, textRule.finding? (.int 5) = some d ∧
    List.Forall₂ Diagnostic.About [d] [some (.int 5)] ∧ some Json.null ∉ [some (.int 5)] ∧
      codec.read .inPlace (codec.write ⟨[d]⟩) = .ok ⟨[d]⟩ := by
  obtain ⟨d, hfound⟩ : ∃ d, textRule.finding? (.int 5) = some d := ⟨_, rfl⟩
  have habout : List.Forall₂ Diagnostic.About [d] [some (.int 5)] := .cons (.field hfound) .nil
  have hnull : some Json.null ∉ [some (Json.int 5)] := by simp [Json.int]
  exact ⟨d, hfound, habout, hnull, (read_write_iff habout .inPlace).2.1.2 hnull⟩

/-- A `null` in the place of a text does not come back. -/
theorem null_lost : ∃ d, textRule.finding? .null = some d ∧
    Diagnostic.codec.read .inPlace (Diagnostic.codec.write d) ≠ .ok d := by
  refine ⟨_, rfl, fun h => ?_⟩
  exact Diagnostic.read_write_eq_self_iff.1 h rfl

end Diagnostics
end FlowCheck
