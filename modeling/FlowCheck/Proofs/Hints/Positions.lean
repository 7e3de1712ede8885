import FlowCheck.Proofs.Hints.Hint
import FlowCheck.Proofs.Hints.Options

/-!
# Positions on a field path

Array positions, empty segments and the root name nothing, and paths that differ in such segments
only (`FieldPath.Alike`) get the same hints.  All tables but one look at the normalized path alone,
which is the same for such paths and its own normalized path (`FieldPath.normalize_eq_iff_alike`).
The words that are known in a context look for it on the path as it is given; as no word of a
context is left out of the names, they find it among the names as well.
-/

namespace FlowCheck

namespace FieldPath

theorem normalize_normalize (field : String) : normalize (normalize field) = normalize field :=
  congrArg (Text.join ".") (names_normalize field)

/-- Rows of segments that differ only in segments that name nothing. -/
inductive SameNamed : List String → List String → Prop
  | nil : SameNamed [] []
  | both (segment : String) {xs ys : List String} (h : SameNamed xs ys) :
      SameNamed (segment :: xs) (segment :: ys)
  | left {segment : String} (hname : isName segment = false) {xs ys : List String}
      (h : SameNamed xs ys) : SameNamed (segment :: xs) ys
  | right {segment : String} (hname : isName segment = false) {xs ys : List String}
      (h : SameNamed xs ys) : SameNamed xs (segment :: ys)

theorem SameNamed.of_filter_eq_nil {ys : List String} (h : ys.filter isName = []) :
    SameNamed [] ys := by
  induction ys with
  | nil => exact .nil
  | cons y ys ih =>
    rw [List.filter_eq_nil_iff] at h
    have hy : isName y = false := by simpa using h y List.mem_cons_self
    refine .right hy (ih (List.filter_eq_nil_iff.2 fun z hz => h z (List.mem_cons_of_mem _ hz)))

/-- A first segment that names something is behind segments that name nothing. -/
theorem SameNamed.of_filter_eq_cons {x : String} {xs ys : List String}
    (hrest : ∀ zs : List String, xs.filter isName = zs.filter isName → SameNamed xs zs)
    (h : ys.filter isName = x :: xs.filter isName) : SameNamed (x :: xs) ys := by
  induction ys with
  | nil => simp at h
  | cons y ys ih =>
    by_cases hy : isName y = true
    · rw [List.filter_cons_of_pos hy] at h
      obtain ⟨rfl, hys⟩ := List.cons.inj h
      exact .both y (hrest ys hys.symm)
    · rw [List.filter_cons_of_neg hy] at h
      exact .right (by simpa using hy) (ih h)

theorem sameNamed_iff {xs ys : List String} :
    SameNamed xs ys ↔ xs.filter isName = ys.filter isName := by
  constructor
  · intro h
    induction h with
    | nil => rfl
    | both segment _ ih => rw [List.filter_cons, List.filter_cons, ih]
    | left hname _ ih => rw [List.filter_cons_of_neg (by simp [hname]), ih]
    | right hname _ ih => rw [List.filter_cons_of_neg (by simp [hname]), ih]
  · intro h
    induction xs generalizing ys with
    | nil => exact .of_filter_eq_nil h.symm
    | cons x xs ih =>
      by_cases hx : isName x = true
      · rw [List.filter_cons_of_pos hx] at h
        exact .of_filter_eq_cons (fun zs hzs => ih hzs) h.symm
      · rw [List.filter_cons_of_neg hx] at h
        exact .left (by simpa using hx) (ih h)

/-- The paths differ only in segments that name nothing. -/
def Alike (field other : String) : Prop :=
  SameNamed (Text.pieces '.' field) (Text.pieces '.' other)

theorem normalize_eq_iff_alike {field other : String} :
    normalize field = normalize other ↔ Alike field other := by
  rw [Alike, sameNamed_iff]
  constructor
  · intro h
    rw [← names, ← names, ← names_normalize field, h, names_normalize]
  · exact congrArg (Text.join ".")

theorem alike_normalize (field : String) : Alike field (normalize field) :=
  normalize_eq_iff_alike.1 (normalize_normalize field).symm

end FieldPath

/-! ## Hints -/

namespace Hint

/-- All that the tables say about a path, and every message. -/
structure Same (field other : String) : Prop where
  options : ∀ kind, Options.ofField? field kind = Options.ofField? other kind
  example? : Example.ofField? field = Example.ofField? other
  required : forRequired field = forRequired other
  type : ∀ description, forType field description = forType other description
  pattern : forPattern field = forPattern other
  range : ∀ description, forRange field description = forRange other description
  message : ∀ category description kind,
    enhance field category description kind = enhance other category description kind

theorem same_of_alike {field other : String} (h : FieldPath.Alike field other) :
    Same field other := by
  have hpath : FieldPath.normalize field = FieldPath.normalize other :=
    FieldPath.normalize_eq_iff_alike.2 h
  have hnames : FieldPath.names field = FieldPath.names other := FieldPath.sameNamed_iff.1 h
  have hoptions (kind : DocumentKind) :
      Options.ofField? field kind = Options.ofField? other kind := by
    rw [Options.ofField?_eq_ofNames?, Options.ofField?_eq_ofNames?, hnames]
  have hexample : Example.ofField? field = Example.ofField? other := by
    rw [Example.ofField?, Example.ofField?, hpath]
  have hrequired : forRequired field = forRequired other := by
    rw [forRequired, forRequired, hexample]
  have htype (description : String) : forType field description = forType other description := by
    rw [forType, forType, hexample]
  have hpattern : forPattern field = forPattern other := by
    rw [forPattern, forPattern, hpath]
  have hrange (description : String) :
      forRange field description = forRange other description := by
    rw [forRange, forRange, hpath]
  have hmessage (category description : String) (kind : DocumentKind) :
      enhance field category description kind = enhance other category description kind := by
    rw [enhance, enhance, hoptions, hrequired, htype, hpattern, hrange]
  exact ⟨hoptions, hexample, hrequired, htype, hpattern, hrange, hmessage⟩

/-- A path and its normalized path get the same hints, and so do any two paths that differ only in
segments that name nothing, which are those with the same normalized path. -/
theorem same_of_normalized (field : String) :
    FieldPath.normalize (FieldPath.normalize field) = FieldPath.normalize field ∧
      Same field (FieldPath.normalize field) ∧
      ∀ other, (FieldPath.Alike field other ↔
          FieldPath.normalize field = FieldPath.normalize other) ∧
        (FieldPath.Alike field other → Same field other) :=
  ⟨FieldPath.normalize_normalize field, same_of_alike (FieldPath.alike_normalize field),
    fun _ => ⟨FieldPath.normalize_eq_iff_alike.symm, same_of_alike⟩⟩

theorem same_of_normalized_routes :
    FieldPath.Alike "settings.apiServer.routes.0.methods.1"
        "(root)..settings.apiServer.routes.methods" ∧
      Same "settings.apiServer.routes.0.methods.1"
        "(root)..settings.apiServer.routes.methods" := by
  have halike : FieldPath.Alike "settings.apiServer.routes.0.methods.1"
      "(root)..settings.apiServer.routes.methods" := FieldPath.sameNamed_iff.2 (by decide)
  exact ⟨halike, ((same_of_normalized _).2.2 _).2 halike⟩

end Hint
end FlowCheck
