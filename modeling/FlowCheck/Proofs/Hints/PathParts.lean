import FlowCheck.Hints.Hint
import FlowCheck.Proofs.Hints.Options
import FlowCheck.Proofs.Text.ByteOrder

/-!
# Keys and the parts of a path

A key of a table is held against the end of a normalized path.  On the bytes of the two texts the
test looks for the key at the very end and for a point in front of it (`FieldPath.endsInBytes`); it
knows nothing of the parts between points, nor of characters.  A point is a byte of its own and no
part of another character, so the test answers as `FieldPath.endsIn` does.

Both texts are cut at their points, so that the test holds exactly when the parts of the key are the
last ones of the path, leaving out those that name nothing
(`FieldPath.endsIn_normalize_iff_parts`).  The tables of options and of routes are searched by this
test, hence by whole parts (`Hint.found_iff_parts`).
-/

namespace FlowCheck

namespace FieldPath

/-! ## Bytes -/

/-- The test on bytes: the path is the key, or it is longer, ends in the key and has a point in
front of it. -/
def endsInBytes (path key : List ℕ) : Bool :=
  path == key || (decide (key.length < path.length) && key.isSuffixOf path &&
    path[path.length - key.length - 1]? == some '.'.toNat)

/-- A row ends in `b` and `key` when it is longer than `key`, ends in it and has `b` in front. -/
theorem cons_suffix_iff_getElem? {b : ℕ} {key path : List ℕ} :
    b :: key <:+ path ↔
      key.length < path.length ∧ key <:+ path ∧ path[path.length - key.length - 1]? = some b := by
  constructor
  · rintro ⟨front, rfl⟩
    have hlength : (front ++ b :: key).length = front.length + key.length + 1 := by
      rw [List.length_append, List.length_cons, Nat.add_assoc]
    have hplace : (front ++ b :: key).length - key.length - 1 = front.length := by omega
    refine ⟨by omega, ⟨front ++ [b], by simp⟩, ?_⟩
    rw [hplace]
    simp
  · rintro ⟨hlonger, ⟨front, rfl⟩, hpoint⟩
    rw [List.length_append] at hlonger hpoint
    have hlast : front.getLast? = some b := by
      rw [List.getLast?_eq_getElem?, ← hpoint, Nat.add_sub_cancel,
        List.getElem?_append_left (by omega)]
    obtain ⟨init, rfl⟩ := List.getLast?_eq_some_iff.1 hlast
    exact ⟨init, by simp⟩

/-- The test on the bytes of two texts is the one on their characters. -/
theorem endsInBytes_bytes (path key : String) :
    endsInBytes (Text.bytes path) (Text.bytes key) = endsIn path key := by
  have hpoint : '.'.toNat :: Text.bytes key <:+ Text.bytes path ↔
      '.' :: key.toList <:+ path.toList := by
    rw [Text.bytes_eq, Text.bytes_eq, Text.cons_suffix_flatMap_charBytes_iff (by decide)]
  rw [Bool.eq_iff_iff, endsInBytes, endsIn]
  simp only [Bool.or_eq_true, Bool.and_eq_true, beq_iff_eq, decide_eq_true_eq,
    List.isSuffixOf_iff_suffix, and_assoc]
  rw [← cons_suffix_iff_getElem?, hpoint, Text.bytes_injective.eq_iff]

/-! ## Parts -/

/-- The parts of a path, between its points. -/
def parts (path : String) : List (List Char) := path.toList.splitOn '.'

/-- The parts of a path without those that are empty, the root or a row of digits. -/
def namedParts (path : String) : List (List Char) :=
  (parts path).filter fun s => s ≠ [] ∧ s ≠ "(root)".toList ∧ ¬ s.all Char.isDigit

theorem map_ofList_injective : Function.Injective (List.map String.ofList) :=
  List.map_injective_iff.2 fun _ _ => String.ofList_injective

theorem isName_ofList (s : List Char) : isName (String.ofList s) = true ↔
    s ≠ [] ∧ s ≠ "(root)".toList ∧ ¬ s.all Char.isDigit := by
  have hroot : String.ofList s = "(root)" ↔ s = "(root)".toList := by
    rw [← String.toList_inj, String.toList_ofList]
  simp [isName, and_assoc, hroot]

theorem names_eq_map_namedParts (path : String) :
    names path = (namedParts path).map String.ofList := by
  rw [names, Text.pieces_eq, List.filter_map, namedParts, parts]
  congr 2
  funext s
  rw [Function.comp_apply, Bool.eq_iff_iff, isName_ofList, decide_eq_true_iff]

theorem namedParts_normalize (field : String) :
    namedParts (normalize field) = namedParts field :=
  map_ofList_injective (by
    rw [← names_eq_map_namedParts, names_normalize, names_eq_map_namedParts])

theorem pieces_suffix_names_iff {key field : String} :
    Text.pieces '.' key <:+ names field ↔ parts key <:+ namedParts field := by
  have hpieces : Text.pieces '.' key = (parts key).map String.ofList := Text.pieces_eq '.' key
  rw [hpieces, names_eq_map_namedParts]
  constructor
  · intro h
    obtain ⟨back, hback, heq⟩ := List.suffix_map_iff.1 h
    exact map_ofList_injective heq ▸ hback
  · exact fun h => h.map String.ofList

/-- A normalized path ends in a key when the named parts of the path end in those of the key. -/
theorem endsIn_normalize_iff_parts {field key : String} (hkey : key ≠ "") :
    endsIn (normalize field) key = true ↔ parts key <:+ namedParts field := by
  rw [endsIn_normalize_iff_pieces hkey, pieces_suffix_names_iff]

end FieldPath

open FieldPath (parts namedParts)

/-! ## The table of options -/

namespace Options

theorem ne_empty_of_mem_fields : ∀ row ∈ fields, row.1 ≠ "" := by
  decide

/-- No row is for a path that is decided before the table is searched. -/
theorem not_suffix_of_mem_fields : ∀ row ∈ fields, ∀ path ∈ ["", "kind", "resources.kind"],
    ¬ parts row.1 <:+ namedParts path := by
  decide

/-- The table is searched by whole parts. -/
theorem find?_endsIn_eq (field : String) :
    fields.find? (fun row => FieldPath.endsIn (FieldPath.normalize field) row.1) =
      fields.find? (fun row => decide (parts row.1 <:+ namedParts field)) := by
  refine List.find?_congr fun row hrow => ?_
  rw [Bool.eq_iff_iff, decide_eq_true_iff]
  exact FieldPath.endsIn_normalize_iff_parts (ne_empty_of_mem_fields row hrow)

/-- What the table has for the last parts of a path are the options of the field. -/
theorem ofField?_of_find? {field : String} {row : String × Options}
    (h : fields.find? (fun row => decide (parts row.1 <:+ namedParts field)) = some row)
    (kind : DocumentKind) : ofField? field kind = some row.2 := by
  have hend : parts row.1 <:+ namedParts field := by simpa using List.find?_some h
  have hother : ∀ path ∈ ["", "kind", "resources.kind"], FieldPath.normalize field ≠ path := by
    intro path hpath hnormal
    refine not_suffix_of_mem_fields row (List.mem_of_find?_eq_some h) path hpath ?_
    rwa [← hnormal, FieldPath.namedParts_normalize]
  unfold ofField?
  simp only
  rw [if_neg (hother "" (by simp)), if_neg (hother "kind" (by simp)),
    if_neg (hother "resources.kind" (by simp)), find?_endsIn_eq, h]

theorem names_suffix_iff_of_mem_fields {field : String} {row : String × Options}
    (h : row ∈ fields) :
    FieldPath.names row.1 <:+ FieldPath.names field ↔
      parts row.1 <:+ namedParts field := by
  obtain ⟨hnormal, hne⟩ := normalize_of_mem_fields row h
  rw [← FieldPath.endsIn_normalize_iff hnormal hne,
    FieldPath.endsIn_normalize_iff_parts (ne_empty_of_mem_fields row h)]

/-- Options come from a row for the last parts of the path, or the last of them is a word that may
do without. -/
theorem row_or_word_of_ofField? {field : String} {kind : DocumentKind} {options : Options}
    (h : ofField? field kind = some options) :
    (∃ row ∈ fields, parts row.1 <:+ namedParts field ∧ row.2 = options) ∨
      ∃ word ∈ lastWords, (namedParts field).getLast? = some word.toList := by
  rw [ofField?_eq_ofNames?] at h
  rcases row_or_word_of_ofNames? h with ⟨row, hrow, hsuffix, hoptions⟩ | ⟨word, hword, hlast⟩
  · exact .inl ⟨row, hrow, (names_suffix_iff_of_mem_fields hrow).1 hsuffix, hoptions⟩
  · rw [FieldPath.names_eq_map_namedParts, List.getLast?_map, Option.map_eq_some_iff] at hlast
    obtain ⟨part, hpart, rfl⟩ := hlast
    exact .inr ⟨_, hword, by rw [hpart, String.toList_ofList]⟩

end Options

/-! ## The table of routes -/

namespace Hint

theorem ne_empty_of_mem_routeFields : ∀ key ∈ routeFields, key ≠ "" := by
  decide

theorem forPattern_eq_routeHint_iff {field : String} : forPattern field = routeHint ↔
    ∃ key ∈ routeFields, parts key <:+ namedParts field := by
  have hother : "Check the format requirements for this field" ≠ routeHint := by decide
  have hany : routeFields.any (FieldPath.endsIn (FieldPath.normalize field)) = true ↔
      ∃ key ∈ routeFields, parts key <:+ namedParts field := by
    rw [List.any_eq_true]
    exact exists_congr fun key => and_congr_right fun hkey =>
      FieldPath.endsIn_normalize_iff_parts (ne_empty_of_mem_routeFields key hkey)
  rw [← hany, forPattern]
  split
  · next h => exact iff_of_true rfl h
  · next h => exact iff_of_false hother h

/-! ## Both tables -/

/-- A normalized path ends in a key, on its bytes as on its characters, exactly when the parts of
the key are the last named ones of the path.  So the tables of options and of routes have something
for whole parts only: the field gets the options of the first row whose key has the last parts, and
there are no others but those of a last part that needs no row. -/
theorem found_iff_parts (field : String) :
    (∀ key, key ≠ "" →
      (FieldPath.endsInBytes (Text.bytes (FieldPath.normalize field)) (Text.bytes key) = true ↔
        parts key <:+ namedParts field) ∧
      (FieldPath.endsIn (FieldPath.normalize field) key = true ↔
        parts key <:+ namedParts field)) ∧
    (∀ kind row,
      Options.fields.find? (fun row => decide (parts row.1 <:+ namedParts field)) =
        some row → Options.ofField? field kind = some row.2) ∧
    (∀ kind options, Options.ofField? field kind = some options →
      (∃ row ∈ Options.fields, parts row.1 <:+ namedParts field ∧ row.2 = options) ∨
        ∃ word ∈ Options.lastWords, (namedParts field).getLast? = some word.toList) ∧
    (forPattern field = routeHint ↔
      ∃ key ∈ routeFields, parts key <:+ namedParts field) := by
  refine ⟨fun key hkey => ?_, fun kind row hrow => Options.ofField?_of_find? hrow kind,
    fun _ _ => Options.row_or_word_of_ofField?, forPattern_eq_routeHint_iff⟩
  have htest : FieldPath.endsIn (FieldPath.normalize field) key = true ↔
      parts key <:+ namedParts field :=
    FieldPath.endsIn_normalize_iff_parts hkey
  exact ⟨by rw [FieldPath.endsInBytes_bytes, htest], htest⟩

/-- A character of two bytes as a part in front of the key, and at the start of a part whose rest is
that of the key. -/
theorem found_iff_parts_accented :
    "routes.methods" ≠ "" ∧
      FieldPath.endsInBytes (Text.bytes (FieldPath.normalize "(root).é.routes.0.methods.2"))
        (Text.bytes "routes.methods") = true ∧
      FieldPath.endsInBytes (Text.bytes (FieldPath.normalize "éroutes.0.methods.2"))
        (Text.bytes "routes.methods") = false ∧
      Options.ofField? "(root).é.routes.0.methods.2" .resource = some Options.httpMethods ∧
      forPattern "é.routes.7.path" = routeHint ∧ forPattern "éroutes.7.path" ≠ routeHint := by
  have hkey : "routes.methods" ≠ "" := by decide
  obtain ⟨hwhole, hfound, -⟩ := found_iff_parts "(root).é.routes.0.methods.2"
  have hpartial := (found_iff_parts "éroutes.0.methods.2").1 "routes.methods" hkey
  obtain ⟨-, -, -, hroute⟩ := found_iff_parts "é.routes.7.path"
  obtain ⟨-, -, -, hother⟩ := found_iff_parts "éroutes.7.path"
  have hrow : Options.fields.find? (fun row => decide
      (parts row.1 <:+ namedParts "(root).é.routes.0.methods.2")) =
      some ("routes.methods", Options.httpMethods) := by decide
  exact ⟨hkey, (hwhole _ hkey).1.2 (by decide),
    Bool.eq_false_iff.2 (mt hpartial.1.1 (by decide)), hfound .resource _ hrow,
    hroute.2 (by decide), mt hother.1 (by decide)⟩

end Hint
end FlowCheck
