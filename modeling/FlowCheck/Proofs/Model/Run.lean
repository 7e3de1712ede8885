import FlowCheck.Proofs.Model.Builder
import FlowCheck.Proofs.Wire.Reading

/-!
# Runs and the blocks they are made of

The blocks of a run stand under keys of their own.  Those of the primary actions that are there,
and not `null`, give the actions of the document in order (`Run.forall₂_actions`).  They are put
together by the steps that build a run, the options first and the response last.  So they make a run
exactly when they name at most one primary action, which is then the action of the run
(`Run.ofParts_eq_ok_iff`).
-/

namespace FlowCheck

open Wire (Codec Gives Reading Record Site bind_eq_ok_iff)

/-! ## The actions of a document -/

/-- The key is there with a value other than `null`. -/
def Members.hasValue (members : Members) (name : String) : Bool :=
  (members.get? name).any fun j => j.kind ≠ .null

theorem Json.kind_eq_null_iff {j : Json} : j.kind = .null ↔ j = .null := by
  rcases j with _ | _ | ⟨_ | _⟩ | _ | _ | _ <;> simp [Json.kind]

theorem Members.hasValue_iff {members : Members} {name : String} :
    members.hasValue name = true ↔ ∃ j, members.get? name = some j ∧ j ≠ .null := by
  simp [hasValue, Option.any_eq_true, Json.kind_eq_null_iff]

/-- A value that is read, in its own place, as the block of an action. -/
def Action.IsBlock (j : Json) : Action → Prop
  | .chat c => Chat.codec.read .inPlace j = .ok c
  | .httpClient c => HttpClient.codec.read .inPlace j = .ok c
  | .sql c => Sql.codec.read .inPlace j = .ok c
  | .python c => Script.codec.read .inPlace j = .ok c
  | .exec c => Exec.codec.read .inPlace j = .ok c
  | .tts c => Speech.codec.read .inPlace j = .ok c

/-- The key is that of the action, and its member is the block of the action. -/
def Action.StandsAt (members : Members) (name : String) (action : Action) : Prop :=
  name = action.name ∧ ∃ j, members.get? name = some j ∧ action.IsBlock j

/-- The members of a run that make it run something. -/
def Run.primaryNames : List String := ["chat", "httpClient", "sql", "python", "exec", "tts"]

namespace Run

/-- The keys of primary actions that are there with a value other than `null`. -/
def namedPrimaries (members : Members) : List String := primaryNames.filter members.hasValue

/-- What a key of a primary action comes to: the action of its block, or nothing. -/
inductive Slot (members : Members) (name : String) : Option Action → Prop
  | block {action : Action} (hvalue : members.hasValue name = true)
      (h : action.StandsAt members name) : Slot members name (some action)
  | empty (hvalue : ¬ members.hasValue name = true) : Slot members name none

variable {members : Members}

theorem slot_of_gives {α : Type} {c : Codec α} {make : α → Action} {name : String} {o : Option α}
    (hgives : Gives c.optional (some none) .inPlace members name o)
    (hname : ∀ a, (make a).name = name)
    (hblock : ∀ j a, c.read .inPlace j = .ok a → (make a).IsBlock j) :
    Slot members name (o.map make) := by
  unfold Gives at hgives
  split at hgives
  · next hnone =>
    obtain rfl : none = o := Option.some.inj hgives
    refine .empty fun hvalue => ?_
    obtain ⟨j, hj, -⟩ := Members.hasValue_iff.1 hvalue
    rw [hnone] at hj
    contradiction
  · next j hj =>
    by_cases hnull : j = .null
    · subst hnull
      obtain rfl : none = o := Except.ok.inj hgives
      refine .empty fun hvalue => ?_
      obtain ⟨j, hj', hnull⟩ := Members.hasValue_iff.1 hvalue
      exact hnull (Option.some.inj (hj'.symm.trans hj))
    · obtain ⟨a, ha, rfl⟩ := (Codec.read_optional_of_ne_null hnull).1 hgives
      exact .block (Members.hasValue_iff.2 ⟨j, hj, hnull⟩) ⟨(hname a).symm, j, hj, hblock j a ha⟩

/-- The actions in some slots are those of the keys that have a value. -/
theorem forall₂_filter {names : List String} {slots : List (Option Action)}
    (h : List.Forall₂ (Slot members) names slots) :
    List.Forall₂ (Action.StandsAt members) (names.filter members.hasValue)
      (slots.filterMap id) := by
  induction h with
  | nil => exact .nil
  | cons hslot _ ih =>
    cases hslot with
    | block hvalue hstands =>
      rw [List.filter_cons_of_pos hvalue]
      exact .cons hstands ih
    | empty hvalue =>
      rw [List.filter_cons_of_neg hvalue]
      exact ih

/-- The actions of a document are those of its named blocks, in order. -/
theorem forall₂_actions {parts : RunParts}
    (hparts : RunParts.record.readMembers .inPlace members = .value parts) :
    List.Forall₂ (Action.StandsAt members) (namedPrimaries members) parts.actions := by
  simp only [RunParts.record, Record.readMembers_optional, Record.readMembers_start] at hparts
  obtain ⟨_, _, ⟨_, tts, ⟨_, exec, ⟨_, python, ⟨_, sql, ⟨_, httpClient, ⟨_, chat, rfl, hchat, rfl⟩,
    hhttpClient, rfl⟩, hsql, rfl⟩, hpython, rfl⟩, hexec, rfl⟩, htts, rfl⟩, -, rfl⟩ := hparts
  exact forall₂_filter <|
    .cons (slot_of_gives hchat (fun _ => rfl) fun _ _ h => h) <|
    .cons (slot_of_gives hhttpClient (fun _ => rfl) fun _ _ h => h) <|
    .cons (slot_of_gives hsql (fun _ => rfl) fun _ _ h => h) <|
    .cons (slot_of_gives hpython (fun _ => rfl) fun _ _ h => h) <|
    .cons (slot_of_gives hexec (fun _ => rfl) fun _ _ h => h) <|
    .cons (slot_of_gives htts (fun _ => rfl) fun _ _ h => h) .nil

/-! ## Making a run -/

theorem exists_toList_iff {actions : List Action} :
    (∃ primary : Option Action, actions = primary.toList) ↔ actions.length ≤ 1 := by
  rcases actions with _ | ⟨a, _ | ⟨b, rest⟩⟩
  · exact ⟨fun _ => Nat.zero_le 1, fun _ => ⟨none, rfl⟩⟩
  · exact ⟨fun _ => Nat.le_refl 1, fun _ => ⟨some a, rfl⟩⟩
  · constructor
    · rintro ⟨primary, hprimary⟩
      cases primary <;> simp at hprimary
    · intro hle
      simp at hle

/-- What the blocks make: the run of their only action, if they name no more than one. -/
theorem ofParts_eq (parts : RunParts) (options : RunOptions) :
    ofParts parts options =
      if parts.actions.length ≤ 1 then .ok ⟨parts.actions.head?, parts.apiResponse, options⟩
      else .error .severalPrimaries := by
  have hsteps : parts.actions.foldlM setPrimary { options := options } =
      build (.options options :: parts.actions.map .primary) := by
    change _ = (parts.actions.map RunStep.primary).foldlM step { options := options }
    rw [List.foldlM_map]
    rfl
  have hprimaries : primaries (.options options :: parts.actions.map .primary) = parts.actions := by
    rw [primaries, List.filterMap_cons_none rfl, List.filterMap_map]
    exact List.filterMap_some
  have hgiven : given (.options options :: parts.actions.map .primary) =
      { primary := parts.actions.head?, options := options } := by
    have hresponses : responses (.options options :: parts.actions.map .primary) = [] := by
      rw [responses, List.filterMap_cons_none rfl, List.filterMap_map]
      exact List.filterMap_eq_nil_iff.2 fun _ _ => rfl
    have hblocks : optionBlocks (.options options :: parts.actions.map .primary) = [options] := by
      change options :: (parts.actions.map RunStep.primary).filterMap RunStep.options? = [options]
      rw [List.filterMap_map]
      exact congrArg _ (List.filterMap_eq_nil_iff.2 fun _ _ => rfl)
    rw [given, hprimaries, hresponses, hblocks]
    rfl
  rw [ofParts, hsteps, build_eq, hprimaries, hgiven]
  split <;> rfl

theorem ofParts_eq_ok_iff {parts : RunParts} {options : RunOptions} {run : Run} :
    ofParts parts options = .ok run ↔
      ∃ primary : Option Action, parts.actions = primary.toList ∧
        run = ⟨primary, parts.apiResponse, options⟩ := by
  rw [ofParts_eq]
  constructor
  · intro h
    split at h
    · next hle =>
      obtain ⟨primary, hactions⟩ := exists_toList_iff.2 hle
      rw [hactions, Option.head?_toList] at h
      exact ⟨primary, hactions, (Except.ok.inj h).symm⟩
    · contradiction
  · rintro ⟨primary, hactions, rfl⟩
    rw [if_pos (exists_toList_iff.1 ⟨primary, hactions⟩), hactions, Option.head?_toList]

/-- A run is read by reading its blocks and its options, each from the whole object. -/
theorem read_obj_eq_ok_iff {site : Site} {members : Members} {run : Run} :
    codec.read site (.obj members) = .ok run ↔ ∃ parts options,
      RunParts.record.readMembers .inPlace members = .value parts ∧
        RunOptions.record.readMembers .setAside members = .value options ∧
          ofParts parts options = .ok run := by
  change read (.obj members) = .ok run ↔ _
  simp only [read, bind_eq_ok_iff, Reading.toExcept_eq_ok_iff]
  constructor
  · rintro ⟨parts, hparts, options, hoptions, hrun⟩
    exact ⟨parts, options, hparts, hoptions, hrun⟩
  · rintro ⟨parts, options, hparts, hoptions, hrun⟩
    exact ⟨parts, hparts, options, hoptions, hrun⟩

end Run
end FlowCheck
