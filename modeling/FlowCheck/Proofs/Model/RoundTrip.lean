import FlowCheck.Model.Workflow
import FlowCheck.Proofs.Model.Run
import FlowCheck.Proofs.Wire.Faithful

/-!
# Written documents are read back

Whatever a document was read as is read back from its written form: workflows, resources and runs
(`read_write_of_read`).  Structure by structure this follows from the members.  The blocks and the
options of a run are written into one object, where each record still finds its own members, since
no key belongs to both (`Run.faithful`).
-/

namespace FlowCheck

open Wire (Codec Record)
open Wire.Codec (exact_count exact_flag exact_real exact_text exact_variant exact_word16
  exact_word32 faithful_any)
open Wire.Record (faithful_start)

/-! ## Actions -/

theorem ChatMessage.faithful : codec.Faithful :=
  faithful_start
    |>.text |>.text
    |>.codec (fun _ => rfl) (fun _ => rfl) (by decide)

theorem ToolParameter.faithful : codec.Faithful :=
  faithful_start
    |>.text |>.text |>.flag
    |>.codec (fun _ => rfl) (fun _ => rfl) (by decide)

theorem ChatTool.faithful : codec.Faithful :=
  faithful_start
    |>.required exact_text.faithful |>.text |>.text
    |>.briefTable ToolParameter.faithful
    |>.codec (fun _ => rfl) (fun _ => rfl) (by decide)

theorem Chat.faithful : codec.Faithful :=
  faithful_start
    |>.text |>.optionalText |>.optionalText |>.optionalText
    |>.optional exact_word32.faithful
    |>.optionalText |>.text
    |>.briefList ChatMessage.faithful
    |>.briefList ChatTool.faithful
    |>.briefList exact_text.faithful
    |>.flag
    |>.briefList exact_text.faithful
    |>.optionalText
    |>.optional exact_real.faithful
    |>.optional exact_word32.faithful
    |>.codec (fun _ => rfl) (fun _ => rfl) (by decide)

theorem Retry.faithful : codec.Faithful :=
  faithful_start
    |>.optional exact_word32.faithful
    |>.optionalText
    |>.codec (fun _ => rfl) (fun _ => rfl) (by decide)

theorem HttpCache.faithful : codec.Faithful :=
  faithful_start
    |>.flag |>.optionalText
    |>.codec (fun _ => rfl) (fun _ => rfl) (by decide)

theorem HttpClient.faithful : codec.Faithful :=
  faithful_start
    |>.text |>.text
    |>.briefTable exact_text.faithful
    |>.optional faithful_any
    |>.optionalText
    |>.optional Retry.faithful
    |>.optional HttpCache.faithful
    |>.optional exact_flag.faithful
    |>.optionalText
    |>.codec (fun _ => rfl) (fun _ => rfl) (by decide)

theorem SqlQuery.faithful : codec.Faithful :=
  faithful_start
    |>.text |>.text
    |>.briefList faithful_any
    |>.codec (fun _ => rfl) (fun _ => rfl) (by decide)

theorem Sql.faithful : codec.Faithful :=
  faithful_start
    |>.text |>.text |>.text
    |>.briefList faithful_any
    |>.flag
    |>.briefList SqlQuery.faithful
    |>.optionalText |>.optionalText
    |>.optional exact_word32.faithful
    |>.codec (fun _ => rfl) (fun _ => rfl) (by decide)

theorem Script.faithful : codec.Faithful :=
  faithful_start
    |>.text |>.optionalText
    |>.briefList exact_text.faithful
    |>.optionalText |>.optionalText
    |>.codec (fun _ => rfl) (fun _ => rfl) (by decide)

theorem Exec.faithful : codec.Faithful :=
  faithful_start
    |>.text
    |>.briefList exact_text.faithful
    |>.optionalText |>.optionalText
    |>.briefTable exact_text.faithful
    |>.codec (fun _ => rfl) (fun _ => rfl) (by decide)

theorem Speech.faithful : codec.Faithful :=
  faithful_start
    |>.text |>.optionalText |>.optionalText |>.optionalText |>.optionalText
    |>.codec (fun _ => rfl) (fun _ => rfl) (by decide)

theorem ResponseMeta.faithful : codec.Faithful :=
  faithful_start
    |>.briefTable exact_text.faithful
    |>.optionalText |>.optionalText
    |>.codec (fun _ => rfl) (fun _ => rfl) (by decide)

theorem ApiResponse.faithful : codec.Faithful :=
  faithful_start
    |>.flag
    |>.optional faithful_any
    |>.optional ResponseMeta.faithful
    |>.codec (fun _ => rfl) (fun _ => rfl) (by decide)

/-! ## Options of runs -/

theorem FieldType.faithful : codec.Faithful :=
  Codec.Exact.faithful <| exact_variant fun t => by cases t <;> rfl

theorem FieldRule.faithful : codec.Faithful :=
  faithful_start
    |>.required exact_text.faithful
    |>.optional FieldType.faithful
    |>.optional exact_count.faithful
    |>.optional exact_count.faithful
    |>.optionalText
    |>.optionalAlso exact_real.faithful
    |>.optionalAlso exact_real.faithful
    |>.optional exact_count.faithful
    |>.optional exact_count.faithful
    |>.briefList faithful_any
    |>.optionalText
    |>.codec (fun _ => rfl) (fun _ => rfl) (by decide)

theorem CustomRule.faithful : codec.Faithful :=
  faithful_start
    |>.required exact_text.faithful |>.text
    |>.codec (fun _ => rfl) (fun _ => rfl) (by decide)

theorem ValidationRules.faithful : codec.Faithful :=
  faithful_start
    |>.briefList exact_text.faithful
    |>.briefList FieldRule.faithful
    |>.briefList CustomRule.faithful
    |>.codec (fun _ => rfl) (fun _ => rfl) (by decide)

theorem ErrorResponse.faithful : codec.Faithful :=
  faithful_start
    |>.optional exact_word16.faithful
    |>.text
    |>.codec (fun _ => rfl) (fun _ => rfl) (by decide)

theorem PreflightCheck.faithful : codec.Faithful :=
  faithful_start
    |>.list exact_text.faithful
    |>.optional ErrorResponse.faithful
    |>.codec (fun _ => rfl) (fun _ => rfl) (by decide)

theorem OnError.faithful : codec.Faithful :=
  faithful_start
    |>.text
    |>.optional exact_word32.faithful
    |>.optionalText
    |>.optional faithful_any
    |>.codec (fun _ => rfl) (fun _ => rfl) (by decide)

/-! ## Runs -/

/-- The keys of the blocks of a run. -/
def RunParts.keys : List String := Run.primaryNames ++ ["apiResponse"]

/-- The keys of the options of a run. -/
def RunOptions.keys : List String :=
  ["restrictToHttpMethods", "restrictToRoutes", "allowedHeaders", "allowedParams", "skipCondition",
    "preflightCheck", "validation", "exprBefore", "expr", "exprAfter", "onError"]

theorem RunParts.restores : record.Restores keys :=
  faithful_start
    |>.optional Chat.faithful
    |>.optional HttpClient.faithful
    |>.optional Sql.faithful
    |>.optional Script.faithful
    |>.optional Exec.faithful
    |>.optional Speech.faithful
    |>.optional ApiResponse.faithful
    |>.restores (fun _ => rfl) (fun _ => rfl) (by decide)

theorem RunOptions.restores : record.Restores keys :=
  faithful_start
    |>.briefList exact_text.faithful
    |>.briefList exact_text.faithful
    |>.briefList exact_text.faithful
    |>.briefList exact_text.faithful
    |>.briefList exact_text.faithful
    |>.optional PreflightCheck.faithful
    |>.optional ValidationRules.faithful
    |>.briefList exact_text.faithful
    |>.briefList exact_text.faithful
    |>.briefList exact_text.faithful
    |>.optional OnError.faithful
    |>.restores (fun _ => rfl) (fun _ => rfl) (by decide)

namespace Run

theorem nodup_keys : (RunParts.keys ++ RunOptions.keys).Nodup := by decide

/-- The blocks of a run are those it was made of. -/
theorem parts_of_ofParts {parts : RunParts} {options : RunOptions} {run : Run}
    (h : ofParts parts options = .ok run) : run.parts = parts ∧ run.options = options := by
  obtain ⟨primary, hactions, rfl⟩ := ofParts_eq_ok_iff.1 h
  refine ⟨?_, rfl⟩
  clear h
  obtain ⟨_ | c, _ | h, _ | s, _ | p, _ | e, _ | t, response⟩ := parts <;> cases primary <;>
    cases hactions <;> rfl

/-- Blocks and options in one object are found apart. -/
theorem get?_writeMembers (parts : RunParts) (options : RunOptions) (key : String) :
    (Members.ofList (RunParts.record.writeMembers parts ++
        RunOptions.record.writeMembers options)).get? key =
      ((RunParts.record.writeMembers parts).lookup key).or
        ((RunOptions.record.writeMembers options).lookup key) := by
  have hkeys := nodup_keys.sublist
    ((RunParts.restores.keys parts).append (RunOptions.restores.keys options))
  rw [← List.map_append] at hkeys
  rw [Members.get?_ofList hkeys, List.lookup_append]

theorem faithful : codec.Faithful where
  read_write {site j run} h := by
    cases j with
    | obj members =>
      obtain ⟨parts, options, hparts, hoptions, hrun⟩ := read_obj_eq_ok_iff.1 h
      obtain ⟨hofparts, hofoptions⟩ := parts_of_ofParts hrun
      have hdisjoint := List.disjoint_of_nodup_append nodup_keys
      refine read_obj_eq_ok_iff.2 ⟨parts, options, RunParts.restores.of_readMembers hparts ?_,
        RunOptions.restores.of_readMembers hoptions ?_, hrun⟩
      · intro key hkey
        have hnone : (RunOptions.record.writeMembers options).lookup key = none :=
          Members.lookup_eq_none_iff_not_mem.2 fun hmem =>
            hdisjoint hkey ((RunOptions.restores.keys options).subset hmem)
        rw [hofparts, hofoptions, get?_writeMembers, hnone, Option.or_none]
      · intro key hkey
        have hnone : (RunParts.record.writeMembers parts).lookup key = none :=
          Members.lookup_eq_none_iff_not_mem.2 fun hmem =>
            hdisjoint ((RunParts.restores.keys parts).subset hmem) hkey
        rw [hofparts, hofoptions, get?_writeMembers, hnone, Option.none_or]
    | null => contradiction
    | bool b => contradiction
    | num n => contradiction
    | str s => contradiction
    | arr items => contradiction
  write_ne_null _ _ := Json.noConfusion

end Run

/-! ## Resources -/

theorem ResourceMetadata.faithful : codec.Faithful :=
  faithful_start
    |>.text |>.text |>.briefText |>.briefText
    |>.list exact_text.faithful
    |>.codec (fun _ => rfl) (fun _ => rfl) (by decide)

theorem Resource.faithful : codec.Faithful :=
  faithful_start
    |>.briefText |>.briefText
    |>.defaulted ResourceMetadata.faithful (fun _ => rfl)
    |>.briefList exact_text.faithful
    |>.defaulted Run.faithful (fun _ => rfl)
    |>.codec (fun _ => rfl) (fun _ => rfl) (by decide)

/-! ## Settings -/

theorem Route.faithful : codec.Faithful :=
  faithful_start
    |>.text
    |>.list exact_text.faithful
    |>.codec (fun _ => rfl) (fun _ => rfl) (by decide)

theorem Cors.faithful : codec.Faithful :=
  faithful_start
    |>.flag
    |>.list exact_text.faithful
    |>.list exact_text.faithful
    |>.list exact_text.faithful
    |>.flag
    |>.codec (fun _ => rfl) (fun _ => rfl) (by decide)

theorem ApiServer.faithful : codec.Faithful :=
  faithful_start
    |>.text
    |>.defaulted exact_word32.faithful (fun site => exact_word32.read_write site 0)
    |>.briefList exact_text.faithful
    |>.list Route.faithful
    |>.optional Cors.faithful
    |>.codec (fun _ => rfl) (fun _ => rfl) (by decide)

theorem WebRoute.faithful : codec.Faithful :=
  faithful_start
    |>.text |>.text |>.optionalText
    |>.optional exact_word32.faithful
    |>.optionalText
    |>.codec (fun _ => rfl) (fun _ => rfl) (by decide)

theorem WebServer.faithful : codec.Faithful :=
  faithful_start
    |>.text
    |>.defaulted exact_word32.faithful (fun site => exact_word32.read_write site 0)
    |>.list WebRoute.faithful
    |>.codec (fun _ => rfl) (fun _ => rfl) (by decide)

theorem OnlineSpeech.faithful : codec.Faithful :=
  faithful_start
    |>.text |>.optionalText |>.optionalText
    |>.codec (fun _ => rfl) (fun _ => rfl) (by decide)

theorem OfflineSpeech.faithful : codec.Faithful :=
  faithful_start
    |>.text |>.optionalText
    |>.codec (fun _ => rfl) (fun _ => rfl) (by decide)

theorem Telephony.faithful : codec.Faithful :=
  faithful_start
    |>.text |>.optionalText |>.optionalText
    |>.codec (fun _ => rfl) (fun _ => rfl) (by decide)

theorem Transcriber.faithful : codec.Faithful :=
  faithful_start
    |>.text |>.optionalText |>.optionalText
    |>.optional OnlineSpeech.faithful
    |>.optional OfflineSpeech.faithful
    |>.codec (fun _ => rfl) (fun _ => rfl) (by decide)

theorem Activation.faithful : codec.Faithful :=
  faithful_start
    |>.text |>.text
    |>.defaulted exact_real.faithful (fun _ => rfl)
    |>.optional exact_word32.faithful
    |>.optional OnlineSpeech.faithful
    |>.optional OfflineSpeech.faithful
    |>.codec (fun _ => rfl) (fun _ => rfl) (by decide)

theorem InputSettings.faithful : codec.Faithful :=
  faithful_start
    |>.list exact_text.faithful
    |>.optional Telephony.faithful
    |>.optional Transcriber.faithful
    |>.optional Activation.faithful
    |>.codec (fun _ => rfl) (fun _ => rfl) (by decide)

theorem Pool.faithful : codec.Faithful :=
  faithful_start
    |>.optional exact_word32.faithful
    |>.optional exact_word32.faithful
    |>.optionalText |>.optionalText
    |>.codec (fun _ => rfl) (fun _ => rfl) (by decide)

theorem SqlConnection.faithful : codec.Faithful :=
  faithful_start
    |>.text
    |>.optional Pool.faithful
    |>.codec (fun _ => rfl) (fun _ => rfl) (by decide)

theorem AgentSettings.faithful : codec.Faithful :=
  faithful_start
    |>.optionalText |>.optionalText
    |>.briefList exact_text.faithful
    |>.optionalText |>.optionalText
    |>.briefList exact_text.faithful
    |>.briefTable exact_text.faithful
    |>.codec (fun _ => rfl) (fun _ => rfl) (by decide)

theorem Settings.faithful : codec.Faithful :=
  faithful_start
    |>.flag |>.flag |>.optionalText
    |>.optional exact_word32.faithful
    |>.optional ApiServer.faithful
    |>.optional WebServer.faithful
    |>.optional InputSettings.faithful
    |>.briefTable SqlConnection.faithful
    |>.optional exact_word32.faithful
    |>.optionalText
    |>.optional AgentSettings.faithful
    |>.codec (fun _ => rfl) (fun _ => rfl) (by decide)

/-! ## Workflows -/

theorem WorkflowMetadata.faithful : codec.Faithful :=
  faithful_start
    |>.text |>.optionalText |>.text |>.text
    |>.briefList exact_text.faithful
    |>.codec (fun _ => rfl) (fun _ => rfl) (by decide)

theorem Workflow.faithful : codec.Faithful :=
  faithful_start
    |>.text |>.text
    |>.defaulted WorkflowMetadata.faithful (fun _ => rfl)
    |>.defaulted Settings.faithful (fun _ => rfl)
    |>.list Resource.faithful
    |>.codec (fun _ => rfl) (fun _ => rfl) (by decide)

/-- Whatever a workflow, a resource or a run was read from, its written form is read as the same
workflow, resource or run.  The written form is a JSON value, not a text: a double that is written
as text may be read from it as a neighbour. -/
theorem read_write_of_read :
    (∀ site j w, Workflow.codec.read site j = .ok w →
      Workflow.codec.read site (Workflow.codec.write w) = .ok w) ∧
    (∀ site j r, Resource.codec.read site j = .ok r →
      Resource.codec.read site (Resource.codec.write r) = .ok r) ∧
    ∀ site j run, Run.codec.read site j = .ok run →
      Run.codec.read site (Run.codec.write run) = .ok run :=
  ⟨fun _ _ _ h => Workflow.faithful.read_write h, fun _ _ _ h => Resource.faithful.read_write h,
    fun _ _ _ h => Run.faithful.read_write h⟩

/-- A row for the metadata, a bound under its other name, a default written out, a `null` and a
free-form value: the written document differs, and is read as the same workflow. -/
theorem read_write_of_read_row : ∃ w, Workflow.codec.read .inPlace (.obj
    [("metadata", .arr [.str "demo", .null, .str "1.0"]),
      ("resources", .arr [.obj
        [("metadata", .obj [("actionId", .str "a"), ("category", .str "")]),
          ("run", .obj
            [("httpClient", .obj [("cache", .null), ("data", .obj [("k", .null)])]),
              ("onError", .arr [.str "fail", .int 2]),
              ("validation", .obj [("rules", .arr
                [.obj [("field", .str "age"), ("minimum", .int 18),
                  ("type", .obj [("integer", .null)])]])])])]])]) = .ok w ∧
    Workflow.codec.read .inPlace (Workflow.codec.write w) = .ok w := by
  have hback {j : Json} (h : ∃ w, Workflow.codec.read .inPlace j = .ok w) :
      ∃ w, Workflow.codec.read .inPlace j = .ok w ∧
        Workflow.codec.read .inPlace (Workflow.codec.write w) = .ok w := by
    obtain ⟨w, hw⟩ := h
    exact ⟨w, hw, read_write_of_read.1 .inPlace j w hw⟩
  exact hback ⟨_, rfl⟩

end FlowCheck
