import FlowCheck.Proofs.Model.RoundTrip
import FlowCheck.Proofs.Schema.Kept
import FlowCheck.Schema.Check

/-!
# What is kept of a resource or a workflow

Every block of a document keeps what its schema names: the members of a structure are gone through
in their order, each with the schema of its name.  So nothing that the schema of a workflow names,
in the workflow or in its resources, is lost on the way into the typed workflow
(`Workflow.keeps`, `Workflow.written_of_part`).
-/

namespace FlowCheck

open Schema (RecordKeeps keeps_any keeps_count keeps_flag keeps_real keeps_text keeps_variant
  keeps_word16 keeps_word32 keptBehind_record mem_parts_item mem_parts_member membersKeep_start)
open Step (Follows)

/-! ## Actions -/

theorem ChatMessage.keeps : Schema.chatMessage.Keeps codec :=
  membersKeep_start
    |>.written keeps_text rfl
    |>.written keeps_text rfl
    |>.keeps (fun _ => rfl) (fun _ => rfl) (by decide) (by decide) (by decide)

theorem ChatTool.keeps : Schema.chatTool.Keeps codec :=
  membersKeep_start
    |>.written keeps_text rfl
    |>.written keeps_text rfl
    |>.written keeps_text rfl
    |>.parameters rfl
    |>.keeps (fun _ => rfl) (fun _ => rfl) (by decide) (by decide) (by decide)

theorem Chat.keeps : Schema.chat.Keeps codec :=
  membersKeep_start
    |>.written keeps_text rfl
    |>.optional keeps_text rfl
    |>.optional keeps_text rfl
    |>.optional keeps_text rfl
    |>.optional keeps_word32 rfl
    |>.optional keeps_text rfl
    |>.written keeps_text rfl
    |>.briefList ChatMessage.keeps rfl
    |>.briefList ChatTool.keeps rfl
    |>.briefList keeps_text rfl
    |>.written keeps_flag rfl
    |>.briefList keeps_text rfl
    |>.optional keeps_text rfl
    |>.optional keeps_real rfl
    |>.optional keeps_word32 rfl
    |>.keeps (fun _ => rfl) (fun _ => rfl) (by decide) (by decide) (by decide)

theorem Retry.keeps : Schema.retry.Keeps codec :=
  membersKeep_start
    |>.optional keeps_word32 rfl
    |>.optional keeps_text rfl
    |>.keeps (fun _ => rfl) (fun _ => rfl) (by decide) (by decide) (by decide)

theorem HttpCache.keeps : Schema.httpCache.Keeps codec :=
  membersKeep_start
    |>.written keeps_flag rfl
    |>.optional keeps_text rfl
    |>.keeps (fun _ => rfl) (fun _ => rfl) (by decide) (by decide) (by decide)

theorem HttpClient.keeps : Schema.httpClient.Keeps codec :=
  membersKeep_start
    |>.written keeps_text rfl
    |>.written keeps_text rfl
    |>.briefTable keeps_text rfl
    |>.optional keeps_any rfl
    |>.optional keeps_text rfl
    |>.optional Retry.keeps rfl
    |>.optional HttpCache.keeps rfl
    |>.optional keeps_flag rfl
    |>.optional keeps_text rfl
    |>.keeps (fun _ => rfl) (fun _ => rfl) (by decide) (by decide) (by decide)

theorem SqlQuery.keeps : Schema.sqlQuery.Keeps codec :=
  membersKeep_start
    |>.written keeps_text rfl
    |>.written keeps_text rfl
    |>.briefList keeps_any rfl
    |>.keeps (fun _ => rfl) (fun _ => rfl) (by decide) (by decide) (by decide)

theorem Sql.keeps : Schema.sql.Keeps codec :=
  membersKeep_start
    |>.written keeps_text rfl
    |>.written keeps_text rfl
    |>.written keeps_text rfl
    |>.briefList keeps_any rfl
    |>.written keeps_flag rfl
    |>.briefList SqlQuery.keeps rfl
    |>.optional keeps_text rfl
    |>.optional keeps_text rfl
    |>.optional keeps_word32 rfl
    |>.keeps (fun _ => rfl) (fun _ => rfl) (by decide) (by decide) (by decide)

theorem Script.keeps : Schema.python.Keeps codec :=
  membersKeep_start
    |>.written keeps_text rfl
    |>.optional keeps_text rfl
    |>.briefList keeps_text rfl
    |>.optional keeps_text rfl
    |>.optional keeps_text rfl
    |>.keeps (fun _ => rfl) (fun _ => rfl) (by decide) (by decide) (by decide)

theorem Exec.keeps : Schema.exec.Keeps codec :=
  membersKeep_start
    |>.written keeps_text rfl
    |>.briefList keeps_text rfl
    |>.optional keeps_text rfl
    |>.optional keeps_text rfl
    |>.briefTable keeps_text rfl
    |>.keeps (fun _ => rfl) (fun _ => rfl) (by decide) (by decide) (by decide)

theorem Speech.keeps : Schema.speech.Keeps codec :=
  membersKeep_start
    |>.written keeps_text rfl
    |>.optional keeps_text rfl
    |>.optional keeps_text rfl
    |>.optional keeps_text rfl
    |>.optional keeps_text rfl
    |>.keeps (fun _ => rfl) (fun _ => rfl) (by decide) (by decide) (by decide)

theorem ResponseMeta.keeps : Schema.responseMeta.Keeps codec :=
  membersKeep_start
    |>.briefTable keeps_text rfl
    |>.optional keeps_text rfl
    |>.optional keeps_text rfl
    |>.keeps (fun _ => rfl) (fun _ => rfl) (by decide) (by decide) (by decide)

theorem ApiResponse.keeps : Schema.apiResponse.Keeps codec :=
  membersKeep_start
    |>.written keeps_flag rfl
    |>.optional keeps_any rfl
    |>.optional ResponseMeta.keeps rfl
    |>.keeps (fun _ => rfl) (fun _ => rfl) (by decide) (by decide) (by decide)

/-! ## Options of runs -/

theorem FieldType.keeps {rule : TextRule} : (Schema.text rule).Keeps codec :=
  keeps_variant (by decide)

theorem FieldRule.keeps : Schema.fieldRule.Keeps codec :=
  membersKeep_start
    |>.written keeps_text rfl
    |>.optional FieldType.keeps rfl
    |>.optional keeps_count rfl
    |>.optional keeps_count rfl
    |>.optional keeps_text rfl
    |>.either keeps_real rfl keeps_real rfl
    |>.either keeps_real rfl keeps_real rfl
    |>.optional keeps_count rfl
    |>.optional keeps_count rfl
    |>.briefList keeps_any rfl
    |>.optional keeps_text rfl
    |>.keeps (fun _ => rfl) (fun _ => rfl) (by decide) (by decide) (by decide)

theorem CustomRule.keeps : Schema.customRule.Keeps codec :=
  membersKeep_start
    |>.written keeps_text rfl
    |>.written keeps_text rfl
    |>.keeps (fun _ => rfl) (fun _ => rfl) (by decide) (by decide) (by decide)

theorem ValidationRules.keeps : Schema.validation.Keeps codec :=
  membersKeep_start
    |>.briefList keeps_text rfl
    |>.briefList FieldRule.keeps rfl
    |>.briefList CustomRule.keeps rfl
    |>.keeps (fun _ => rfl) (fun _ => rfl) (by decide) (by decide) (by decide)

theorem ErrorResponse.keeps : Schema.preflightError.Keeps codec :=
  membersKeep_start
    |>.optional keeps_word16 rfl
    |>.written keeps_text rfl
    |>.keeps (fun _ => rfl) (fun _ => rfl) (by decide) (by decide) (by decide)

theorem PreflightCheck.keeps : Schema.preflightCheck.Keeps codec :=
  membersKeep_start
    |>.written keeps_text.list rfl
    |>.optional ErrorResponse.keeps rfl
    |>.keeps (fun _ => rfl) (fun _ => rfl) (by decide) (by decide) (by decide)

theorem OnError.keeps : Schema.onError.Keeps codec :=
  membersKeep_start
    |>.written keeps_text rfl
    |>.optional keeps_word32 rfl
    |>.optional keeps_text rfl
    |>.optional keeps_any rfl
    |>.keeps (fun _ => rfl) (fun _ => rfl) (by decide) (by decide) (by decide)

/-! ## Runs -/

theorem RunParts.keeps :
    RecordKeeps Schema.run.properties record (keys.map fun key => (key, key)) :=
  membersKeep_start
    |>.optional Chat.keeps rfl
    |>.optional HttpClient.keeps rfl
    |>.optional Sql.keeps rfl
    |>.optional Script.keeps rfl
    |>.optional Exec.keeps rfl
    |>.optional Speech.keeps rfl
    |>.optional ApiResponse.keeps rfl
    |>.recordKeeps (fun _ => rfl) (fun _ => rfl) (by decide)

theorem RunOptions.keeps :
    RecordKeeps Schema.run.properties record (keys.map fun key => (key, key)) :=
  membersKeep_start
    |>.briefList keeps_text rfl
    |>.briefList keeps_text rfl
    |>.briefList keeps_text rfl
    |>.briefList keeps_text rfl
    |>.briefList keeps_text rfl
    |>.optional PreflightCheck.keeps rfl
    |>.optional ValidationRules.keeps rfl
    |>.briefList keeps_text rfl
    |>.briefList keeps_text rfl
    |>.briefList keeps_text rfl
    |>.optional OnError.keeps rfl
    |>.recordKeeps (fun _ => rfl) (fun _ => rfl) (by decide)

/-- Every property of a run belongs to its blocks or to its options. -/
theorem Run.mem_keys_of_mem_properties : ∀ p ∈ Schema.run.properties,
    writtenName p.1 = p.1 ∧ (p.1 ∈ RunParts.keys ∨ p.1 ∈ RunOptions.keys) := by
  decide

theorem Run.keeps : Schema.run.Keeps codec := by
  rintro site j run ⟨members, rfl, hallows, -⟩ hread
  obtain ⟨parts, options, hparts, hoptions, hrun⟩ := read_obj_eq_ok_iff.1 hread
  obtain ⟨rfl, rfl⟩ := parts_of_ofParts hrun
  refine keptBehind_record fun p hp v hv habsent => ?_
  obtain ⟨hname, hkey⟩ := mem_keys_of_mem_properties p hp
  have hlookup : Schema.run.properties.lookup p.1 = some p.2 :=
    Members.lookup_eq_some_of_mem (by decide) hp
  rw [hname, get?_writeMembers]
  rcases hkey with hkey | hkey
  · have hmem := List.mem_map_of_mem (f := fun key => (key, key)) hkey
    obtain ⟨w, hw, hkept⟩ := RunParts.keeps.kept hallows hparts hmem hlookup hv habsent
    exact ⟨w, by rw [hw, Option.some_or], hkept⟩
  · have hmem := List.mem_map_of_mem (f := fun key => (key, key)) hkey
    obtain ⟨w, hw, hkept⟩ := RunOptions.keeps.kept hallows hoptions hmem hlookup hv habsent
    have hnone : (RunParts.record.writeMembers run.parts).lookup p.1 = none := by
      refine Members.lookup_eq_none_iff_not_mem.2 fun hpart => ?_
      have hdisjoint := List.disjoint_of_nodup_append nodup_keys
      exact hdisjoint ((RunParts.restores.keys run.parts).subset hpart) hkey
    exact ⟨w, by rw [hnone, hw, Option.none_or], hkept⟩

/-! ## Resources -/

theorem ResourceMetadata.keeps : Schema.resourceMetadata.Keeps codec :=
  membersKeep_start
    |>.written keeps_text rfl
    |>.written keeps_text rfl
    |>.briefText rfl
    |>.briefText rfl
    |>.written keeps_text.list rfl
    |>.keeps (fun _ => rfl) (fun _ => rfl) (by decide) (by decide) (by decide)

theorem Resource.keeps : Schema.resource.Keeps codec :=
  membersKeep_start
    |>.briefText rfl
    |>.briefText rfl
    |>.written ResourceMetadata.keeps rfl
    |>.briefList keeps_text rfl
    |>.written Run.keeps rfl
    |>.keeps (fun _ => rfl) (fun _ => rfl) (by decide) (by decide) (by decide)

/-! ## Settings -/

theorem Route.keeps : Schema.route.Keeps codec :=
  membersKeep_start
    |>.written keeps_text rfl
    |>.written keeps_text.list rfl
    |>.keeps (fun _ => rfl) (fun _ => rfl) (by decide) (by decide) (by decide)

theorem Cors.keeps : Schema.cors.Keeps codec :=
  membersKeep_start
    |>.written keeps_flag rfl
    |>.written keeps_text.list rfl
    |>.written keeps_text.list rfl
    |>.written keeps_text.list rfl
    |>.written keeps_flag rfl
    |>.keeps (fun _ => rfl) (fun _ => rfl) (by decide) (by decide) (by decide)

theorem ApiServer.keeps : Schema.apiServer.Keeps codec :=
  membersKeep_start
    |>.written keeps_text rfl
    |>.written keeps_word32 rfl
    |>.briefList keeps_text rfl
    |>.written Route.keeps.list rfl
    |>.optional Cors.keeps rfl
    |>.keeps (fun _ => rfl) (fun _ => rfl) (by decide) (by decide) (by decide)

theorem WebRoute.keeps : Schema.webRoute.Keeps codec :=
  membersKeep_start
    |>.written keeps_text rfl
    |>.written keeps_text rfl
    |>.optional keeps_text rfl
    |>.optional keeps_word32 rfl
    |>.optional keeps_text rfl
    |>.keeps (fun _ => rfl) (fun _ => rfl) (by decide) (by decide) (by decide)

theorem WebServer.keeps : Schema.webServer.Keeps codec :=
  membersKeep_start
    |>.written keeps_text rfl
    |>.written keeps_word32 rfl
    |>.written WebRoute.keeps.list rfl
    |>.keeps (fun _ => rfl) (fun _ => rfl) (by decide) (by decide) (by decide)

theorem OnlineSpeech.keeps : Schema.onlineSpeech.Keeps codec :=
  membersKeep_start
    |>.written keeps_text rfl
    |>.optional keeps_text rfl
    |>.optional keeps_text rfl
    |>.keeps (fun _ => rfl) (fun _ => rfl) (by decide) (by decide) (by decide)

theorem OfflineSpeech.keeps : Schema.offlineSpeech.Keeps codec :=
  membersKeep_start
    |>.written keeps_text rfl
    |>.optional keeps_text rfl
    |>.keeps (fun _ => rfl) (fun _ => rfl) (by decide) (by decide) (by decide)

theorem Telephony.keeps : Schema.telephony.Keeps codec :=
  membersKeep_start
    |>.written keeps_text rfl
    |>.optional keeps_text rfl
    |>.optional keeps_text rfl
    |>.keeps (fun _ => rfl) (fun _ => rfl) (by decide) (by decide) (by decide)

theorem Transcriber.keeps : Schema.transcriber.Keeps codec :=
  membersKeep_start
    |>.written keeps_text rfl
    |>.optional keeps_text rfl
    |>.optional keeps_text rfl
    |>.optional OnlineSpeech.keeps rfl
    |>.optional OfflineSpeech.keeps rfl
    |>.keeps (fun _ => rfl) (fun _ => rfl) (by decide) (by decide) (by decide)

theorem Activation.keeps : Schema.activation.Keeps codec :=
  membersKeep_start
    |>.written keeps_text rfl
    |>.written keeps_text rfl
    |>.written keeps_real rfl
    |>.optional keeps_word32 rfl
    |>.optional OnlineSpeech.keeps rfl
    |>.optional OfflineSpeech.keeps rfl
    |>.keeps (fun _ => rfl) (fun _ => rfl) (by decide) (by decide) (by decide)

theorem InputSettings.keeps : Schema.input.Keeps codec :=
  membersKeep_start
    |>.written keeps_text.list rfl
    |>.optional Telephony.keeps rfl
    |>.optional Transcriber.keeps rfl
    |>.optional Activation.keeps rfl
    |>.keeps (fun _ => rfl) (fun _ => rfl) (by decide) (by decide) (by decide)

theorem Pool.keeps : Schema.pool.Keeps codec :=
  membersKeep_start
    |>.optional keeps_word32 rfl
    |>.optional keeps_word32 rfl
    |>.optional keeps_text rfl
    |>.optional keeps_text rfl
    |>.keeps (fun _ => rfl) (fun _ => rfl) (by decide) (by decide) (by decide)

theorem SqlConnection.keeps : Schema.sqlConnection.Keeps codec :=
  membersKeep_start
    |>.written keeps_text rfl
    |>.optional Pool.keeps rfl
    |>.keeps (fun _ => rfl) (fun _ => rfl) (by decide) (by decide) (by decide)

theorem AgentSettings.keeps : Schema.agentSettings.Keeps codec :=
  membersKeep_start
    |>.optional keeps_text rfl
    |>.optional keeps_text rfl
    |>.briefList keeps_text rfl
    |>.optional keeps_text rfl
    |>.optional keeps_text rfl
    |>.briefList keeps_text rfl
    |>.briefTable keeps_text rfl
    |>.keeps (fun _ => rfl) (fun _ => rfl) (by decide) (by decide) (by decide)

theorem Settings.keeps : Schema.settings.Keeps codec :=
  membersKeep_start
    |>.written keeps_flag rfl
    |>.written keeps_flag rfl
    |>.optional keeps_text rfl
    |>.optional keeps_word32 rfl
    |>.optional ApiServer.keeps rfl
    |>.optional WebServer.keeps rfl
    |>.optional InputSettings.keeps rfl
    |>.briefTable SqlConnection.keeps rfl
    |>.optional keeps_word32 rfl
    |>.optional keeps_text rfl
    |>.optional AgentSettings.keeps rfl
    |>.keeps (fun _ => rfl) (fun _ => rfl) (by decide) (by decide) (by decide)

/-! ## Workflows -/

theorem WorkflowMetadata.keeps : Schema.workflowMetadata.Keeps codec :=
  membersKeep_start
    |>.written keeps_text rfl
    |>.optional keeps_text rfl
    |>.written keeps_text rfl
    |>.written keeps_text rfl
    |>.briefList keeps_text rfl
    |>.keeps (fun _ => rfl) (fun _ => rfl) (by decide) (by decide) (by decide)

theorem Workflow.keeps : DocumentKind.workflow.wholeSchema.Keeps codec :=
  membersKeep_start
    |>.written keeps_text rfl
    |>.written keeps_text rfl
    |>.written WorkflowMetadata.keeps rfl
    |>.written Settings.keeps rfl
    |>.written Resource.keeps.list rfl
    |>.keeps (fun _ => rfl) (fun _ => rfl) (by decide) (by decide) (by decide)

namespace Workflow

/-- The steps into the parameters of a tool, from the workflow. -/
def parameterSteps : List Step :=
  [.member "resources", .item, .member "run", .member "chat", .member "tools", .item,
    .member "parameters", .entry]

theorem eq_parameterSteps_of_endInParameters :
    ∀ steps ∈ DocumentKind.workflow.wholeSchema.parts.map Prod.fst, Step.EndInParameters steps →
      steps = parameterSteps := by
  decide +kernel

variable {site : Wire.Site} {doc : Json} {w : Workflow}

/-- Whatever stands in an accepted workflow document at a place that the schemas name, in the
workflow or in one of its resources, stands at the written place in what is written for the workflow
read from it, unless it is absent or belongs to the parameters of a tool. -/
theorem written_of_part (hcheck : DocumentKind.workflow.check doc = .ok ())
    (hread : codec.read site doc = .ok w) {steps : List Step} {s : Schema}
    (hpart : (steps, s) ∈ DocumentKind.workflow.wholeSchema.parts)
    (hsteps : steps ≠ parameterSteps) {path : List Segment} {v : Json}
    (hpath : Follows steps path) (hv : doc.at? path = some v) (habsent : v.isAbsent = false) :
    ∃ v', (codec.write w).at? (writtenPath steps path) = some v' ∧ s.Stands v v' := by
  have hkept : DocumentKind.workflow.wholeSchema.KeptBehind [] doc (codec.write w) :=
    keeps (DocumentKind.check_eq_ok_iff_allows.1 hcheck) hread
  have hend : ¬ Step.EndInParameters ([] ++ steps) := fun hend =>
    hsteps (eq_parameterSteps_of_endInParameters steps (List.mem_map.2 ⟨_, hpart, rfl⟩) hend)
  exact hkept steps s hpart hend path v hpath hv habsent

/-! ## Bounds of numbers -/

/-- A workflow with one rule, which sets one bound. -/
def withBound (name : String) (n : Int) : Json :=
  .obj [("apiVersion", .str "kdeps.io/v1"), ("kind", .str "Workflow"),
    ("metadata", .obj [("name", .str "demo"), ("targetActionId", .str "ask")]),
    ("resources", .arr [.obj [("metadata", .obj [("actionId", .str "ask"), ("name", .str "Ask")]),
      ("run", .obj [("chat", .obj [("model", .str "m"), ("prompt", .str "p")]),
        ("validation", .obj [("rules", .arr
          [.obj [("field", .str "age"), (name, .int n)]])])])]]),
    ("settings", .obj [])]

/-- The path to the bound. -/
def boundPath (name : String) : List Segment :=
  [.key "resources", .index 0, .key "run", .key "validation", .key "rules", .index 0, .key name]

/-- A bound under its second name is written under the first, as a double. -/
theorem written_minimum : DocumentKind.workflow.check (withBound "minimum" 18) = .ok () ∧
    ∃ w, codec.read .inPlace (withBound "minimum" 18) = .ok w ∧
      ∃ v, (codec.write w).at? (boundPath "min") = some v ∧
        Schema.anyNumber.Stands (.int 18) v := by
  have hcheck : DocumentKind.workflow.check (withBound "minimum" 18) = .ok () := by
    have hnone : (DocumentKind.workflow.diagnoseAll (withBound "minimum" 18)).isEmpty = true := by
      decide +kernel
    exact DocumentKind.check_eq_ok_iff.2 (List.isEmpty_iff.1 hnone)
  have hpart : ([.member "resources", .item, .member "run", .member "validation", .member "rules",
      .item, .member "minimum"], Schema.anyNumber) ∈ DocumentKind.workflow.wholeSchema.parts :=
    mem_parts_member rfl <| mem_parts_item <| mem_parts_member rfl <| mem_parts_member rfl <|
      mem_parts_member rfl <| mem_parts_item <| mem_parts_member rfl <| Schema.self_mem_parts _
  have hpath : Follows [.member "resources", .item, .member "run", .member "validation",
      .member "rules", .item, .member "minimum"] (boundPath "minimum") :=
    .cons rfl <| .cons trivial <| .cons rfl <| .cons rfl <| .cons rfl <| .cons trivial <|
      .cons rfl .nil
  have hread : ∃ w, codec.read .inPlace (withBound "minimum" 18) = .ok w := ⟨_, rfl⟩
  obtain ⟨w, hw⟩ := hread
  exact ⟨hcheck, w, hw, written_of_part hcheck hw hpart (by decide) hpath rfl rfl⟩

/-- An integer that no double equals is accepted as a bound, and written as another number. -/
theorem written_large_bound :
    DocumentKind.workflow.check (withBound "min" 9007199254740993) = .ok () ∧
      (withBound "min" 9007199254740993).at? (boundPath "min") = some (.int 9007199254740993) ∧
      ∃ w x, codec.read .inPlace (withBound "min" 9007199254740993) = .ok w ∧
        (codec.write w).at? (boundPath "min") = some (.num (.real x)) ∧
          (Number.real x).compareInt 9007199254740993 = .lt := by
  have hcheck : DocumentKind.workflow.check (withBound "min" 9007199254740993) = .ok () := by
    have hnone :
        (DocumentKind.workflow.diagnoseAll (withBound "min" 9007199254740993)).isEmpty = true := by
      decide +kernel
    exact DocumentKind.check_eq_ok_iff.2 (List.isEmpty_iff.1 hnone)
  exact ⟨hcheck, rfl, _, .ofInt 9007199254740993, rfl, rfl, by decide +kernel⟩

end Workflow
end FlowCheck
