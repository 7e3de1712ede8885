import FlowCheck.Proofs.Rules.Workflow
import FlowCheck.Proofs.Schema.Ensures

/-!
# Names in input settings

The schema of the input settings knows the names of sources, modes, outputs, providers and engines,
and the range of a sensitivity.  In settings that are read from what it allows the rules find no
problem with any of these (`InputSettings.problem?_not_settled`).

A member that is left out becomes the empty text, which is none of the options.  The rules look
for the empty text first and report it as missing, so a name is either empty or known
(`Options.EmptyOrKnown`).
-/

namespace FlowCheck

open Rules (require needed)
open Wire (Codec)
open Schema (ensures_record membersEnsure_start)

/-- What can be wrong with input settings and breaks their schema as well. -/
def InputProblem.IsSettled : InputProblem → Prop
  | unknownSource _ | unknownTelephonyType _ | unknownMode .. | unknownOutput _
  | sensitivityOutOfRange | unknownProvider .. | unknownEngine .. => True
  | _ => False

namespace Options

/-- A name with options, which is empty when it was left out. -/
def EmptyOrKnown (options : Options) (name : String) : Prop :=
  name = "" ∨ options.allows name = true

theorem emptyOrKnown_empty {options : Options} : options.EmptyOrKnown "" := .inl rfl

end Options

namespace Rules

/-- A rule for a name that has options finds it missing or nothing. -/
theorem eq_of_name_problem {π : Type} {options : Options} {name : String} {missing unknown p : π}
    (h : options.EmptyOrKnown name)
    (hp : (require (!name.isEmpty) missing <|> require (options.allows name) unknown) = some p) :
    p = missing := by
  rw [Option.orElse_eq_some] at hp
  rcases hp with hmissing | ⟨hnone, hunknown⟩
  · exact (require_eq_some_iff.1 hmissing).2.symm
  · have hname : name ≠ "" := by simpa using hnone
    rw [h.resolve_left hname] at hunknown
    contradiction

end Rules

open Rules (require_eq_some_iff needed_eq_some_iff eq_of_name_problem)

namespace Schema

theorem ensures_known {options : List String} (hne : options ≠ []) :
    (oneOf options).Ensures .text fun t => (Options.ofTexts options).allows t = true :=
  fun _ _ _ hallows hread => Options.allows_ofTexts_iff.2 (ensures_oneOf hne hallows hread)

theorem ensures_emptyOrKnown {options : List String} (hne : options ≠ []) :
    (oneOf options).Ensures .text (Options.ofTexts options).EmptyOrKnown :=
  fun _ _ _ hallows hread => .inr (ensures_known hne hallows hread)

end Schema

open Schema (ensures_known ensures_emptyOrKnown)

/-! ## Speech -/

theorem OnlineSpeech.ensures : Schema.onlineSpeech.Ensures codec fun o =>
    Options.onlineProviders.EmptyOrKnown o.provider :=
  ensures_record <| .skip <| .skip <|
    .member (ensures_emptyOrKnown (by simp)) Options.emptyOrKnown_empty rfl <|
    membersEnsure_start fun _ hprovider _ _ => hprovider

theorem OfflineSpeech.ensures : Schema.offlineSpeech.Ensures codec fun o =>
    Options.offlineEngines.EmptyOrKnown o.engine :=
  ensures_record <| .skip <|
    .member (ensures_emptyOrKnown (by simp)) Options.emptyOrKnown_empty rfl <|
    membersEnsure_start fun _ hengine _ => hengine

/-- The engine of a mode is missing, or not named, but never unknown. -/
theorem speechProblem?_not_settled {user : SpeechUser} {mode : String}
    {online : Option OnlineSpeech} {offline : Option OfflineSpeech} {p : InputProblem}
    (honline : ∀ o, online = some o → Options.onlineProviders.EmptyOrKnown o.provider)
    (hoffline : ∀ o, offline = some o → Options.offlineEngines.EmptyOrKnown o.engine)
    (hp : speechProblem? user mode online offline = some p) : ¬ p.IsSettled := by
  unfold speechProblem? at hp
  split at hp
  · rcases needed_eq_some_iff.1 hp with ⟨-, rfl⟩ | ⟨o, ho, hrule⟩
    · exact id
    · rw [eq_of_name_problem (honline o ho) hrule]
      exact id
  split at hp
  · rcases needed_eq_some_iff.1 hp with ⟨-, rfl⟩ | ⟨o, ho, hrule⟩
    · exact id
    · rw [eq_of_name_problem (hoffline o ho) hrule]
      exact id
  · contradiction

theorem modeProblem?_not_settled {user : SpeechUser} {mode : String} {p : InputProblem}
    (hmode : Options.speechModes.EmptyOrKnown mode) (hp : modeProblem? user mode = some p) :
    ¬ p.IsSettled := by
  rw [eq_of_name_problem hmode hp]
  exact id

namespace Transcriber

/-- The names that a transcriber gives are known. -/
structure IsKnown (t : Transcriber) : Prop where
  mode : Options.speechModes.EmptyOrKnown t.mode
  output : ∀ o, t.output = some o → Options.transcriberOutputs.allows o = true
  online : ∀ o, t.online = some o → Options.onlineProviders.EmptyOrKnown o.provider
  offline : ∀ o, t.offline = some o → Options.offlineEngines.EmptyOrKnown o.engine

theorem ensures : Schema.transcriber.Ensures codec IsKnown :=
  ensures_record <|
    .optional OfflineSpeech.ensures nofun rfl <|
    .optional OnlineSpeech.ensures nofun rfl <|
    .skip <|
    .optional (ensures_known (by simp)) nofun rfl <|
    .member (ensures_emptyOrKnown (by simp)) Options.emptyOrKnown_empty rfl <|
    membersEnsure_start fun _ hmode _ houtput _ _ honline _ hoffline =>
      ⟨hmode, houtput, honline, hoffline⟩

theorem problem?_not_settled {t : Transcriber} (h : t.IsKnown) {p : InputProblem}
    (hp : t.problem? = some p) : ¬ p.IsSettled := by
  rw [problem?, Option.orElse_eq_some, Option.orElse_eq_some] at hp
  rcases hp with hmode | ⟨-, houtput | ⟨-, hspeech⟩⟩
  · exact modeProblem?_not_settled h.mode hmode
  · obtain ⟨o, ho, hrequire⟩ := Option.bind_eq_some_iff.1 houtput
    simp [require_eq_some_iff, h.output o ho] at hrequire
  · exact speechProblem?_not_settled h.online h.offline hspeech

end Transcriber

namespace Activation

/-- A number from zero to one is a sensitivity in range. -/
theorem ensures_isInRange :
    (Schema.numberWithin 0 1).Ensures .real fun x => isInRange x = true := by
  rintro site j x ⟨n, rfl, hrange⟩ hread
  obtain ⟨m, hm, rfl⟩ := Codec.read_real_eq_ok_iff.1 hread
  obtain rfl : n = m := by simpa using hm
  have hlow := hrange.low 0 rfl
  have hhigh := hrange.high 1 rfl
  cases n with
  | int n =>
    simp only [Number.compareInt, ne_eq, Int.compare_eq_lt, Int.compare_eq_gt] at hlow hhigh
    obtain rfl | rfl : n = 0 ∨ n = 1 := by omega
    · decide +kernel
    · decide +kernel
  | real x =>
    simp only [Number.compareInt, ne_eq, Int.compare_eq_lt, Int.compare_eq_gt, Int.zero_mul,
      Int.one_mul, Int.not_lt] at hlow hhigh
    simp only [isInRange, Number.toBinary64, hlow, hhigh, decide_true, Bool.and_self]

/-- The names that an activation gives are known, and its sensitivity is in range. -/
structure IsKnown (a : Activation) : Prop where
  mode : Options.speechModes.EmptyOrKnown a.mode
  sensitivity : isInRange a.sensitivity = true
  online : ∀ o, a.online = some o → Options.onlineProviders.EmptyOrKnown o.provider
  offline : ∀ o, a.offline = some o → Options.offlineEngines.EmptyOrKnown o.engine

theorem ensures : Schema.activation.Ensures codec IsKnown :=
  ensures_record <|
    .optional OfflineSpeech.ensures nofun rfl <|
    .optional OnlineSpeech.ensures nofun rfl <|
    .skip <|
    .member ensures_isInRange (by decide +kernel) rfl <|
    .member (ensures_emptyOrKnown (by simp)) Options.emptyOrKnown_empty rfl <|
    .skip <|
    membersEnsure_start fun _ _ hmode _ hsensitivity _ _ honline _ hoffline =>
      ⟨hmode, hsensitivity, honline, hoffline⟩

theorem problem?_not_settled {a : Activation} (h : a.IsKnown) {p : InputProblem}
    (hp : a.problem? = some p) : ¬ p.IsSettled := by
  rw [problem?, Option.orElse_eq_some, Option.orElse_eq_some, Option.orElse_eq_some] at hp
  rcases hp with hphrase | ⟨-, hmode | ⟨-, hsensitivity | ⟨-, hspeech⟩⟩⟩
  · obtain ⟨-, rfl⟩ := require_eq_some_iff.1 hphrase
    exact id
  · exact modeProblem?_not_settled h.mode hmode
  · rw [h.sensitivity] at hsensitivity
    contradiction
  · exact speechProblem?_not_settled h.online h.offline hspeech

end Activation

theorem Telephony.ensures : Schema.telephony.Ensures codec fun t =>
    Options.telephonyTypes.EmptyOrKnown t.type :=
  ensures_record <| .skip <| .skip <|
    .member (ensures_emptyOrKnown (by simp)) Options.emptyOrKnown_empty rfl <|
    membersEnsure_start fun _ htype _ _ => htype

/-! ## Input settings -/

namespace InputSettings

/-- The names that input settings give are known. -/
structure IsKnown (i : InputSettings) : Prop where
  sources : ∀ s ∈ i.sources, Options.inputSources.allows s = true
  telephony : ∀ t, i.telephony = some t → Options.telephonyTypes.EmptyOrKnown t.type
  transcriber : ∀ t, i.transcriber = some t → t.IsKnown
  activation : ∀ a, i.activation = some a → a.IsKnown

theorem ensures : Schema.input.Ensures codec IsKnown :=
  ensures_record <|
    .optional Activation.ensures nofun rfl <|
    .optional Transcriber.ensures nofun rfl <|
    .optional Telephony.ensures nofun rfl <|
    .list (ensures_known (by simp)) rfl <|
    membersEnsure_start fun _ hsources _ htelephony _ htranscriber _ hactivation =>
      ⟨hsources, htelephony, htranscriber, hactivation⟩

/-- Of known sources, one can only be given twice. -/
theorem sourceProblem?_not_settled {before sources : List String} {p : InputProblem}
    (h : ∀ s ∈ sources, Options.inputSources.allows s = true)
    (hp : sourceProblem? before sources = some p) : ¬ p.IsSettled := by
  induction sources generalizing before with
  | nil => contradiction
  | cons source rest ih =>
    rw [sourceProblem?, Option.orElse_eq_some, Option.orElse_eq_some] at hp
    rcases hp with hunknown | ⟨-, hduplicate | ⟨-, hrest⟩⟩
    · rw [h source List.mem_cons_self] at hunknown
      contradiction
    · obtain ⟨-, rfl⟩ := require_eq_some_iff.1 hduplicate
      exact id
    · exact ih (fun s hs => h s (List.mem_cons_of_mem _ hs)) hrest

theorem speechBlockProblem?_not_settled {α : Type} {i : InputSettings} {user : SpeechUser}
    {block : Option α} {rule : α → Option InputProblem} {p : InputProblem}
    (h : ∀ a, block = some a → rule a = some p → ¬ p.IsSettled)
    (hp : i.speechBlockProblem? user block rule = some p) : ¬ p.IsSettled := by
  obtain ⟨a, ha, hrule⟩ := Option.bind_eq_some_iff.1 hp
  rcases (Option.orElse_eq_some _ _ _).1 hrule with honly | ⟨-, hrule⟩
  · obtain ⟨-, rfl⟩ := require_eq_some_iff.1 honly
    exact id
  · exact h a ha hrule

theorem problem?_not_settled {i : InputSettings} (h : i.IsKnown) {p : InputProblem}
    (hp : i.problem? = some p) : ¬ p.IsSettled := by
  rw [problem?, Option.orElse_eq_some, Option.orElse_eq_some, Option.orElse_eq_some,
    Option.orElse_eq_some] at hp
  rcases hp with hnone | ⟨-, hsources | ⟨-, htelephony | ⟨-, htranscriber | ⟨-, hactivation⟩⟩⟩⟩
  · obtain ⟨-, rfl⟩ := require_eq_some_iff.1 hnone
    exact id
  · exact sourceProblem?_not_settled h.sources hsources
  · split at htelephony
    · rcases needed_eq_some_iff.1 htelephony with ⟨-, rfl⟩ | ⟨t, ht, hrule⟩
      · exact id
      · rw [eq_of_name_problem (h.telephony t ht) hrule]
        exact id
    · contradiction
  · exact speechBlockProblem?_not_settled
      (fun t ht => Transcriber.problem?_not_settled (h.transcriber t ht)) htranscriber
  · exact speechBlockProblem?_not_settled
      (fun a ha => Activation.problem?_not_settled (h.activation a ha)) hactivation

end InputSettings

end FlowCheck
