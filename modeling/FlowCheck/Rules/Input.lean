import FlowCheck.Model.Input
import FlowCheck.Rules.Basic

/-!
# Rules for input settings

Sources are known and given once.  A telephone source needs a telephone.  A transcriber and an
activation make sense only beside a source other than the API, and each needs the settings of the
engine that its mode names; settings for the other mode are not looked at.
-/

namespace FlowCheck

/-- The blocks that listen to speech. -/
inductive SpeechUser where
  | transcriber
  | activation
deriving DecidableEq

def SpeechUser.name : SpeechUser → String
  | transcriber => "transcriber"
  | activation => "activation"

/-- What can be wrong with input settings. -/
inductive InputProblem where
  | noSources
  | unknownSource (name : String)
  | duplicateSource (name : String)
  | telephonyMissing
  | telephonyTypeMissing
  | unknownTelephonyType (name : String)
  /-- A block for speech beside the API alone. -/
  | apiOnly (user : SpeechUser)
  | phraseMissing
  | modeMissing (user : SpeechUser)
  | unknownMode (user : SpeechUser) (name : String)
  | unknownOutput (name : String)
  | sensitivityOutOfRange
  | onlineMissing (user : SpeechUser)
  | providerMissing (user : SpeechUser)
  | unknownProvider (user : SpeechUser) (name : String)
  | offlineMissing (user : SpeechUser)
  | engineMissing (user : SpeechUser)
  | unknownEngine (user : SpeechUser) (name : String)
deriving DecidableEq

namespace InputProblem

open Rules (unknownName)

def message : InputProblem → String
  | noSources => "input.sources is required"
  | unknownSource name => unknownName "input source" name Options.inputSources
  | duplicateSource name => "duplicate input source: " ++ name
  | telephonyMissing => "input.telephony is required when sources include telephony"
  | telephonyTypeMissing => "telephony.type is required"
  | unknownTelephonyType name => unknownName "telephony type" name Options.telephonyTypes
  | apiOnly user => user.name ++ " is not supported when all sources are api"
  | phraseMissing => "activation.phrase is required"
  | modeMissing user => user.name ++ ".mode is required"
  | unknownMode user name => unknownName (user.name ++ " mode") name Options.speechModes
  | unknownOutput name => unknownName "transcriber output" name Options.transcriberOutputs
  | sensitivityOutOfRange => "activation.sensitivity must be between 0 and 1"
  | onlineMissing user => user.name ++ ".online is required when mode is online"
  | providerMissing user => user.name ++ ".online.provider is required"
  | unknownProvider user name =>
    unknownName (user.name ++ " online provider") name Options.onlineProviders
  | offlineMissing user => user.name ++ ".offline is required when mode is offline"
  | engineMissing user => user.name ++ ".offline.engine is required"
  | unknownEngine user name =>
    unknownName (user.name ++ " offline engine") name Options.offlineEngines

end InputProblem

open Rules (require needed)

/-! ## Speech -/

/-- The settings of the engine that a mode names. -/
def speechProblem? (user : SpeechUser) (mode : String) (online : Option OnlineSpeech)
    (offline : Option OfflineSpeech) : Option InputProblem :=
  if mode = "online" then
    needed online (.onlineMissing user) fun o =>
      require (!o.provider.isEmpty) (.providerMissing user) <|>
        require (Options.onlineProviders.allows o.provider) (.unknownProvider user o.provider)
  else if mode = "offline" then
    needed offline (.offlineMissing user) fun o =>
      require (!o.engine.isEmpty) (.engineMissing user) <|>
        require (Options.offlineEngines.allows o.engine) (.unknownEngine user o.engine)
  else none

/-- A mode is given and known. -/
def modeProblem? (user : SpeechUser) (mode : String) : Option InputProblem :=
  require (!mode.isEmpty) (.modeMissing user) <|>
    require (Options.speechModes.allows mode) (.unknownMode user mode)

namespace Transcriber

def problem? (t : Transcriber) : Option InputProblem :=
  modeProblem? .transcriber t.mode <|>
    (t.output.bind fun output =>
      require (output.isEmpty || Options.transcriberOutputs.allows output)
        (.unknownOutput output)) <|>
    speechProblem? .transcriber t.mode t.online t.offline

end Transcriber

namespace Activation

/-- Zero stands for a sensitivity that is not set, and is in range. -/
def isInRange (sensitivity : Binary64) : Bool :=
  0 ≤ sensitivity.units && sensitivity.units ≤ Binary64.unitsPerOne

def problem? (a : Activation) : Option InputProblem :=
  require (!a.phrase.isEmpty) .phraseMissing <|>
    modeProblem? .activation a.mode <|>
    require (isInRange a.sensitivity) .sensitivityOutOfRange <|>
    speechProblem? .activation a.mode a.online a.offline

end Activation

namespace Telephony

def problem? (t : Telephony) : Option InputProblem :=
  require (!t.type.isEmpty) .telephonyTypeMissing <|>
    require (Options.telephonyTypes.allows t.type) (.unknownTelephonyType t.type)

end Telephony

/-! ## Whole settings -/

namespace InputSettings

/-- The first source that is unknown or was given before. -/
def sourceProblem? (before : List String) : List String → Option InputProblem
  | [] => none
  | source :: rest =>
    require (Options.inputSources.allows source) (.unknownSource source) <|>
      require (!before.contains source) (.duplicateSource source) <|>
      sourceProblem? (source :: before) rest

/-- A block for speech needs a source other than the API. -/
def speechBlockProblem? {α : Type} (input : InputSettings) (user : SpeechUser)
    (block : Option α) (rule : α → Option InputProblem) : Option InputProblem :=
  block.bind fun a => require (!input.isApiOnly) (.apiOnly user) <|> rule a

def problem? (input : InputSettings) : Option InputProblem :=
  require (!input.sources.isEmpty) .noSources <|>
    sourceProblem? [] input.sources <|>
    (if input.hasSource "telephony" then
      needed input.telephony .telephonyMissing Telephony.problem?
    else none) <|>
    input.speechBlockProblem? .transcriber input.transcriber Transcriber.problem? <|>
    input.speechBlockProblem? .activation input.activation Activation.problem?

end InputSettings

end FlowCheck
