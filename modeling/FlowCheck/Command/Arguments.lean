import FlowCheck.Text.Pieces

/-!
# Command line arguments

The arguments name a command, and what it works on.  Options may stand anywhere behind the command:
short ones may be run together, and a value may be written behind its option, after an equals sign,
directly behind a short option, or as the next argument, which then must not begin with a dash.
Behind two dashes nothing is an option.  An option is given once at most.
-/

namespace FlowCheck

/-- What is to be done. -/
inductive Command where
  | version
  | validate (withSchema : Bool) (files : List String)
  | info (file : String)
  | rules (resource input : String)
deriving DecidableEq

namespace Command

/-- The options. -/
inductive Switch where
  | verbose
  | noSchema
  | input
deriving DecidableEq

/-- The options that a command has, by their long and short names. -/
structure Switches where
  long : List (String × Switch)
  short : List (Char × Switch)

/-- Every command can be verbose. -/
def Switches.common : Switches := ⟨[("verbose", .verbose)], [('v', .verbose)]⟩

def Switches.validate : Switches :=
  { common with long := ("no-schema", .noSchema) :: common.long }

def Switches.rules : Switches :=
  ⟨("input", .input) :: common.long, ('i', .input) :: common.short⟩

/-- The arguments of a command, sorted. -/
structure Given where
  operands : List String := []
  switches : List Switch := []
  input : Option String := none

namespace Given

/-- One more operand, which must not be empty. -/
def addOperand (g : Given) (operand : String) : Option Given :=
  if operand.isEmpty then none else some { g with operands := g.operands ++ [operand] }

/-- One more option without a value. -/
def addSwitch (g : Given) (s : Switch) : Option Given :=
  if g.switches.contains s || s == .input then none
  else some { g with switches := s :: g.switches }

/-- The value of the only option that has one. -/
def addInput (g : Given) (value : String) : Option Given :=
  if g.input.isSome || value.isEmpty then none else some { g with input := some value }

end Given

/-- An argument that can be read as a value: no dash in front, or nothing but a dash. -/
def isValue (argument : String) : Bool :=
  argument == "-" || argument.toList.head? != some '-'

/-- What short options run together come to. -/
inductive Cluster where
  | done (g : Given)
  /-- The value of the last option is the next argument. -/
  | needsValue (g : Given)

/-- Short options behind their dash. -/
def readCluster (s : Switches) : Given → List Char → Option Cluster
  | g, [] => some (.done g)
  | g, c :: cs => do
    match ← s.short.lookup c with
    | .input =>
      match cs with
      | [] => pure (.needsValue g)
      | '=' :: value => pure (.done (← g.addInput (String.ofList value)))
      | value => pure (.done (← g.addInput (String.ofList value)))
    | switch => readCluster s (← g.addSwitch switch) cs

/-- A long option behind its dashes, with what stands behind an equals sign. -/
def readLong (s : Switches) (g : Given) (text : List Char) : Option Cluster := do
  let name := text.takeWhile (· != '=')
  match ← s.long.lookup (String.ofList name), text.drop name.length with
  | .input, [] => pure (.needsValue g)
  | .input, _ :: value => pure (.done (← g.addInput (String.ofList value)))
  | switch, [] => pure (.done (← g.addSwitch switch))
  | _, _ => none

/-- Sorts the arguments behind a command. -/
def sortArguments (s : Switches) : Given → List String → Option Given
  | g, [] => some g
  | g, a :: as => do
    match a.toList with
    | ['-', '-'] => as.foldlM Given.addOperand g
    | '-' :: c :: cs =>
      let cluster ← if c = '-' then readLong s g cs else readCluster s g (c :: cs)
      match cluster, as with
      | .done g, as => sortArguments s g as
      | .needsValue g, value :: as =>
        if isValue value then sortArguments s (← g.addInput value) as else none
      | .needsValue _, [] => none
    | _ => sortArguments s (← g.addOperand a) as

/-- The command with the given name and arguments. -/
def ofName (name : String) (arguments : List String) : Option Command := do
  match name with
  | "validate" =>
    let g ← sortArguments .validate {} arguments
    if g.operands.isEmpty then none
    else pure (.validate (!g.switches.contains .noSchema) g.operands)
  | "info" =>
    match (← sortArguments .common {} arguments).operands with
    | [file] => pure (.info file)
    | _ => none
  | "rules" =>
    let g ← sortArguments .rules {} arguments
    match g.operands, g.input with
    | [resource], some input => pure (.rules resource input)
    | _, _ => none
  | _ => none

/-- What short options in front of the command come to: the version is asked for, or the command
may be verbose. -/
inductive Front where
  | version
  | verbose

/-- Short options in front of the command, behind their dash. -/
def readFront : (isVerbose : Bool) → List Char → Option Front
  | _, [] => some .verbose
  | isVerbose, c :: cs =>
    if c = 'V' then some .version
    else if c = 'v' && !isVerbose then readFront true cs
    else none

/-- The command that the arguments stand for; none if they stand for no command. -/
def ofArguments : (isVerbose : Bool) → List String → Option Command
  | _, [] => none
  | isVerbose, a :: as => do
    let front : Option Front ←
      match a.toList with
      | ['-', '-'] | ['-'] => none
      | '-' :: '-' :: cs =>
        if cs = "version".toList then pure (some .version)
        else if cs = "verbose".toList && !isVerbose then pure (some .verbose)
        else none
      | '-' :: cs => (readFront isVerbose cs).map some
      | _ => pure none
    match front with
    | some .version => pure .version
    | some .verbose => ofArguments true as
    | none => ofName a as

end Command
end FlowCheck
