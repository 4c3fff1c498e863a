import LayeredConfig.Text.Cut

/-!
# Reading arguments

Arguments are read against tables of options, one level for the program and one
for its subcommand. An option with a value takes it from behind an equals sign,
from the rest of its cluster, or from the next argument that is no option. What
is wrong with the arguments is a kind of usage error; asking for help counts
as one too.
-/

namespace LayeredConfig.Usage

/-- What keeps arguments from being read. -/
inductive Fault where
  /-- An argument that nothing is known about. -/
  | unknownArgument
  /-- No subcommand of this name. -/
  | invalidSubcommand
  /-- The subcommand is missing. -/
  | missingSubcommand
  /-- A required option is missing. -/
  | missingRequired
  /-- A value is missing, or empty where it may not be. -/
  | invalidValue
  /-- An option is given twice. -/
  | conflict
  /-- A value for an option that takes none. -/
  | tooManyValues
  /-- Help was asked for. -/
  | help
  /-- The version was asked for. -/
  | version
  /-- There are no arguments at all. -/
  | helpOnNothing
  deriving DecidableEq, Repr

/-- What an option does. -/
inductive Action where
  /-- It counts. -/
  | count
  /-- It is given or not. -/
  | flag
  /-- It takes one value. -/
  | set (mayBeEmpty : Bool)
  /-- It takes a value each time. -/
  | append
  /-- It asks for help. -/
  | help
  /-- It asks for the version. -/
  | version
  deriving DecidableEq, Repr

/-- The option takes a value. -/
def Action.takesValue : Action → Bool
  | .set _ => true
  | .append => true
  | _ => false

/-- An option. -/
structure Switch where
  /-- The letter behind one hyphen. -/
  letter : Char
  /-- The name behind two hyphens; it also identifies the option. -/
  name : String
  /-- What it does. -/
  action : Action
  deriving DecidableEq, Repr

/-- What may stand at a level. -/
structure Level where
  /-- The options. -/
  options : List Switch
  /-- The names of the subcommands; none when there may be no subcommand. -/
  subcommands : List String

/-- What has been given at a level. -/
structure Given where
  /-- The options with their values, in order. -/
  values : List (String × String)
  /-- The last option, while it has not been entered, with its value if it has one already. -/
  pending : Option (Switch × Option String)
  /-- Two hyphens have been passed: only positional arguments follow. -/
  trailing : Bool

namespace Given

/-- Nothing. -/
def none : Given := ⟨[], .none, false⟩

/-- An option is given. -/
def has (g : Given) (name : String) : Bool := g.values.any fun entry => entry.1 == name

/-- The values of an option. -/
def all (g : Given) (name : String) : List String :=
  g.values.filterMap fun entry => if entry.1 = name then some entry.2 else Option.none

/-- The value of an option. -/
def last? (g : Given) (name : String) : Option String := (g.all name).getLast?

/-- Enter an option. -/
def enter (g : Given) (o : Switch) (value : Option String) : Except Fault Given :=
  let entered : Given := { g with values := g.values ++ [(o.name, value.getD "")] }
  match o.action, value with
  | .help, _ => .error .help
  | .version, _ => .error .version
  | .count, _ => .ok entered
  | .flag, _ => if g.has o.name then .error .conflict else .ok entered
  | .append, some _ => .ok entered
  | .append, Option.none => .error .invalidValue
  | .set mayBeEmpty, some text =>
    if g.has o.name then .error .conflict
    else if text = "" && !mayBeEmpty then .error .invalidValue
    else .ok entered
  | .set _, Option.none => .error .invalidValue

/-- Enter the last option. -/
def settle (g : Given) : Except Fault Given :=
  match g.pending with
  | Option.none => .ok g
  | some (o, value) => { g with pending := Option.none }.enter o value

/-- An option, with the value that is attached to it. One that still needs a
value waits for it. -/
def meet (g : Given) (o : Switch) (attached : Option String) : Except Fault Given := do
  let g ← g.settle
  if o.action.takesValue && attached.isNone then
    pure { g with pending := some (o, Option.none) }
  else g.enter o attached

/-- The last option waits for its value. -/
def isWaiting (g : Given) : Bool :=
  match g.pending with
  | some (_, Option.none) => true
  | _ => false

end Given

/-- An argument cut at its first equals sign. -/
def cutValue (text : List Char) : List Char × Option String :=
  match Text.cut? ['='] text with
  | some (name, value) => (name, some (String.ofList value))
  | none => (text, none)

/-- Read an option behind two hyphens. -/
def readLong (level : Level) (g : Given) (text : List Char) : Except Fault Given :=
  let (name, value) := cutValue text
  match level.options.find? (fun o => o.name.toList == name) with
  | none => .error .unknownArgument
  | some o =>
    if !o.action.takesValue && value.isSome then .error .tooManyValues else g.meet o value

/-- Read a cluster of options behind one hyphen. What follows an option with a
value is its value, without an equals sign in front. -/
def readCluster (level : Level) : Given → List Char → Except Fault Given
  | g, [] => .ok g
  | g, c :: rest =>
    match level.options.find? (fun o => o.letter == c) with
    | none => .error .unknownArgument
    | some o =>
      if o.action.takesValue then
        match rest with
        | [] => g.meet o none
        | '=' :: value => g.meet o (some (String.ofList value))
        | value => g.meet o (some (String.ofList value))
      else
        match g.meet o none with
        | .error e => .error e
        | .ok g => readCluster level g rest

/-- What is wrong with a positional argument. -/
def positionalFault (level : Level) (trailing : Bool) (text : String) : Fault :=
  if trailing && level.subcommands.contains text then .unknownArgument
  else if level.subcommands.isEmpty then .unknownArgument
  else .invalidSubcommand

/-- What reading a level ends with. -/
structure Ending where
  /-- What has been given. -/
  given : Given
  /-- The subcommand with the arguments behind it. -/
  subcommand : Option (String × List String)

/-- Read the arguments of a level, up to the subcommand. -/
def readLevel (level : Level) : Given → List String → Except Fault Ending
  | g, [] => .ok ⟨g, none⟩
  | g, text :: rest =>
    if g.trailing then .error (positionalFault level true text)
    else if !g.isWaiting && level.subcommands.contains text then .ok ⟨g, some (text, rest)⟩
    else
      match text.toList with
      | ['-', '-'] => readLevel level { g with trailing := true } rest
      | '-' :: '-' :: long =>
        match readLong level g long with
        | .error e => .error e
        | .ok g => readLevel level g rest
      | '-' :: c :: cluster =>
        match readCluster level g (c :: cluster) with
        | .error e => .error e
        | .ok g => readLevel level g rest
      | _ =>
        match g.pending with
        | some (o, none) => readLevel level { g with pending := some (o, some text) } rest
        | _ => .error (positionalFault level false text)

end LayeredConfig.Usage
