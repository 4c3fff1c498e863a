import LayeredConfig.Command.Usage
import LayeredConfig.Configuration.Request
import LayeredConfig.Files.Path

/-!
# The arguments of the program

The subcommands with their options, and the options that may stand in front of
a subcommand or behind it. Behind it they count, where both are given.
-/

namespace LayeredConfig

open Usage

/-- The service and the environment that a command is about. -/
structure TargetArguments where
  /-- The service. -/
  service : String
  /-- The environment. -/
  environment : String
  /-- The tokens of extra variables. -/
  extra : List String
  deriving DecidableEq, Repr

/-- A command. -/
inductive Command where
  /-- List the services. -/
  | listServices
  /-- List the environments. -/
  | listEnvironments
  /-- Show the resolved variables. -/
  | showVariables (target : TargetArguments)
  /-- Populate the templates and print them or write them into a directory. -/
  | template (target : TargetArguments) (ignoreMissing : Bool) (writeTo : Option Path)
  /-- Run the command of the settings in a work directory. -/
  | execute (target : TargetArguments) (ignoreMissing : Bool)
  deriving DecidableEq, Repr

/-- The arguments of the program. -/
structure Arguments where
  /-- How often more messages were asked for. -/
  verbosity : Nat
  /-- The configuration root. -/
  root : Option Path
  /-- The command. -/
  command : Command
  deriving DecidableEq, Repr

/-- The request that a target stands for. -/
def TargetArguments.request (t : TargetArguments) : Except ConfigError Request :=
  match Request.readExtra t.extra with
  | .ok extra => .ok ((Request.ofNames t.service t.environment).withVariables extra)
  | .error e => .error e

/-- The least urgent messages that are shown. -/
def verbosityLevel : Nat → String
  | 0 => "warn"
  | 1 => "info"
  | _ => "debug"

namespace Arguments

/-- The options that may stand everywhere. -/
def globalOptions : List Switch :=
  [ ⟨'v', "verbose", .count⟩, ⟨'c', "config-root", .set false⟩,
    ⟨'h', "help", .help⟩, ⟨'V', "version", .version⟩ ]

/-- The options that choose a target. -/
def targetOptions : List Switch :=
  [ ⟨'s', "service", .set true⟩, ⟨'e', "environment", .set true⟩, ⟨'x', "extra-var", .append⟩ ]

/-- The option that leaves placeholders without a value in place. -/
def ignoreOption : Switch := ⟨'i', "ignore-missing", .flag⟩

/-- The option for the directory to write into. -/
def writeOption : Switch := ⟨'w', "write-to-dir", .set false⟩

/-- The subcommands with their own options. -/
def subcommands : List (String × List Switch) :=
  [ ("list-services", []),
    ("list-envs", []),
    ("variables", targetOptions),
    ("template", targetOptions ++ [ignoreOption, writeOption]),
    ("execute", targetOptions ++ [ignoreOption]) ]

/-- The subcommand that asks for help. -/
def helpName : String := "help"

/-- What may stand before a subcommand. -/
def programLevel : Level := ⟨globalOptions, subcommands.map Prod.fst ++ [helpName]⟩

/-- How often the verbosity can be counted. -/
def maxVerbosity : Nat := 255

/-- Help on a subcommand, or on the program; further names lead nowhere. -/
def helpFault (names : List String) : Fault :=
  match names with
  | [] => .help
  | [name] => if programLevel.subcommands.contains name then .help else .invalidSubcommand
  | _ => .invalidSubcommand

/-- The target that was given. -/
def targetOf (g : Given) : Except Fault TargetArguments :=
  match g.last? "service", g.last? "environment" with
  | some service, some environment => .ok ⟨service, environment, g.all "extra-var"⟩
  | _, _ => .error .missingRequired

/-- The command of a subcommand and its options. -/
def commandOf (name : String) (g : Given) : Except Fault Command :=
  match name with
  | "list-services" => .ok .listServices
  | "list-envs" => .ok .listEnvironments
  | "variables" => do pure (.showVariables (← targetOf g))
  | "template" => do
    pure (.template (← targetOf g) (g.has "ignore-missing") ((g.last? "write-to-dir").map Path.mk))
  | "execute" => do pure (.execute (← targetOf g) (g.has "ignore-missing"))
  | _ => .error .invalidSubcommand

/-- What is wrong when there is no subcommand. -/
def withoutSubcommand (g : Given) : Fault :=
  if g.values.isEmpty then .helpOnNothing else .missingSubcommand

/-- Join what was given before and behind the subcommand. -/
def join (before behind : Given) (command : Command) : Arguments :=
  let chosen (name : String) : Given := if behind.has name then behind else before
  { verbosity := min maxVerbosity ((chosen "verbose").all "verbose").length
    root := ((chosen "config-root").last? "config-root").map Path.mk
    command := command }

/-- Read the arguments behind the name of the program. -/
def read (texts : List String) : Except Fault Arguments := do
  let ending ← readLevel programLevel .none texts
  match ending.subcommand with
  | none => throw (withoutSubcommand (← ending.given.settle))
  | some (name, rest) =>
    if name = helpName then throw (helpFault rest)
    else
      let own := (subcommands.find? (fun entry => entry.1 == name)).elim [] Prod.snd
      let behind ← readLevel ⟨globalOptions ++ own, []⟩ .none rest
      let behind ← behind.given.settle
      let command ← commandOf name behind
      let before ← ending.given.settle
      pure (join before behind command)

end Arguments

end LayeredConfig
