import LayeredConfig.Command.Arguments
import LayeredConfig.Command.Execute
import LayeredConfig.Command.Show

/-!
# The program

A command reads the file tree around it, may change it, and ends with an exit
code and what it wrote to its two outputs. Failures are reported on standard
error, with a code that tells their kind.
-/

namespace LayeredConfig

open Usage

/-- What a command finds around it. -/
structure Surroundings where
  /-- The files, and the current directory. -/
  tree : FileTree
  /-- The directory for temporary files. -/
  temporary : Path
  /-- The configuration root that the environment names. -/
  root : Option Path
  /-- Outputs are coloured. -/
  coloured : Bool

/-- What a command leaves behind. -/
structure Outcome where
  /-- The exit code. -/
  code : ExitCode
  /-- What was written to standard output. -/
  stdout : String
  /-- What was written to standard error. -/
  stderr : String
  deriving DecidableEq, Repr

/-- The colours of outputs. -/
inductive Colour where
  /-- Failures. -/
  | red
  /-- Names. -/
  | green
  /-- Remarks. -/
  | yellow
  /-- Headings. -/
  | blue
  deriving DecidableEq, Repr

namespace Colour

/-- The number of a colour on a terminal. -/
def number : Colour → String
  | .red => "31"
  | .green => "32"
  | .yellow => "33"
  | .blue => "34"

/-- The sequence that starts a colour. -/
def start (c : Colour) : String := "\x1b[" ++ c.number ++ "m"

/-- The sequence that ends every colour. -/
def reset : String := "\x1b[0m"

/-- Show a text in a colour. Where the text ends colours itself, the colour starts anew. -/
def paint (c : Colour) (coloured : Bool) (text : String) : String :=
  if coloured then c.start ++ text.replace reset (reset ++ c.start) ++ reset else text

end Colour

namespace Program

/-- Open the configuration root that the arguments and the surroundings name. -/
def openRoot (s : Surroundings) (given : Option Path) : Except Failure Root :=
  match Root.discover s.tree given s.root with
  | .ok root => .ok root
  | .error e => .error (.config e)

/-- A failure of the configuration is a failure of the command. -/
def lift {α : Type} : Except ConfigError α → Except Failure α
  | .ok a => .ok a
  | .error e => .error (.config e)

/-- Lines with a line feed behind each. -/
def printed (lines : List String) : String := String.join (lines.map (· ++ "\n"))

/-- Names, one a line, or a remark that there are none. -/
def nameLines (coloured : Bool) (remark : String) (names : List String) : List String :=
  match names with
  | [] => [Colour.yellow.paint coloured remark]
  | names => names.map (Colour.green.paint coloured)

/-- The lines that show a populated template. -/
def templateLines (coloured : Bool) (t : RenderedTemplate) : List String :=
  [ Colour.blue.paint coloured ("### " ++ t.source.text),
    Colour.blue.paint coloured ("### " ++ t.name ++ " ###"),
    t.body,
    Colour.blue.paint coloured "### END ###" ]

/-- List the services. -/
def listServices (s : Surroundings) (given : Option Path) : Except Failure String := do
  let root ← openRoot s given
  let names ← lift (root.serviceNames s.tree)
  pure (printed (nameLines s.coloured "No services found" names))

/-- List the environments. -/
def listEnvironments (s : Surroundings) (given : Option Path) : Except Failure String := do
  let root ← openRoot s given
  let names ← lift (root.environmentNames s.tree)
  pure (printed (nameLines s.coloured "No environments found" names))

/-- Show the resolved variables. -/
def showVariables (s : Surroundings) (given : Option Path) (t : TargetArguments) :
    Except Failure String := do
  let root ← openRoot s given
  let request ← lift t.request
  let resolution ← lift (Resolution.resolve root s.tree request)
  let text ← resolution.values.prettyText
  pure (printed [text])

/-- Populate the templates for printing. The variables are expanded leniently,
and only then the requirement for the bodies is set. -/
def renderForPrinting (root : Root) (tree : FileTree) (request : Request) (requireAll : Bool) :
    Except ConfigError (List RenderedTemplate) := do
  let lenient ← Resolution.resolve root tree (request.withRequirement false)
  let resolution ← lenient.withBodyRequirement requireAll
  resolution.renderTemplates tree

/-- Print the populated templates. -/
def printTemplates (s : Surroundings) (given : Option Path) (t : TargetArguments)
    (ignoreMissing : Bool) : Except Failure String := do
  let root ← openRoot s given
  let request ← lift t.request
  let rendered ← lift (renderForPrinting root s.tree request !ignoreMissing)
  pure (printed (rendered.flatMap (templateLines s.coloured)))

/-- Write the populated templates into a directory and list their names. -/
def writeTemplates (s : Surroundings) (given : Option Path) (t : TargetArguments)
    (ignoreMissing : Bool) (directory : Path) : FileTree × Except Failure String :=
  match openRoot s given, lift t.request with
  | .error e, _ => (s.tree, .error e)
  | .ok _, .error e => (s.tree, .error e)
  | .ok root, .ok request =>
    match WorkDirectory.prepare root s.tree (request.withRequirement !ignoreMissing)
      (.directory directory) with
    | (tree, .ok w) => (tree, .ok (printed w.fileNames))
    | (tree, .error e) => (tree, .error (.config e))

/-- Run the command of the settings. -/
def execute (runner : Runner Unit) (s : Surroundings) (given : Option Path) (t : TargetArguments)
    (ignoreMissing : Bool) : FileTree × Except Failure Execution :=
  match openRoot s given, lift t.request with
  | .error e, _ => (s.tree, .error e)
  | .ok _, .error e => (s.tree, .error e)
  | .ok root, .ok request =>
    match runInWorkDirectory runner () root s.tree (request.withRequirement !ignoreMissing)
      s.temporary with
    | ((), tree, answer) => (tree, answer)

/-- The exit code of a finished command: its own, if a program can have it. -/
def executionCode (e : Execution) : ExitCode :=
  if 0 ≤ e.exitCode ∧ e.exitCode < 256 then ⟨e.exitCode.toNat⟩ else .general

/-- The outcome of a command that prints. -/
def finish (coloured : Bool) : Except Failure String → Outcome
  | .ok text => ⟨.success, text, ""⟩
  | .error f => ⟨f.exitCode, "", Colour.red.paint coloured f.report ++ "\n"⟩

/-- The outcome of a command that runs another. -/
def finishExecution (coloured : Bool) : Except Failure Execution → Outcome
  | .ok e => ⟨executionCode e, e.stdout, e.stderr⟩
  | .error f => finish coloured (.error f)

/-- Carry out a command. -/
def carryOut (runner : Runner Unit) (s : Surroundings) (a : Arguments) : FileTree × Outcome :=
  match a.command with
  | .listServices => (s.tree, finish s.coloured (listServices s a.root))
  | .listEnvironments => (s.tree, finish s.coloured (listEnvironments s a.root))
  | .showVariables t => (s.tree, finish s.coloured (showVariables s a.root t))
  | .template t ignore none => (s.tree, finish s.coloured (printTemplates s a.root t ignore))
  | .template t ignore (some directory) =>
    match writeTemplates s a.root t ignore directory with
    | (tree, answer) => (tree, finish s.coloured answer)
  | .execute t ignore =>
    match execute runner s a.root t ignore with
    | (tree, answer) => (tree, finishExecution s.coloured answer)

/-- The text for a fault in the arguments. -/
def faultText : Fault → String
  | .unknownArgument => "unexpected argument found"
  | .invalidSubcommand => "unrecognized subcommand"
  | .missingSubcommand => "a subcommand is required but was not provided"
  | .missingRequired => "required arguments were not provided"
  | .invalidValue => "a value is required but none was supplied"
  | .conflict => "an argument cannot be used multiple times"
  | .tooManyValues => "unexpected value for an argument"
  | .help => "help requested"
  | .version => "version requested"
  | .helpOnNothing => "no arguments were provided"

/-- The line that tells the version. -/
def versionText : String := "exconf 0.1.0\n"

/-- How the program is used. -/
def usageText : String :=
  printed
    [ "exconf - layered configuration and templating for service execution",
      "",
      "Usage: exconf [OPTIONS] <COMMAND>",
      "",
      "Commands: list-services, list-envs, variables, template, execute, help" ]

/-- The outcome of a fault in the arguments. -/
def finishFault : Fault → Outcome
  | .help => ⟨.success, usageText, ""⟩
  | .version => ⟨.success, versionText, ""⟩
  | .helpOnNothing => ⟨.invalidArguments, "", usageText⟩
  | fault => ⟨.invalidArguments, "", "error: " ++ faultText fault ++ "\n"⟩

/-- Run the program with its arguments. -/
def run (runner : Runner Unit) (s : Surroundings) (texts : List String) : FileTree × Outcome :=
  match Arguments.read texts with
  | .ok a => carryOut runner s a
  | .error fault => (s.tree, finishFault fault)

end Program

end LayeredConfig
