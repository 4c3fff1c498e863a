import LayeredConfig.Files.Tree
import LayeredConfig.Template.Error
import LayeredConfig.Value.Debug

/-!
# Failures of a configuration

Every failure is its cause; the wording stands in one place. A chain lists the
messages of a failure and of the failures that caused it.
-/

namespace LayeredConfig

/-- What a directory is for. -/
inductive DirectoryRole where
  /-- The services of a configuration. -/
  | services
  /-- The environments of a configuration. -/
  | environments
  /-- The templates of a configuration. -/
  | templates
  /-- The templates of one type. -/
  | templateType
  /-- Where files are to be written. -/
  | target
  /-- A role that the caller names. -/
  | named (noun : String)
  deriving DecidableEq, Repr

/-- What a directory of a role is called. -/
def DirectoryRole.noun : DirectoryRole → String
  | .services => "Services"
  | .environments => "Environments"
  | .templates => "Templates"
  | .templateType => "Template type"
  | .target => "Target"
  | .named noun => noun

/-- A setting that need not be given until it is used. -/
inductive OptionalSetting where
  /-- The command to execute. -/
  | executionCommand
  /-- The file to make executable. -/
  | executionFile
  deriving DecidableEq, Repr

/-- The variable of an optional setting. -/
def OptionalSetting.name : OptionalSetting → String
  | .executionCommand => "execution_command"
  | .executionFile => "execution_file"

/-- Why variables hold no settings. -/
inductive SettingsFault where
  /-- A setting is not a text. -/
  | notText (found : Value)
  /-- A setting is missing. -/
  | missing (name : String)
  deriving Repr

/-- What a value is called when a text was expected. -/
def Value.kindText : Value → String
  | .null => "unit value"
  | .bool b => "boolean \x60" ++ boolText b ++ "\x60"
  | .number (.integer n) => "integer \x60" ++ String.ofList (Number.intText n) ++ "\x60"
  | .number (.float x) => "floating point \x60" ++ Number.messageLayout.text x ++ "\x60"
  | .string text => "string " ++ String.ofList (quoted text)
  | .sequence _ => "sequence"
  | .mapping _ => "map"
  | .tagged _ value => value.kindText

/-- The message of a settings fault. -/
def SettingsFault.message : SettingsFault → String
  | .notText found => "invalid type: " ++ found.kindText ++ ", expected a string"
  | .missing name => "missing field \x60" ++ name ++ "\x60"

/-- Why the content of a file holds no variables. -/
inductive LayerFault where
  /-- The content is no YAML document. -/
  | notYaml (problem : String)
  /-- The document is no mapping. -/
  | notMapping
  /-- A key spells no variable name. -/
  | unsupportedName (key : Value)
  deriving Repr

/-- The message of a layer fault. -/
def LayerFault.message : LayerFault → String
  | .notYaml problem => problem
  | .notMapping => "expected a mapping of variable names to values"
  | .unsupportedName key => "unsupported variable name: " ++ String.ofList key.describe

/-- A failure of a configuration. -/
inductive ConfigError where
  /-- No configuration root is given or found. -/
  | rootNotGiven
  /-- The configuration root has no descriptor. -/
  | descriptorMissing (root : Path)
  /-- A directory does not exist. -/
  | directoryMissing (role : DirectoryRole) (path : Path)
  /-- The variable for the template type has no value. -/
  | templateTypeUndefined
  /-- An extra variable is not a name and a value around one equals sign. -/
  | invalidExtraVariable (token : String)
  /-- The variables hold no settings. -/
  | invalidSettings (fault : SettingsFault)
  /-- An optional setting is used but not given. -/
  | missingSetting (setting : OptionalSetting)
  /-- A file holds no variables. -/
  | invalidLayerFile (path : Path) (fault : LayerFault)
  /-- A template file cannot be rendered. -/
  | templateFile (path : Path) (cause : Template.Error)
  /-- A template cannot be rendered. -/
  | template (cause : Template.Error)
  /-- A file operation fails. -/
  | file (cause : FileError)
  deriving Repr

namespace ConfigError

/-- The name of the descriptor of a configuration root. -/
def descriptorName : String := "exconf.yaml"

/-- The environment variable that names a configuration root. -/
def rootEnvironmentVariable : String := "EXCONF_CONFIG_ROOT"

/-- The variable that names the template type. -/
def templateTypeVariable : String := "template_type"

/-- The message of a failure. -/
def message : ConfigError → String
  | .rootNotGiven =>
    "Exconf configuration root not found: give the -c option, or define environment variable " ++
      rootEnvironmentVariable
  | .descriptorMissing root =>
    "Exconf configuration root not found: no " ++ descriptorName ++
      " file found from configuration root: " ++ root.text
  | .directoryMissing role path => role.noun ++ " directory does not exist: " ++ path.text
  | .templateTypeUndefined => "Template type (var " ++ templateTypeVariable ++ ") not defined"
  | .invalidExtraVariable token =>
    "Invalid extra variable input string (key=value required): " ++ token
  | .invalidSettings fault => "Invalid settings: " ++ fault.message
  | .missingSetting setting => "Setting '" ++ setting.name ++ "' not defined"
  | .invalidLayerFile path fault =>
    "Invalid variable file " ++ path.text ++ ": " ++ fault.message
  | .templateFile path cause =>
    "Failed to populate template file " ++ path.text ++ ": " ++ cause.message
  | .template cause => cause.message
  | .file cause => "IO error: " ++ cause.message

/-- The template failure behind a failure. -/
def templateError? : ConfigError → Option Template.Error
  | .templateFile _ cause => some cause
  | .template cause => some cause
  | _ => none

/-- The messages of a failure and of its causes, outermost first. A template
failure that is passed on as it is counts once. -/
def chain (e : ConfigError) : List String :=
  match e with
  | .templateFile _ cause => e.message :: cause.chain
  | .template cause => cause.chain
  | .file cause => [e.message, cause.message]
  | _ => [e.message]

/-- A chain starts with the failure's own message. -/
theorem head?_chain (e : ConfigError) : e.chain.head? = some e.message := by
  cases e with
  | template cause => exact Template.Error.head?_chain cause
  | _ => rfl

end ConfigError

end LayeredConfig
