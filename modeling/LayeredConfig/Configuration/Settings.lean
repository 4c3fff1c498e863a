import LayeredConfig.Configuration.Error
import LayeredConfig.Template.FileName

/-!
# Settings

The variables that steer the program itself. They are texts, possibly under
tags; three are required, the two of execution may be left out, and the others
have standard values.
-/

namespace LayeredConfig

open Template

/-- What the variables say about directories, markup and execution. -/
structure Settings where
  /-- The directory of services. -/
  servicesDirectory : String
  /-- The directory of templates. -/
  templatesDirectory : String
  /-- The directory of environments. -/
  environmentsDirectory : String
  /-- How placeholders and comment lines are written. -/
  markup : Markup
  /-- What opens a token in a file name. -/
  fileNameOpening : String
  /-- What closes a token in a file name. -/
  fileNameClosing : String
  /-- The command to execute. -/
  executionCommand : Option String
  /-- The file to make executable. -/
  executionFile : Option String
  deriving DecidableEq, Repr

namespace Settings

/-- The standard token around variables in file names. -/
def standardToken : String := "___"

/-- Read a setting, if the variable is there. -/
def text? (vars : Variables) (name : String) : Except SettingsFault (Option String) :=
  match vars.get? name with
  | none => .ok none
  | some value =>
    match value.untagged with
    | .string text => .ok (some text)
    | found => .error (.notText found)

/-- Read a setting that null leaves open. -/
def optionalText? (vars : Variables) (name : String) :
    Except SettingsFault (Option String) :=
  match vars.get? name with
  | some .null => .ok none
  | _ => text? vars name

/-- A required setting. -/
def require (name : String) : Option String → Except SettingsFault String
  | some text => .ok text
  | none => .error (.missing name)

/-- Read the settings. Settings that are no texts are found first, in the order
of their names, and then the missing ones. -/
def read (vars : Variables) : Except SettingsFault Settings := do
  let environments ← text? vars "environments_dir_name"
  let command ← optionalText? vars OptionalSetting.executionCommand.name
  let file ← optionalText? vars OptionalSetting.executionFile.name
  let fileOpening ← text? vars "file_name_template_prefix"
  let fileClosing ← text? vars "file_name_template_suffix"
  let services ← text? vars "services_dir_name"
  let opening ← text? vars "string_template_prefix"
  let closing ← text? vars "string_template_suffix"
  let comment ← text? vars "template_comment_line_begin"
  let templates ← text? vars "templates_dir_name"
  let services ← require "services_dir_name" services
  let templates ← require "templates_dir_name" templates
  let environments ← require "environments_dir_name" environments
  pure
    { servicesDirectory := services
      templatesDirectory := templates
      environmentsDirectory := environments
      markup :=
        { opening := opening.getD Markup.standard.opening
          closing := closing.getD Markup.standard.closing
          commentMarker := comment.getD Markup.standard.commentMarker }
      fileNameOpening := fileOpening.getD standardToken
      fileNameClosing := fileClosing.getD standardToken
      executionCommand := command
      executionFile := file }

/-- The settings that variables hold. -/
def ofVariables (vars : Variables) : Except ConfigError Settings :=
  match read vars with
  | .ok settings => .ok settings
  | .error fault => .error (.invalidSettings fault)

/-- The renderer for texts. -/
def renderer (s : Settings) (requireAll : Bool) : Except ConfigError Renderer :=
  match Renderer.ofMarkup? s.markup requireAll with
  | .ok renderer => .ok renderer
  | .error e => .error (.template e)

/-- The delimiters of tokens in file names. -/
def fileNameDelimiters (s : Settings) : Except ConfigError Delimiters :=
  match Delimiters.ofStrings? .fileName s.fileNameOpening s.fileNameClosing with
  | .ok delimiters => .ok delimiters
  | .error e => .error (.template e)

/-- The command to execute, which must be given. -/
def requiredCommand (s : Settings) : Except ConfigError String :=
  match s.executionCommand with
  | some command => .ok command
  | none => .error (.missingSetting .executionCommand)

/-- The file to make executable, which must be given. -/
def requiredFile (s : Settings) : Except ConfigError String :=
  match s.executionFile with
  | some file => .ok file
  | none => .error (.missingSetting .executionFile)

end Settings

end LayeredConfig
