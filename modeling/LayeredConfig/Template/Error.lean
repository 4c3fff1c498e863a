/-!
# Failures of templates

Each failure is its cause; the wording is one function. A failure inside a
variable or a file names where it happened and keeps the cause.
-/

namespace LayeredConfig.Template

/-- A placeholder without a value. -/
structure Missing where
  /-- The line that it stands on, from one. -/
  line : Nat
  /-- The name of the variable. -/
  name : String
  deriving DecidableEq, Repr

/-- Why a file name cannot be expanded. -/
inductive FileNameFault where
  /-- A token is not closed. -/
  | unterminated (opening : String)
  /-- The variable has no value. -/
  | undefined (name : String)
  /-- The value may not stand in a file name. -/
  | forbidden (value name : String)
  deriving DecidableEq, Repr

/-- What a pair of delimiters marks. -/
inductive DelimiterRole where
  /-- Placeholders in texts. -/
  | placeholder
  /-- Tokens in file names. -/
  | fileName
  deriving DecidableEq, Repr

/-- A failure of a template. -/
inductive Error where
  /-- Placeholders have no value. -/
  | missingVariables (missing : List Missing)
  /-- The text still changes after the last pass. -/
  | didNotConverge (passes : Nat)
  /-- A file name cannot be expanded. -/
  | invalidFileName (file : String) (fault : FileNameFault)
  /-- A delimiter is empty. -/
  | emptyDelimiter (role : DelimiterRole) (opening closing : String)
  /-- The value of a variable cannot be expanded. -/
  | inVariable (name : String) (cause : Error)
  deriving DecidableEq, Repr

/-- The text of a missing placeholder. -/
def Missing.text (m : Missing) : String := s!"({m.line}, {m.name})"

/-- The message of a file name fault. -/
def FileNameFault.message : FileNameFault → String
  | .unterminated opening => "unterminated '" ++ opening ++ "' token"
  | .undefined name => "variable '" ++ name ++ "' is not defined"
  | .forbidden value name =>
    "substitute '" ++ value ++ "' for '" ++ name ++ "' has characters outside [-_.A-Za-z0-9]"

/-- What the delimiters of a role are called. -/
def DelimiterRole.noun : DelimiterRole → String
  | .placeholder => "placeholder delimiters"
  | .fileName => "file name tokens"

namespace Error

/-- The message of a failure. -/
def message : Error → String
  | .missingVariables missing =>
    "Cannot replace variable(s) in template (line, name): " ++
      ", ".intercalate (missing.map Missing.text)
  | .didNotConverge passes =>
    "Variable substitution did not converge after " ++ toString passes ++
      " passes (cyclic reference?)"
  | .invalidFileName file fault =>
    "Invalid file name template in '" ++ file ++ "': " ++ fault.message
  | .emptyDelimiter role opening closing =>
    "Invalid template syntax: " ++ role.noun ++ " must not be empty (prefix '" ++ opening ++
      "', suffix '" ++ closing ++ "')"
  | .inVariable name cause => "Failed to expand variable '" ++ name ++ "': " ++ cause.message

/-- The placeholders without a value that a failure reports, also from inside a variable. -/
def missing : Error → List Missing
  | .missingVariables missing => missing
  | .inVariable _ cause => cause.missing
  | _ => []

/-- The messages of a failure and of its causes, outermost first. -/
def chain : Error → List String
  | .inVariable name cause => (Error.inVariable name cause).message :: cause.chain
  | e => [e.message]

/-- A chain starts with the failure's own message. -/
theorem head?_chain (e : Error) : e.chain.head? = some e.message := by
  cases e <;> rfl

end Error

end LayeredConfig.Template
