import LayeredConfig.Configuration.Error
import LayeredConfig.Value.Text

/-!
# Requests

What is to be resolved: a service in an environment, with extra variables that
go over everything else. Extra variables are written as a name and a value
around one equals sign.
-/

namespace LayeredConfig

/-- What is to be resolved. -/
structure Request where
  /-- The service. -/
  service : String
  /-- The environment. -/
  environment : String
  /-- The variables that go over all others. -/
  extra : Variables
  /-- A placeholder without a value is a failure. -/
  requireAll : Bool

namespace Request

/-- A strict request without extra variables. -/
def ofNames (service environment : String) : Request :=
  ⟨service, environment, SortedMap.empty, true⟩

/-- Add a text as an extra variable. -/
def withText (r : Request) (name text : String) : Request :=
  { r with extra := r.extra.insert name (.string text) }

/-- Add extra variables. -/
def withVariables (r : Request) (vars : Variables) : Request :=
  { r with extra := r.extra.overlay vars }

/-- Say whether a placeholder without a value is a failure. -/
def withRequirement (r : Request) (requireAll : Bool) : Request :=
  { r with requireAll := requireAll }

/-- The name and the value of a token with one equals sign. -/
def pair? (token : String) : Option (String × String) :=
  match Text.splitAtChar '=' token.toList with
  | [name, value] => some (String.ofList name, String.ofList value)
  | _ => none

/-- Read tokens over variables, one after the other. -/
def readTokens : List String → Variables → Except ConfigError Variables
  | [], vars => .ok vars
  | token :: rest, vars =>
    match pair? token with
    | some (name, value) => readTokens rest (vars.insert name (.string value))
    | none => .error (.invalidExtraVariable token)

/-- The variables of tokens. -/
def readExtra (tokens : List String) : Except ConfigError Variables :=
  readTokens tokens SortedMap.empty

end Request

end LayeredConfig
