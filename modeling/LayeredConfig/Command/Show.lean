import LayeredConfig.Command.Failure
import LayeredConfig.Value.Text

/-!
# Showing variables

The variables as an indented JSON object, ascending in the name.
-/

namespace LayeredConfig

/-- The JSON documents of the entries of variables. -/
def Variables.members? : List (String × Value) → Except KeyFault (List (String × Json))
  | [] => .ok []
  | (name, value) :: rest =>
    match Json.ofValue? value with
    | .error e => .error e
    | .ok inner =>
      match members? rest with
      | .error e => .error e
      | .ok members => .ok ((name, inner) :: members)

/-- The JSON document of variables. -/
def Variables.json? (vars : Variables) : Except KeyFault Json :=
  match members? vars.entries with
  | .ok members => .ok (.object members)
  | .error e => .error e

/-- The indented JSON text of variables. -/
def Variables.prettyText (vars : Variables) : Except Failure String :=
  match vars.json? with
  | .ok json => .ok (String.ofList (json.pretty 0))
  | .error e => .error (.within "Failed to serialize variables" (.json e))

end LayeredConfig
