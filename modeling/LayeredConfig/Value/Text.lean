import LayeredConfig.SortedMap
import LayeredConfig.Value.Debug
import LayeredConfig.Value.Json

/-!
# The text that a value stands for

A variable stands in a template as a text: scalars as themselves, structures
as compact JSON, tagged values as what the tag holds. Null stands for nothing,
so a variable that is null counts as undefined.
-/

namespace LayeredConfig

/-- The variables of a configuration, ascending in the name. -/
abbrev Variables := SortedMap String Value

namespace Value

/-- The text of a structure: its compact JSON, or its descriptive text when a
key has no JSON spelling. -/
def structureText (value : Value) : String :=
  match Json.ofValue? value with
  | .ok json => String.ofList json.compact
  | .error _ => String.ofList value.describe

/-- The text that a value stands for; nothing for null. -/
def text? : Value → Option String
  | .null => none
  | .bool b => some (boolText b)
  | .number n => some (numberText n)
  | .string text => some text
  | .sequence items => some (structureText (.sequence items))
  | .mapping entries => some (structureText (.mapping entries))
  | .tagged _ value => text? value

/-- Tags do not change the text. -/
theorem text?_untagged (v : Value) : v.untagged.text? = v.text? := by
  induction v using untagged.induct with
  | case1 tag value ih => simpa [untagged, text?] using ih
  | case2 value h => cases value <;> simp_all [untagged]

/-- The variable name that a mapping key spells. -/
def name? : Value → Option String
  | .string text => some text
  | .bool b => some (boolText b)
  | .number n => some (numberText n)
  | _ => none

end Value

namespace Variables

/-- The text of a variable, when it is defined. -/
def lookup? (vars : Variables) (name : String) : Option String :=
  match vars.get? name with
  | some value => value.text?
  | none => none

end Variables

end LayeredConfig
