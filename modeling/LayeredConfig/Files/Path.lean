import LayeredConfig.Text.Cut

/-!
# Paths

A path is kept as it is written. Joining and the name of a path are decided by
the text alone; what a path leads to is a matter of a file tree.
-/

namespace LayeredConfig

/-- A written path. -/
structure Path where
  /-- The text of the path. -/
  text : String
  deriving DecidableEq, Repr, Inhabited

namespace Path

/-- The parts between the slashes. -/
def parts (p : Path) : List String := (Text.splitAtChar '/' p.text.toList).map String.ofList

/-- The path starts at the root. -/
def isAbsolute (p : Path) : Bool := p.text.toList.head? == some '/'

/-- Continue a path by a written path. An absolute one replaces it; an empty
one leaves a slash at its end. -/
def join (p : Path) (more : String) : Path :=
  if (Path.mk more).isAbsolute then ⟨more⟩
  else
    match p.text.toList.getLast? with
    | none => ⟨more⟩
    | some '/' => ⟨p.text ++ more⟩
    | some _ => ⟨p.text ++ "/" ++ more⟩

/-- The parts from the last one that leads somewhere, backwards. -/
def significant (p : Path) : List String :=
  p.parts.reverse.dropWhile fun part => part == "" || part == "."

/-- The name that a path ends in, unless it ends at the root or a step upwards. -/
def fileName? (p : Path) : Option String :=
  match p.significant with
  | [] => none
  | name :: _ => if name = ".." then none else some name

/-- The name that a path ends in, or nothing. -/
def baseName (p : Path) : String := p.fileName?.getD ""

/-- A path without its last step. -/
def parent? (p : Path) : Option Path :=
  match p.significant with
  | [] => none
  | _ :: rest => some ⟨"/".intercalate rest.reverse⟩

/-- The steps that a path takes. A slash at its end asks for a directory. -/
def steps (p : Path) : List String :=
  let names := p.parts.filter (· != "")
  if p.text.toList.getLast? == some '/' && !names.isEmpty then names ++ ["."] else names

/-- The path names a YAML file: its name ends in one of the two endings. -/
def isYaml (p : Path) : Bool :=
  match p.fileName? with
  | some name =>
    ".yaml".toList.isSuffixOf name.toList || ".yml".toList.isSuffixOf name.toList
  | none => false

end Path

end LayeredConfig
