import LayeredConfig.Template.Renderer

/-!
# Expanding file names

A file name may hold variables between tokens. The first token is replaced and
the name is read again from its start, so that a value may form a new token.
Only values that are safe in a file name may be inserted.
-/

namespace LayeredConfig.Template

open Text

/-- The character may stand in a value inserted into a file name. -/
def isFileNameChar (c : Char) : Bool :=
  ('a' ≤ c && c ≤ 'z') || ('A' ≤ c && c ≤ 'Z') || ('0' ≤ c && c ≤ '9') ||
    c == '-' || c == '_' || c == '.'

/-- A path separator may not. -/
theorem isFileNameChar_slash : isFileNameChar '/' = false := by decide

namespace FileName

/-- What reading the first token of a name gives. -/
inductive Step where
  /-- The name holds no token. -/
  | done
  /-- The name with its first token replaced. -/
  | next (name : List Char)
  /-- The first token cannot be replaced. -/
  | fault (fault : FileNameFault)
  deriving DecidableEq, Repr

/-- Replace the first token of a name. -/
def step (d : Delimiters) (vars : Variables) (name : List Char) : Step :=
  match cut? d.opening name with
  | none => .done
  | some (before, after) =>
    match cut? d.closing after with
    | none => .fault (.unterminated (String.ofList d.opening))
    | some (inner, rest) =>
      match vars.lookup? (String.ofList inner) with
      | none => .fault (.undefined (String.ofList inner))
      | some value =>
        if value.toList.all isFileNameChar then .next (before ++ value.toList ++ rest)
        else .fault (.forbidden value (String.ofList inner))

/-- Replace tokens, at most as many as given. Afterwards no opening may be left. -/
def expandWithin (d : Delimiters) (vars : Variables) (file : String) :
    Nat → List Char → Except Error (List Char)
  | 0, name => if occurs d.opening name then .error (.didNotConverge maxPasses) else .ok name
  | n + 1, name =>
    match step d vars name with
    | .done => .ok name
    | .next name => expandWithin d vars file n name
    | .fault fault => .error (.invalidFileName file fault)

/-- Expand a file name. -/
def expand (d : Delimiters) (vars : Variables) (file : String) : Except Error String :=
  match expandWithin d vars file maxPasses file.toList with
  | .ok name => .ok (String.ofList name)
  | .error e => .error e

end FileName

end LayeredConfig.Template
