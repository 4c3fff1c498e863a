import LayeredConfig.Script.Octets

/-!
# Commands

A script is a sequence of commands over words. A word is a list of parts: what
is written, what is quoted, and what is put in when the word is expanded.
-/

namespace LayeredConfig.Script

/-- What a redirection does to its descriptor. -/
inductive Direction where
  /-- Read from a file. -/
  | input
  /-- Write into a file, from its start. -/
  | output
  /-- Write at the end of a file. -/
  | append
  /-- Read and write a file. -/
  | update
  /-- Share another descriptor. -/
  | share
  /-- Read a text of the script. -/
  | document
  deriving DecidableEq, Repr

mutual

/-- A part of a word. -/
inductive Part where
  /-- Characters without quotes. -/
  | written (text : Octets)
  /-- Characters in quotes. -/
  | quoted (text : Octets)
  /-- The value of a parameter, put to a use. -/
  | parameter (name : Octets) (use : Use) (inQuotes : Bool)
  /-- The output of commands. -/
  | output (body : Command) (inQuotes : Bool)
  /-- The value of an arithmetic expression. -/
  | arithmetic (expression : List Part) (inQuotes : Bool)

/-- What the value of a parameter is put to. Where a word takes the place of
the value, it does so for an unset parameter, or for an empty one as well. -/
inductive Use where
  /-- The value itself. -/
  | value
  /-- The number of its octets. -/
  | length
  /-- A word stands in for the value. -/
  | fallback (evenEmpty : Bool) (word : List Part)
  /-- A word is assigned where there is no value. -/
  | assign (evenEmpty : Bool) (word : List Part)
  /-- A word is the complaint where there is no value. -/
  | require (evenEmpty : Bool) (word : List Part)
  /-- A word takes the place of a value. -/
  | instead (evenEmpty : Bool) (word : List Part)
  /-- The value without a part at one side that has a pattern. -/
  | without (atEnd : Bool) (longest : Bool) (pattern : List Part)
  /-- No use at all: it is a mistake that shows when the word is expanded. -/
  | invalid

/-- A redirection of a descriptor to a target. -/
inductive Redirection where
  /-- The descriptor, the direction and the target. -/
  | mk (descriptor : Nat) (direction : Direction) (target : List Part)

/-- A command. -/
inductive Command where
  /-- Assignments, a command with arguments, and redirections, on a line. -/
  | simple (line : Nat) (assignments : List (Octets × List Part)) (words : List (List Part))
      (redirections : List Redirection)
  /-- A command with redirections. -/
  | redirected (line : Nat) (body : Command) (redirections : List Redirection)
  /-- Commands one after the other. -/
  | sequence (commands : List Command)
  /-- A command, and another if it succeeds. -/
  | andThen (first second : Command)
  /-- A command, and another if it fails. -/
  | orElse (first second : Command)
  /-- A command whose success counts as failure. -/
  | negated (body : Command)
  /-- Commands each of which reads what the one before writes. -/
  | pipeline (commands : List Command)
  /-- A command that is not waited for. -/
  | background (body : Command)
  /-- A command with surroundings of its own. -/
  | subshell (body : Command)
  /-- One of two commands, by a condition. -/
  | choice (condition body otherwise : Command)
  /-- A command that is repeated as long as a condition succeeds or fails. -/
  | loop (whileTrue : Bool) (condition body : Command)
  /-- A command for each of some words, or for each argument. -/
  | forEach (line : Nat) (name : Octets) (items : Option (List (List Part))) (body : Command)
  /-- The first branch with a pattern of the subject. -/
  | select (line : Nat) (subject : List Part) (branches : List (List (List Part) × Command))
  /-- The definition of a function. -/
  | define (name : Octets) (body : Command)

end

instance : Inhabited Command := ⟨.sequence []⟩

/-- A word. -/
abbrev Word := List Part

/-- The command that does nothing. -/
def Command.nothing : Command := .sequence []

/-- Why a text is no script. -/
structure Fault where
  /-- The line, from one. -/
  line : Nat
  /-- What is wrong. -/
  problem : String
  deriving DecidableEq, Repr

/-- The complete lines of a script, up to the first fault. -/
structure Lines where
  /-- The commands, one for each complete line. -/
  commands : List Command
  /-- The fault that ends the script early. -/
  fault : Option Fault

end LayeredConfig.Script
