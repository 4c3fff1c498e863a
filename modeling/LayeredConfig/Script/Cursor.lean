import LayeredConfig.Script.Command
import LayeredConfig.Text.Cut

/-!
# The place in a script

The text that is still to be read, with the line it stands on. The lines of a
document inside a script are taken out of the text as soon as the document is
announced, and counted when the line that announces it ends.
-/

namespace LayeredConfig.Script

/-- A place in a script. -/
structure Cursor where
  /-- The text from here on. -/
  rest : Octets
  /-- The line, from one. -/
  line : Nat
  /-- The lines that were taken out behind this line. -/
  taken : Nat

namespace Cursor

/-- The start of a text that begins on a line. -/
def start (text : Octets) (line : Nat) : Cursor := ⟨text, line, 0⟩

/-- Move over characters of the line. -/
def skip (c : Cursor) (count : Nat) : Cursor := { c with rest := c.rest.drop count }

/-- Move over one character. -/
def next (c : Cursor) : Cursor :=
  match c.rest with
  | '\n' :: rest => ⟨rest, c.line + c.taken + 1, 0⟩
  | _ :: rest => { c with rest := rest }
  | [] => c

/-- Move over characters that may be line breaks. -/
def pass (c : Cursor) : Nat → Cursor
  | 0 => c
  | count + 1 => c.next.pass count

/-- A fault at the cursor. -/
def fault {α : Type} (c : Cursor) (problem : String) : Except Fault α :=
  .error ⟨c.line, "Syntax error: " ++ problem⟩

/-- The characters up to the next token: blanks, escaped line breaks and a comment. -/
def blankLength : Octets → Nat
  | ' ' :: rest => blankLength rest + 1
  | '\t' :: rest => blankLength rest + 1
  | '\\' :: '\n' :: rest => blankLength rest + 2
  | '#' :: rest => (rest.takeWhile (· != '\n')).length + 1
  | _ => 0

/-- Move to the next token of the line. -/
def skipBlanks (c : Cursor) : Cursor := c.pass (blankLength c.rest)

/-- Move to the next token, over as many line breaks as given. -/
def skipLinesUpTo : Nat → Cursor → Cursor
  | 0, c => c
  | n + 1, c =>
    let c := c.skipBlanks
    match c.rest with
    | '\n' :: _ => skipLinesUpTo n c.next
    | _ => c

/-- Move to the next token, over line breaks. -/
def skipLines (c : Cursor) : Cursor := skipLinesUpTo (c.rest.length + 1) c

/-- The text starts with an operator. -/
def looksAt (c : Cursor) (operator : String) : Bool := operator.toList.isPrefixOf c.rest

/-- The character ends a word that has no quotes. -/
def endsWord (c : Char) : Bool := Octets.isBlank c || "\n;&|<>()".toList.contains c

/-- The words with a meaning of their own at the start of a command. -/
def reservedWords : List String :=
  [ "if", "then", "else", "elif", "fi", "do", "done", "case", "esac", "while", "until", "for",
    "\x7b", "\x7d", "!", "in" ]

/-- The characters up to the end of a word without quotes. -/
def plainWord (c : Cursor) : String := String.ofList (c.rest.takeWhile fun x => !endsWord x)

/-- The reserved word at the cursor. -/
def reserved? (c : Cursor) : Option String :=
  if reservedWords.contains c.plainWord then some c.plainWord else none

/-- The reserved words that end a list of commands. -/
def closingWords : List String := ["then", "else", "elif", "fi", "do", "done", "esac", "\x7d"]

/-- A list of commands ends at the cursor. -/
def atClose (c : Cursor) : Bool :=
  c.rest.isEmpty || c.looksAt ")" || c.looksAt ";;" || closingWords.contains c.plainWord

/-- The operators that separate commands, longer ones first. -/
def operators : List String := [";;", "&&", "||", ";", "&", "|", "(", ")"]

/-- A name for the token at the cursor. -/
def tokenName (c : Cursor) : String :=
  match c.rest with
  | [] => "end of file"
  | '\n' :: _ => "newline"
  | '<' :: _ => "redirection"
  | '>' :: _ => "redirection"
  | _ =>
    match operators.find? c.looksAt with
    | some operator => "\"" ++ operator ++ "\""
    | none =>
      match c.reserved? with
      | some word => "\"" ++ word ++ "\""
      | none => "word"

/-- The fault that the token at the cursor is unexpected. A line break counts
with the line behind it. -/
def unexpectedToken (c : Cursor) (hint : String) : Fault :=
  ⟨if c.looksAt "\n" then c.next.line else c.line,
    "Syntax error: " ++ c.tokenName ++ " unexpected" ++ hint⟩

/-- Fail at a token that is unexpected. -/
def unexpected {α : Type} (c : Cursor) : Except Fault α := .error (c.unexpectedToken "")

/-- Move over a reserved word or an operator that has to come next. -/
def require (c : Cursor) (token : String) : Except Fault Cursor :=
  let here := c.skipBlanks
  let found :=
    if reservedWords.contains token then here.plainWord == token else here.looksAt token
  if found then .ok (here.skip token.length)
  else .error (here.unexpectedToken (" (expecting \"" ++ token ++ "\")"))

/-- The lines of a document up to the line that ends it, and how many lines
were taken with that line. -/
def documentLines (ending : Octets) (tabs : Bool) : List Octets → List Octets × List Octets
  | [] => ([], [])
  | [[]] => ([], [])
  | line :: rest =>
    let line := if tabs then line.dropWhile (· == '\t') else line
    if line = ending then ([], rest)
    else
      let (inside, behind) := documentLines ending tabs rest
      (line :: inside, behind)

/-- Take a document out of the text: the lines behind this one, up to an ending. -/
def takeDocument (c : Cursor) (ending : Octets) (tabs : Bool) : Octets × Cursor :=
  match Text.cut? ['\n'] c.rest with
  | none => ([], c)
  | some (head, tail) =>
    let all := Text.lines tail
    let (inside, behind) := documentLines ending tabs all
    (inside.flatMap (· ++ ['\n']),
      { c with
        rest := head ++ '\n' :: Text.unlines behind
        taken := c.taken + (all.length - behind.length) })

end Cursor

end LayeredConfig.Script
