import LayeredConfig.Script.Pattern
import LayeredConfig.Script.Shell

/-!
# Expanding words

A word expands to marked characters: written, quoted, or put in. Characters
that were put in divide a word into fields, and those without quotes may name
files by a pattern. How the commands inside a word run is a parameter.
-/

namespace LayeredConfig.Script

/-- Where a character of an expanded word comes from. -/
inductive Origin where
  /-- It was written without quotes. -/
  | written
  /-- It was quoted. -/
  | quoted
  /-- It was put in without quotes. -/
  | putIn
  deriving DecidableEq, Repr

/-- What a word expands to. -/
inductive Mark where
  /-- A character. -/
  | char (c : Char) (origin : Origin)
  /-- A field ends. -/
  | edge
  /-- There is a field, though it may be empty. -/
  | presence
  deriving DecidableEq, Repr

namespace Expansion

/-- Characters that were put in. -/
def marked (inQuotes : Bool) (text : Octets) : List Mark :=
  if inQuotes then .presence :: text.map fun c => .char c .quoted
  else text.map fun c => .char c .putIn

/-- The characters of an expanded word. A field ends at a blank. -/
def plain (marks : List Mark) : Octets :=
  marks.filterMap fun mark =>
    match mark with
    | .char c _ => some c
    | .edge => some ' '
    | .presence => none

/-- The characters of an expanded word, for a pattern. -/
def patternOf (marks : List Mark) : List Pattern.Marked :=
  marks.filterMap fun mark =>
    match mark with
    | .char c origin => some (c, origin == .quoted)
    | .edge => some (' ', true)
    | .presence => none

/-- How far a word has been divided into fields. -/
structure Division where
  /-- The complete fields, the latest first. -/
  fields : List (List Pattern.Marked)
  /-- The field that is open, its latest character first. -/
  current : Option (List Pattern.Marked)
  /-- A blank ended the last field. -/
  afterBlank : Bool

namespace Division

/-- Put a character into the open field. -/
def add (d : Division) (c : Char) (quoted : Bool) : Division :=
  { d with current := some ((c, quoted) :: d.current.getD []), afterBlank := false }

/-- Complete the open field. -/
def close (d : Division) : Division :=
  match d.current with
  | some field => { d with fields := field.reverse :: d.fields, current := none }
  | none => d

/-- Take a mark. -/
def take (separators : Octets) (d : Division) : Mark → Division
  | .edge => { d.close with afterBlank := false }
  | .presence => { d with current := some (d.current.getD []) }
  | .char c .written => d.add c false
  | .char c .quoted => d.add c true
  | .char c .putIn =>
    if !separators.contains c then d.add c false
    else if Octets.isBlank c || c == '\n' then
      { d.close with afterBlank := d.afterBlank || d.current.isSome }
    else if d.current.isSome then { d.close with afterBlank := false }
    else if d.afterBlank then { d with afterBlank := false }
    else { d with fields := [] :: d.fields }

end Division

/-- The fields of an expanded word. -/
def divide (separators : Octets) (marks : List Mark) : List (List Pattern.Marked) :=
  let start : Division := ⟨[], none, false⟩
  (marks.foldl (Division.take separators) start).close.fields.reverse

/-- The parts of a field between slashes. -/
def steps : List Pattern.Marked → List (List Pattern.Marked)
  | [] => [[]]
  | (c, quoted) :: rest =>
    if c = '/' then [] :: steps rest
    else
      match steps rest with
      | [] => [[(c, quoted)]]
      | step :: more => ((c, quoted) :: step) :: more

/-- A name fits the step of a path. A dot in front has to be written. -/
def nameFits (step : List Pattern.Marked) (name : Octets) : Bool :=
  (name.head? != some '.' || (step.head?).map Prod.fst == some '.') &&
    (Pattern.wildcards step).fits name

/-- The paths in a tree that begin as given and go on by steps with wildcards. -/
def paths (tree : FileTree) : Octets → List (List Pattern.Marked) → List Octets
  | base, [] => [base]
  | base, step :: rest =>
    if Pattern.hasWildcards step then
      let directory := if base.isEmpty then ['.'] else base
      match tree.names (Shell.pathOf directory) with
      | .error _ => []
      | .ok names =>
        ((names.map Octets.ofText).filter (nameFits step)).flatMap fun name =>
          if rest.isEmpty then [base ++ name]
          else if tree.isDirectory (Shell.pathOf (base ++ name)) then
            paths tree (base ++ name ++ ['/']) rest
          else []
    else
      let reached := base ++ step.map Prod.fst
      if rest.isEmpty then
        match tree.existing? (Shell.pathOf reached) with
        | .ok _ => [reached]
        | .error _ => []
      else paths tree (reached ++ ['/']) rest

/-- The words of a field: the paths that it names, or the field itself. -/
def wordsOf (s : Shell) (field : List Pattern.Marked) : List Octets :=
  let itself := field.map Prod.fst
  if s.options.withoutWildcards || !Pattern.hasWildcards field then [itself]
  else
    match paths s.tree [] (steps field) with
    | [] => [itself]
    | found => found

/-- Remove the part at one side of a text that fits a pattern. -/
def without (pattern : List Pattern.Marked) (atEnd longest : Bool) (text : Octets) : Octets :=
  let p := Pattern.wildcards pattern
  if atEnd then
    let lengths := p.reversed.fittingLengths 0 text.reverse
    match if longest then lengths.getLast? else lengths.head? with
    | some n => text.take (text.length - n)
    | none => text
  else
    match if longest then (p.fittingLengths 0 text).getLast? else (p.fittingLengths 0 text).head? with
    | some n => text.drop n
    | none => text

/-- The options that are set, as letters. -/
def optionLetters (o : Options) : Octets :=
  (if o.exitOnFailure then ['e'] else []) ++ (if o.withoutWildcards then ['f'] else []) ++
    (if o.refuseUnset then ['u'] else []) ++ (if o.showCommands then ['x'] else [])

/-- The value of a parameter that is not the list of arguments. -/
def parameter? (s : Shell) (name : Octets) : Option Octets :=
  match name with
  | ['?'] => some (toString s.status).toList
  | ['#'] => some (toString s.arguments.length).toList
  | ['$'] => some (toString s.process).toList
  | ['!'] => s.background.map fun n => (toString n).toList
  | ['-'] => some (optionLetters s.options)
  | ['0'] => some s.name
  | _ =>
    match Number.readNat? 10 name with
    | some (n + 1) => s.arguments[n]?
    | some 0 => some s.name
    | none => s.value? name

/-- The arguments as marks. Within quotes each is a field, or all are one. -/
def argumentMarks (s : Shell) (asOne inQuotes : Bool) : List Mark :=
  if asOne && inQuotes then
    let between := s.separators.take 1
    marked true (between.intercalate s.arguments)
  else [Mark.edge].intercalate (s.arguments.map (marked inQuotes))

/-- Marks of a word that takes the place of a value: what is written in it counts
as put in. -/
def substituted (inQuotes : Bool) (marks : List Mark) : List Mark :=
  let changed := marks.map fun mark =>
    match mark with
    | .char c .written => .char c .putIn
    | mark => mark
  if inQuotes then .presence :: changed else changed

/-- The parameter stands for all arguments. -/
def isList (name : Octets) : Bool := name == ['@'] || name == ['*']

mutual

/-- Expand the parts of a word. -/
def expandParts (run : Command → Shell → Octets × Shell) :
    List Part → Shell → List Mark × Shell
  | [], s => ([], s)
  | part :: rest, s =>
    let (marks, s) := expandPart run part s
    if s.proceeds then
      let (more, s) := expandParts run rest s
      (marks ++ more, s)
    else (marks, s)

/-- Expand a part of a word. -/
def expandPart (run : Command → Shell → Octets × Shell) : Part → Shell → List Mark × Shell
  | .written text, s => (text.map fun c => .char c .written, s)
  | .quoted text, s => (.presence :: text.map fun c => .char c .quoted, s)
  | .parameter name use inQuotes, s => expandUse run name inQuotes use s
  | .output body inQuotes, s =>
    let (text, s) := run body s
    let text := (text.reverse.dropWhile (· == '\n')).reverse
    (marked inQuotes (text.filter (· != '\x00')), s)
  | .arithmetic expression inQuotes, s =>
    let (marks, s) := expandParts run expression s
    if s.proceeds then
      let text := plain marks
      match Arithmetic.evaluate s.values text with
      | .ok (number, values) => (marked inQuotes number, { s with values := values })
      | .error problem => ([], s.giveUp 2 (problem.message text))
    else ([], s)

/-- Put a parameter to its use. -/
def expandUse (run : Command → Shell → Octets × Shell) (name : Octets) (inQuotes : Bool) :
    Use → Shell → List Mark × Shell
  | .value, s =>
    if isList name then (argumentMarks s (name == ['*']) inQuotes, s)
    else
      match parameter? s name with
      | some value => (marked inQuotes value, s)
      | none =>
        if s.options.refuseUnset then
          ([], s.giveUp 2 (String.ofList name ++ ": parameter not set"))
        else (marked inQuotes [], s)
  | .length, s =>
    let length :=
      if isList name then s.arguments.length else ((parameter? s name).getD []).length
    (marked inQuotes (toString length).toList, s)
  | .fallback evenEmpty word, s =>
    if isPresent s evenEmpty then (present s, s)
    else
      let (marks, s) := expandParts run word s
      (substituted inQuotes marks, s)
  | .assign evenEmpty word, s =>
    if isPresent s evenEmpty then (present s, s)
    else if !Octets.isName name then
      ([], s.giveUp 2 (String.ofList name ++ ": bad variable name"))
    else
      let (marks, s) := expandParts run word s
      (marked inQuotes (plain marks), s.assign name (plain marks))
  | .require evenEmpty word, s =>
    if isPresent s evenEmpty then (present s, s)
    else
      let (marks, s) := expandParts run word s
      let complaint :=
        if word.isEmpty then
          (if evenEmpty then "parameter not set or null" else "parameter not set")
        else String.ofList (plain marks)
      ([], s.giveUp 2 (String.ofList name ++ ": " ++ complaint))
  | .instead evenEmpty word, s =>
    if isPresent s evenEmpty then
      let (marks, s) := expandParts run word s
      (substituted inQuotes marks, s)
    else (marked inQuotes [], s)
  | .without atEnd longest pattern, s =>
    let (marks, s) := expandParts run pattern s
    (marked inQuotes (without (patternOf marks) atEnd longest ((parameter? s name).getD [])), s)
  | .invalid, s => ([], s.giveUp 2 "Bad substitution")
where
  /-- The parameter has a value that counts. -/
  isPresent (s : Shell) (evenEmpty : Bool) : Bool :=
    if isList name then !s.arguments.isEmpty
    else
      match parameter? s name with
      | none => false
      | some value => !(evenEmpty && value.isEmpty)
  /-- The value of the parameter. -/
  present (s : Shell) : List Mark :=
    if isList name then argumentMarks s (name == ['*']) inQuotes
    else marked inQuotes ((parameter? s name).getD [])

end

/-- Expand a word to one text. -/
def expandText (run : Command → Shell → Octets × Shell) (word : Word) (s : Shell) :
    Octets × Shell :=
  let (marks, s) := expandParts run word s
  (plain marks, s)

/-- Expand words to fields, and fields to the paths that they name. -/
def expandWords (run : Command → Shell → Octets × Shell) :
    List Word → Shell → List Octets × Shell
  | [], s => ([], s)
  | word :: rest, s =>
    let (marks, s) := expandParts run word s
    if s.proceeds then
      let found := (divide s.separators marks).flatMap (wordsOf s)
      let (more, s) := expandWords run rest s
      (found ++ more, s)
    else ([], s)

end Expansion

end LayeredConfig.Script
