import LayeredConfig.Script.Shell

/-!
# Options and operands

The arguments of a utility: letters behind a hyphen are options, some of which
take a value, and all else are operands. Two hyphens end the options.
-/

namespace LayeredConfig.Script.Utility

/-- The arguments of a utility. -/
structure Operands where
  /-- The options in order, with their values. -/
  options : List (Char × String)
  /-- The operands. -/
  names : List String
  deriving DecidableEq, Repr

namespace Operands

/-- Read the letters of one argument. The value of an option is what follows
it, or the next argument. -/
def readLetters (taking : List Char) : List Char → List String → List (Char × String) × List String
  | [], rest => ([], rest)
  | letter :: letters, rest =>
    if taking.contains letter then
      match letters, rest with
      | [], [] => ([(letter, "")], [])
      | [], value :: rest => ([(letter, value)], rest)
      | letters, rest => ([(letter, String.ofList letters)], rest)
    else
      let (options, rest) := readLetters taking letters rest
      ((letter, "") :: options, rest)

/-- Read arguments. -/
def readAll (taking : List Char) : Nat → List String → Operands
  | 0, _ => ⟨[], []⟩
  | _ + 1, [] => ⟨[], []⟩
  | fuel + 1, argument :: rest =>
    match argument.toList with
    | ['-', '-'] => ⟨[], rest⟩
    | '-' :: letter :: letters =>
      let (options, rest) := readLetters taking (letter :: letters) rest
      let more := readAll taking fuel rest
      ⟨options ++ more.options, more.names⟩
    | _ =>
      let more := readAll taking fuel rest
      ⟨more.options, argument :: more.names⟩

/-- The options and operands of arguments, where some options take a value. -/
def read (taking : String) (arguments : List String) : Operands :=
  readAll taking.toList (arguments.length + 1) arguments

/-- The option is given. -/
def has (o : Operands) (letter : Char) : Bool := o.options.any fun option => option.1 == letter

/-- The value of an option that was given last. -/
def value? (o : Operands) (letter : Char) : Option String :=
  ((o.options.filter fun option => option.1 == letter).getLast?).map Prod.snd

/-- The values of an option. -/
def values (o : Operands) (letter : Char) : List String :=
  (o.options.filter fun option => option.1 == letter).map Prod.snd

end Operands

/-- The path of an operand. -/
def pathOf (name : String) : Path := Shell.pathOf name.toList

/-- The message of a file error. -/
def because (e : FileError) : String := ": " ++ Shell.fileMessage e

/-- The octets of an operand: of a file, or of standard input. -/
def octetsOf (s : Shell) (name : String) : Except FileError Octets × Shell :=
  if name = "-" then
    let (text, s) := s.readInput
    (.ok text, s)
  else if name = Shell.nullDevice then (.ok [], s)
  else
    match s.tree.fetch (pathOf name) with
    | .ok content => (.ok (Octets.ofBytes content), s)
    | .error e => (.error e, s)

/-- Handle each operand in turn; without operands, standard input. -/
def forEachText (s : Shell) (names : List String)
    (failed : Shell → String → FileError → Shell) (handle : Shell → String → Octets → Shell) :
    Shell :=
  (if names.isEmpty then ["-"] else names).foldl
    (fun s name =>
      match octetsOf s name with
      | (.ok text, s) => handle s name text
      | (.error e, s) => failed s name e) s

/-- The lines of octets, and whether a line feed ends the last one. -/
def linesOf (text : Octets) : List Octets × Bool :=
  match text with
  | [] => ([], true)
  | text =>
    let parts := Text.lines text
    if parts.getLast? = some [] then (parts.dropLast, true) else (parts, false)

/-- Lines with a line feed behind each. -/
def ofLines (lines : List Octets) : Octets := lines.flatMap (· ++ ['\n'])

/-- A number that a text writes, or another one. -/
def numberOr (standard : Nat) (text : Option String) : Nat :=
  match text with
  | some text => (Number.readNat? 10 text.toList).getD standard
  | none => standard

end LayeredConfig.Script.Utility
