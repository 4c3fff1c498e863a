import LayeredConfig.Files.Access
import LayeredConfig.Script.Arithmetic
import LayeredConfig.Script.Command

/-!
# The state of a shell

A shell works on a file tree and on streams, which it reaches through numbered
descriptors. It remembers variables, functions and arguments, and how the last
command went.
-/

namespace LayeredConfig.Script

/-- What a descriptor leads to. -/
inductive Stream where
  /-- Nothing is read, and what is written is lost. -/
  | nothing
  /-- What is written is gathered, the latest first. -/
  | gathered (texts : List Octets)
  /-- What is still to be read. -/
  | pending (rest : Octets)
  /-- A file, with the place where it is read or written. -/
  | file (at_ : Location) (position : Nat) (atEnd : Bool)
  deriving DecidableEq, Repr, Inhabited

/-- What was gathered. -/
def Stream.text : Stream → Octets
  | .gathered texts => texts.reverse.flatten
  | _ => []

/-- How a shell goes on behind a command. -/
inductive Control where
  /-- With the next command. -/
  | proceed
  /-- Out of loops, as many as given. -/
  | leaveLoops (count : Nat)
  /-- With the next round of a loop, out of the loops inside. -/
  | nextRound (count : Nat)
  /-- Out of a function. -/
  | leaveFunction
  /-- Not at all: it exits. -/
  | exited
  /-- Not at all: a signal ended it. -/
  | killed (signal : Nat)
  deriving DecidableEq, Repr

/-- The options of a shell. -/
structure Options where
  /-- A failing command ends the shell. -/
  exitOnFailure : Bool
  /-- A variable without a value is an error. -/
  refuseUnset : Bool
  /-- Commands are shown before they run. -/
  showCommands : Bool
  /-- Wildcards stand for themselves. -/
  withoutWildcards : Bool
  deriving DecidableEq, Repr

/-- No option is set. -/
def Options.none : Options := ⟨false, false, false, false⟩

/-- A shell. -/
structure Shell where
  /-- The files, and the current directory. -/
  tree : FileTree
  /-- All streams that were opened. -/
  streams : Array Stream
  /-- The descriptors with the numbers of their streams. -/
  descriptors : List (Nat × Nat)
  /-- The variables. -/
  values : Values
  /-- The variables that commands inherit. -/
  exported : List Octets
  /-- The functions, the latest first. -/
  functions : List (Octets × Command)
  /-- The variables of the functions that are running, with what they hid. -/
  hidden : List (List (Octets × Option Octets))
  /-- The name of the shell or its script. -/
  name : Octets
  /-- The arguments. -/
  arguments : List Octets
  /-- The status of the last command. -/
  status : Nat
  /-- The number of the process. -/
  process : Nat
  /-- The number of the last process in the background. -/
  background : Option Nat
  /-- The line of the command. -/
  line : Nat
  /-- The options. -/
  options : Options
  /-- What is run when a signal arrives; zero stands for the end of the shell. -/
  traps : List (Nat × Octets)
  /-- What is to be run because a signal arrived. -/
  raised : List Octets
  /-- The status of the last commands whose output was put in. -/
  outputStatus : Option Nat
  /-- The loops that are running. -/
  loops : Nat
  /-- The command that speaks where the shell has something to say. -/
  speaker : Option String
  /-- The shell is a part of another one. -/
  nested : Bool
  /-- How it goes on. -/
  control : Control

namespace Shell

/-- The shell goes on with the next command. -/
def proceeds (s : Shell) : Bool := s.control == .proceed

/-- Set the status. -/
def withStatus (s : Shell) (status : Nat) : Shell := { s with status := status }

/-- Set the status by success. -/
def withSuccess (s : Shell) (success : Bool) : Shell := s.withStatus (if success then 0 else 1)

/-- Exit with a status. -/
def exit (s : Shell) (status : Nat) : Shell :=
  { s with status := status % 256, control := .exited }

/-- Open a stream. -/
def opened (s : Shell) (stream : Stream) : Nat × Shell :=
  (s.streams.size, { s with streams := s.streams.push stream })

/-- Let a descriptor lead to a stream. -/
def connect (s : Shell) (descriptor stream : Nat) : Shell :=
  { s with
    descriptors := (descriptor, stream) :: s.descriptors.filter fun entry => entry.1 != descriptor }

/-- Close a descriptor. -/
def close (s : Shell) (descriptor : Nat) : Shell :=
  { s with descriptors := s.descriptors.filter fun entry => entry.1 != descriptor }

/-- The number of the stream of a descriptor. -/
def streamOf? (s : Shell) (descriptor : Nat) : Option Nat :=
  (s.descriptors.find? fun entry => entry.1 == descriptor).map Prod.snd

/-- Replace a stream. -/
def setStream (s : Shell) (number : Nat) (stream : Stream) : Shell :=
  { s with streams := s.streams.setIfInBounds number stream }

/-- The octets of a file at a location. -/
def fileOctets (s : Shell) (at_ : Location) : Octets :=
  match s.tree.node? at_ with
  | some (.file _ content) => Octets.ofBytes content
  | _ => []

/-- Replace the octets of a file at a location. One that is gone stays gone. -/
def setFileOctets (s : Shell) (at_ : Location) (octets : Octets) : Shell :=
  match s.tree.node? at_ with
  | some (.file mode _) =>
    { s with tree := s.tree.put at_ (.file mode (Octets.toBytes octets)) }
  | _ => s

/-- Write to a descriptor. -/
def write (s : Shell) (descriptor : Nat) (text : Octets) : Shell :=
  match s.streamOf? descriptor with
  | none => s
  | some number =>
    match s.streams[number]? with
    | some (.gathered texts) => s.setStream number (.gathered (text :: texts))
    | some (.file at_ position atEnd) =>
      let octets := s.fileOctets at_
      let position := if atEnd then octets.length else position
      let gap := List.replicate (position - octets.length) '\x00'
      let written :=
        octets.take position ++ gap ++ text ++ octets.drop (position + text.length)
      (s.setFileOctets at_ written).setStream number
        (.file at_ (position + text.length) atEnd)
    | _ => s

/-- Write to standard output. -/
def say (s : Shell) (text : String) : Shell := s.write 1 text.toList

/-- Write a line to standard error and set a status. -/
def complain (s : Shell) (status : Nat) (message : String) : Shell :=
  (s.write 2 (message ++ "\n").toList).withStatus status

/-- The name and the line of the shell, in front of a message of its own. -/
def place (s : Shell) : String :=
  String.ofList s.name ++ ": " ++ toString s.line ++ ": "

/-- Complain in the name of the shell, or of the command that speaks for it. -/
def complainHere (s : Shell) (status : Nat) (message : String) : Shell :=
  match s.speaker with
  | some speaker => s.complain status (s.place ++ speaker ++ ": " ++ message)
  | none => s.complain status (s.place ++ message)

/-- Complain in the name of the shell and exit. -/
def giveUp (s : Shell) (status : Nat) (message : String) : Shell :=
  (s.complainHere status message).exit status

/-- Read all that is left of a stream. -/
def readStream (s : Shell) (number : Nat) : Octets × Shell :=
  match s.streams[number]? with
  | some (.pending rest) => (rest, s.setStream number (.pending []))
  | some (.file at_ position atEnd) =>
    let octets := s.fileOctets at_
    (octets.drop position, s.setStream number (.file at_ octets.length atEnd))
  | _ => ([], s)

/-- Put back the end of what was read from a stream. -/
def putBack (s : Shell) (number : Nat) (rest : Octets) : Shell :=
  match s.streams[number]? with
  | some (.pending _) => s.setStream number (.pending rest)
  | some (.file at_ position atEnd) =>
    s.setStream number (.file at_ (position - rest.length) atEnd)
  | _ => s

/-- Read all that is left of standard input. -/
def readInput (s : Shell) : Octets × Shell :=
  match s.streamOf? 0 with
  | some number => s.readStream number
  | none => ([], s)

/-- Read a line of standard input. It is complete if a line feed ends it. -/
def readLine (s : Shell) : Octets × Bool × Shell :=
  match s.streamOf? 0 with
  | none => ([], false, s)
  | some number =>
    let (text, s) := s.readStream number
    let line := text.takeWhile (· != '\n')
    match text.dropWhile (· != '\n') with
    | [] => (line, false, s)
    | _ :: rest => (line, true, s.putBack number rest)

/-- The path that octets write. -/
def pathOf (octets : Octets) : Path := ⟨Octets.toText octets⟩

/-- The file that swallows everything. -/
def nullDevice : String := "/dev/null"

/-- The files that stand for descriptors. -/
def descriptorFiles : List (String × Nat) :=
  [ ("/dev/stdin", 0), ("/dev/stdout", 1), ("/dev/stderr", 2), ("/dev/fd/0", 0), ("/dev/fd/1", 1),
    ("/dev/fd/2", 2) ]

/-- The value of a variable. -/
def value? (s : Shell) (name : Octets) : Option Octets := s.values.get? name

/-- Assign to a variable. -/
def assign (s : Shell) (name value : Octets) : Shell :=
  { s with values := s.values.insert name value }

/-- Take the value of a variable away. -/
def unassign (s : Shell) (name : Octets) : Shell :=
  { s with
    values := s.values.filter fun key _ => key != name
    exported := s.exported.filter (· != name) }

/-- Let commands inherit a variable. -/
def share (s : Shell) (name : Octets) : Shell :=
  if s.exported.contains name then s else { s with exported := s.exported ++ [name] }

/-- The variables that commands inherit, with their values. -/
def inherited (s : Shell) : Values := s.values.filter fun key _ => s.exported.contains key

/-- The separators of fields. -/
def separators (s : Shell) : Octets := (s.value? "IFS".toList).getD " \t\n".toList

/-- The message of a file error, as a program tells it. -/
def fileMessage : FileError → String
  | .notFound => "No such file or directory"
  | .isADirectory => "Is a directory"
  | .notADirectory => "Not a directory"
  | .alreadyExists => "File exists"
  | .invalidData => "Invalid or incomplete multibyte or wide character"
  | .tooManyLinks => "Too many levels of symbolic links"
  | .directoryNotEmpty => "Directory not empty"

/-- The message of a file error, as a shell tells it of a redirection. -/
def openMessage (missing : String) : FileError → String
  | .notFound => missing
  | .notADirectory => missing
  | e => fileMessage e

/-- The stream that reads a file. -/
def inputStream (s : Shell) (target : Octets) : Except FileError Stream :=
  if String.ofList target = nullDevice then .ok .nothing
  else
    match s.tree.existing? (pathOf target) with
    | .ok (at_, _) => .ok (.file at_ 0 false)
    | .error e => .error e

/-- The stream that writes a file, with the tree in which the file exists. An
existing file loses its content unless it is kept. -/
def outputStream (s : Shell) (target : Octets) (keep atEnd : Bool) :
    Except FileError (Stream × FileTree) :=
  if String.ofList target = nullDevice then .ok (.nothing, s.tree)
  else
    match s.tree.locate true (pathOf target) with
    | .error e => .error e
    | .ok (_, some .directory) => .error .isADirectory
    | .ok (at_, node) =>
      if keep && node.isSome then .ok (.file at_ 0 atEnd, s.tree)
      else
        match s.tree.store (pathOf target) ByteArray.empty with
        | .ok tree => .ok (.file at_ 0 atEnd, tree)
        | .error e => .error e

/-- Redirect a descriptor, or say why that is impossible. -/
def redirect (s : Shell) (descriptor : Nat) (direction : Direction) (target : Octets) :
    Except String Shell :=
  let attach (stream : Stream) (s : Shell) : Shell :=
    let (number, s) := s.opened stream
    s.connect descriptor number
  let create (keep atEnd : Bool) : Except String Shell :=
    match s.outputStream target keep atEnd with
    | .ok (stream, tree) => .ok (attach stream { s with tree := tree })
    | .error e =>
      .error ("cannot create " ++ String.ofList target ++ ": " ++
        openMessage "Directory nonexistent" e)
  let device := (descriptorFiles.find? fun entry => entry.1.toList == target).bind fun entry =>
    s.streamOf? entry.2
  match direction, device with
  | .document, _ => .ok (attach (.pending target) s)
  | .share, _ =>
    if target = ['-'] then .ok (s.close descriptor)
    else
      match Number.readNat? 10 target with
      | none => .error ("Syntax error: Bad fd number")
      | some other =>
        match s.streamOf? other with
        | some number => .ok (s.connect descriptor number)
        | none => .error (String.ofList target ++ ": Bad file descriptor")
  | _, some number => .ok (s.connect descriptor number)
  | .input, none =>
    match s.inputStream target with
    | .ok stream => .ok (attach stream s)
    | .error e =>
      .error ("cannot open " ++ String.ofList target ++ ": " ++ openMessage "No such file" e)
  | .output, none => create false false
  | .append, none => create true true
  | .update, none => create true false

/-- The shell as it starts on its own: nothing runs at its end. -/
def branched (s : Shell) : Shell :=
  { s with traps := s.traps.filter fun trap => trap.2.isEmpty, nested := true }

/-- A shell that another one starts: it has the variables that are inherited,
and a name and arguments. -/
def child (s : Shell) (name : Octets) (arguments : List Octets) : Shell :=
  { s.branched with
    values := s.inherited
    functions := []
    hidden := []
    name := name
    arguments := arguments
    status := 0
    process := s.process + s.streams.size + 1
    background := none
    line := 1
    options := Options.none
    raised := []
    outputStatus := none
    loops := 0
    speaker := none
    nested := false
    control := .proceed }

/-- What comes back from a shell of its own: the files, all but the current
directory, the streams, and whether a signal ended the process. -/
def absorb (s inner : Shell) : Shell :=
  { s with
    tree := { inner.tree with current := s.tree.current }
    streams := inner.streams
    status := inner.status
    control :=
      match inner.control with
      | .killed signal => .killed signal
      | _ => s.control }

end Shell

end LayeredConfig.Script
