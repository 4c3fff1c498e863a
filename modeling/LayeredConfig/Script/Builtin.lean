import LayeredConfig.Script.Condition
import LayeredConfig.Script.Format

/-!
# Commands of the shell itself

The commands that change the shell, or that only need its state: directories,
variables, arguments, input, output, conditions, loops and signals.
-/

namespace LayeredConfig.Script.Builtin

/-- Complain in the name of a command. -/
def refuse (command : String) (s : Shell) (status : Nat) (message : String) : Shell :=
  s.complain status (s.place ++ command ++ ": " ++ message)

/-- Complain in the name of a command and exit. -/
def giveUp (command : String) (s : Shell) (message : String) : Shell :=
  (refuse command s 2 message).exit 2

/-- A path without steps that lead nowhere or back. -/
def normalized (path : Octets) : Octets :=
  let steps := (Text.splitAtChar '/' path).foldl
    (fun (steps : List Octets) step =>
      if step = [] ∨ step = ['.'] then steps
      else if step = ['.', '.'] then steps.drop 1
      else step :: steps) []
  '/' :: ['/'].intercalate steps.reverse

/-- The path of the current directory. -/
def currentPath (s : Shell) : Octets := Octets.ofText (Location.path s.tree.current).text

/-- The current directory as it was reached. -/
def reachedPath (s : Shell) : Octets := (s.value? "PWD".toList).getD (currentPath s)

/-- Change the directory. -/
def cd (s : Shell) (arguments : List String) : Shell :=
  let words := arguments.filter fun argument => !(["-L", "-P", "--"].contains argument)
  let wanted : Option Octets :=
    match words with
    | [] => s.value? "HOME".toList
    | "-" :: _ => s.value? "OLDPWD".toList
    | word :: _ => some word.toList
  match wanted with
  | none => refuse "cd" s 2 ((if words.isEmpty then "HOME" else "OLDPWD") ++ " not set")
  | some [] => s.withStatus 0
  | some target =>
    let before := reachedPath s
    match s.tree.existing? (Shell.pathOf target) with
    | .ok (at_, .directory) =>
      let reached :=
        if target.head? = some '/' then normalized target
        else normalized (before ++ '/' :: target)
      let s := { s with tree := { s.tree with current := at_ } }
      let reached := if arguments.contains "-P" then currentPath s else reached
      let s := (s.assign "OLDPWD".toList before).assign "PWD".toList reached
      let s := if words = ["-"] then s.write 1 (reached ++ ['\n']) else s
      s.withStatus 0
    | _ => refuse "cd" s 2 ("can't cd to " ++ String.ofList target)

/-- Write the current directory. -/
def pwd (s : Shell) (arguments : List String) : Shell :=
  let path := if arguments.contains "-P" then currentPath s else reachedPath s
  (s.write 1 (path ++ ['\n'])).withStatus 0

/-- Write words. -/
def echo (s : Shell) (arguments : List String) : Shell :=
  (s.write 1 (Format.echo (arguments.map String.toList))).withStatus 0

/-- Write arguments by a format. -/
def printf (s : Shell) (arguments : List String) : Shell :=
  match arguments with
  | "--" :: format :: rest => write format rest
  | format :: rest => write format rest
  | [] => refuse "printf" s 2 "usage: printf format [arg ...]"
where
  /-- Write a format with its arguments. -/
  write (format : String) (rest : List String) : Shell :=
    let (text, complaints, status) := Format.printf format.toList (rest.map String.toList)
    let s := s.write 1 text
    let s := complaints.foldl (fun s text => refuse "printf" s 1 (String.ofList text)) s
    s.withStatus status

/-- Evaluate a condition. -/
def test (command : String) (s : Shell) (arguments : List String) : Shell :=
  match Condition.evaluate s.tree arguments with
  | .ok truth => s.withSuccess truth
  | .error problem => refuse command s 2 problem.message

/-- Evaluate a condition in brackets. -/
def bracket (s : Shell) (arguments : List String) : Shell :=
  if arguments.getLast? = some "]" then test "[" s arguments.dropLast
  else refuse "[" s 2 "missing ]"

/-- A word in single quotes. -/
def inQuotes (text : Octets) : String :=
  "'" ++ (String.ofList text).replace "'" "'\"'\"'" ++ "'"

/-- A name and the value assigned to it, if there is one. -/
def assignment (argument : String) : Octets × Option Octets :=
  let name := argument.toList.takeWhile (· != '=')
  match argument.toList.dropWhile (· != '=') with
  | _ :: value => (name, some value)
  | [] => (name, none)

/-- Assign to variables and do something more with their names. -/
def forNames (command : String) (s : Shell) (arguments : List String)
    (more : Shell → Octets → Shell) : Shell :=
  arguments.foldl
    (fun s argument =>
      if !s.proceeds then s
      else
        match assignment argument with
        | (name, value) =>
          if !Octets.isName name then
            match name with
            | '-' :: letter :: _ =>
              giveUp command s ("Illegal option -" ++ String.singleton letter)
            | _ => giveUp command s (String.ofList name ++ ": bad variable name")
          else
            match value with
            | some value => (more s name).assign name value
            | none => more s name)
    (s.withStatus 0)

/-- Let commands inherit variables. -/
def export_ (s : Shell) (arguments : List String) : Shell :=
  match arguments.filter (· != "-p") with
  | [] =>
    (s.say (String.join (s.inherited.entries.map fun (name, value) =>
      "export " ++ String.ofList name ++ "=" ++ inQuotes value ++ "\n"))).withStatus 0
  | names => forNames "export" s names Shell.share

/-- Assign to variables for good. -/
def readonly (s : Shell) (arguments : List String) : Shell :=
  forNames "readonly" s (arguments.filter (· != "-p")) fun s _ => s

/-- Hide variables within a function. -/
def local_ (s : Shell) (arguments : List String) : Shell :=
  match s.hidden with
  | [] => giveUp "local" s "not in a function"
  | frame :: frames =>
    let names := arguments.map fun argument => (assignment argument).1
    let s := { s with hidden := (names.map fun name => (name, s.value? name)).reverse ++ frame
                                  |> (· :: frames) }
    forNames "local" s arguments fun s _ => s

/-- Take variables or functions away. -/
def unset (s : Shell) (arguments : List String) : Shell :=
  let functions := arguments.contains "-f"
  (arguments.filter fun argument => !(["-f", "-v"].contains argument)).foldl
    (fun s name =>
      if functions then
        { s with functions := s.functions.filter fun entry => entry.1 != name.toList }
      else s.unassign name.toList)
    (s.withStatus 0)

/-- Set or clear an option by its letter. -/
def setOption (on : Bool) (o : Options) : Char → Options
  | 'e' => { o with exitOnFailure := on }
  | 'u' => { o with refuseUnset := on }
  | 'x' => { o with showCommands := on }
  | 'f' => { o with withoutWildcards := on }
  | _ => o

/-- The letter of an option with a name. -/
def optionLetter : String → Char
  | "errexit" => 'e'
  | "nounset" => 'u'
  | "xtrace" => 'x'
  | "noglob" => 'f'
  | _ => ' '

/-- Set options in front of arguments, and the arguments if there are any. -/
def setFrom : Nat → Shell → List String → Shell
  | 0, s, _ => s
  | _ + 1, s, [] => s
  | fuel + 1, s, argument :: rest =>
    match argument.toList with
    | ['-', '-'] => { s with arguments := rest.map String.toList }
    | ['-'] =>
      if rest.isEmpty then s else { s with arguments := rest.map String.toList }
    | ['-', 'o'] => named fuel s true rest
    | ['+', 'o'] => named fuel s false rest
    | '-' :: letters =>
      setFrom fuel { s with options := letters.foldl (setOption true) s.options } rest
    | '+' :: letters =>
      setFrom fuel { s with options := letters.foldl (setOption false) s.options } rest
    | _ => { s with arguments := (argument :: rest).map String.toList }
where
  /-- Set or clear an option by its name. -/
  named (fuel : Nat) (s : Shell) (on : Bool) (rest : List String) : Shell :=
    match rest with
    | name :: rest =>
      setFrom fuel { s with options := setOption on s.options (optionLetter name) } rest
    | [] => s

/-- Set options and arguments; without any, write the variables. -/
def set (s : Shell) (arguments : List String) : Shell :=
  match arguments with
  | [] =>
    (s.say (String.join (s.values.entries.map fun (name, value) =>
      String.ofList name ++ "=" ++ inQuotes value ++ "\n"))).withStatus 0
  | arguments => (setFrom (arguments.length + 1) s arguments).withStatus 0

/-- A number in decimal digits. -/
def natural? (text : String) : Option Nat := Number.readNat? 10 text.toList

/-- Do something with a number that may be given, or give up. -/
def withNumber (command : String) (standard : Nat) (s : Shell) (arguments : List String)
    (go : Nat → Shell) : Shell :=
  match arguments with
  | [] => go standard
  | text :: _ =>
    match natural? text with
    | some n => go n
    | none => giveUp command s ("Illegal number: " ++ text)

/-- Drop arguments. -/
def shift (s : Shell) (arguments : List String) : Shell :=
  withNumber "shift" 1 s arguments fun n =>
    if s.arguments.length < n then giveUp "shift" s "can't shift that many"
    else { s with arguments := s.arguments.drop n }.withStatus 0

/-- Exit. -/
def exit (s : Shell) (arguments : List String) : Shell :=
  withNumber "exit" s.status s arguments s.exit

/-- Leave a function or a script that is read in. -/
def return_ (s : Shell) (arguments : List String) : Shell :=
  withNumber "return" s.status s arguments fun n =>
    { s.withStatus n with control := .leaveFunction }

/-- Go on behind loops or with one of them. Outside of loops nothing happens. -/
def leaving (s : Shell) (count : Nat) (way : Nat → Control) : Shell :=
  if s.loops = 0 then s.withStatus 0
  else { s.withStatus 0 with control := way (min count s.loops) }

/-- Leave loops. -/
def break_ (s : Shell) (arguments : List String) : Shell :=
  withNumber "break" 1 s arguments fun n => leaving s n .leaveLoops

/-- Go on with the next round of a loop. -/
def continue_ (s : Shell) (arguments : List String) : Shell :=
  withNumber "continue" 1 s arguments fun n => leaving s n .nextRound

/-- Take the backslashes away that quote a character. -/
def unquoted : Octets → Octets
  | '\\' :: c :: rest => c :: unquoted rest
  | c :: rest => c :: unquoted rest
  | [] => []

/-- Read a line, with the lines that follow an escaped line feed. -/
def readJoined (raw : Bool) : Nat → Shell → Octets × Bool × Shell
  | 0, s => ([], false, s)
  | fuel + 1, s =>
    let (line, complete, s) := s.readLine
    let escaped := (line.reverse.takeWhile (· == '\\')).length % 2 == 1
    if !raw && complete && escaped then
      let (more, complete, s) := readJoined raw fuel s
      (line.dropLast ++ more, complete, s)
    else (line, complete, s)

/-- Assign the fields of a line to names. The last name gets the rest. -/
def assignFields (separators : Octets) (text : Octets → Octets) : List String → Octets → Shell → Shell
  | [], _, s => s
  | [name], line, s =>
    let blank (c : Char) : Bool := separators.contains c && (Octets.isBlank c || c == '\n')
    let trimmed := ((line.dropWhile blank).reverse.dropWhile blank).reverse
    s.assign name.toList (text trimmed)
  | name :: names, line, s =>
    let blank (c : Char) : Bool := separators.contains c && (Octets.isBlank c || c == '\n')
    let line := line.dropWhile blank
    let field := line.takeWhile fun c => !separators.contains c
    let behind := (line.drop field.length).dropWhile blank
    let behind :=
      match behind with
      | c :: rest => if separators.contains c && !blank c then rest else behind
      | [] => []
    assignFields separators text names behind (s.assign name.toList (text field))

/-- Read a line into variables. -/
def read (s : Shell) (arguments : List String) : Shell :=
  let raw := arguments.contains "-r"
  let names := arguments.filter (· != "-r")
  if names.isEmpty then refuse "read" s 2 "arg count"
  else
    let (line, complete, s) := readJoined raw 1000 s
    let s := assignFields s.separators (if raw then id else unquoted) names line s
    s.withSuccess complete

/-- The signals with their names. -/
def signals : List (String × Nat) :=
  [ ("EXIT", 0), ("HUP", 1), ("INT", 2), ("QUIT", 3), ("ILL", 4), ("TRAP", 5), ("ABRT", 6),
    ("BUS", 7), ("FPE", 8), ("KILL", 9), ("USR1", 10), ("SEGV", 11), ("USR2", 12), ("PIPE", 13),
    ("ALRM", 14), ("TERM", 15), ("STKFLT", 16), ("CHLD", 17), ("CONT", 18), ("STOP", 19),
    ("TSTP", 20), ("TTIN", 21), ("TTOU", 22), ("URG", 23), ("XCPU", 24), ("XFSZ", 25),
    ("VTALRM", 26), ("PROF", 27), ("WINCH", 28), ("IO", 29), ("PWR", 30), ("SYS", 31) ]

/-- The signals that do nothing by themselves. -/
def harmless : List Nat := [0, 17, 18, 23, 28]

/-- The number of the last signal. -/
def greatestSignal : Nat := 64

/-- The number of a signal. -/
def signal? (text : String) : Option Nat :=
  match natural? text with
  | some n => if n ≤ greatestSignal then some n else none
  | none =>
    let upper := text.toList.map Char.toUpper
    let name := if "SIG".toList.isPrefixOf upper then upper.drop 3 else upper
    (signals.find? fun entry => entry.1.toList == name).map Prod.snd

/-- What a signal does to the shell that it is sent to. -/
def receive (s : Shell) (signal : Nat) : Shell :=
  match s.traps.find? fun trap => trap.1 == signal && signal != 9 && signal != 0 with
  | some (_, action) =>
    if action.isEmpty then s else { s with raised := s.raised ++ [action] }
  | none => if harmless.contains signal then s else { s with control := .killed signal }

/-- Send a signal. -/
def kill (s : Shell) (arguments : List String) : Shell :=
  let send (signal : Nat) (targets : List String) : Shell :=
    targets.foldl
      (fun s target =>
        if !s.proceeds then s
        else if target = toString s.process ∨ target = "0" then receive s signal
        else if (s.background.map toString) == some target then s
        else
          match Number.readSigned? 10 target.toList with
          | some _ => refuse "kill" s 1 "No such process\n"
          | none => refuse "kill" s 2 ("Illegal number: " ++ target))
      (s.withStatus 0)
  match arguments with
  | [] => refuse "kill" s 2 "Usage: kill [-s sigspec | -signum | -sigspec] [pid | job]... or\nkill -l [exitstatus]"
  | "-s" :: name :: targets =>
    match signal? name with
    | some signal => send signal targets
    | none => refuse "kill" s 2 ("invalid signal number or name: " ++ name)
  | "--" :: targets => send 15 targets
  | first :: targets =>
    match first.toList with
    | '-' :: letter :: name =>
      match signal? (String.ofList (letter :: name)) with
      | some signal => send signal targets
      | none => refuse "kill" s 2 ("Illegal option -" ++ String.singleton letter)
    | _ => send 15 (first :: targets)

/-- Set what is run when signals arrive. -/
def trap (s : Shell) (arguments : List String) : Shell :=
  let without (s : Shell) (signal : Nat) : List (Nat × Octets) :=
    s.traps.filter fun trap => trap.1 != signal
  match arguments.filter (· != "--") with
  | [] => s.withStatus 0
  | action :: names =>
    let reset := action = "-" ∨ names.isEmpty
    (if names.isEmpty then [action] else names).foldl
      (fun s name =>
        match signal? name with
        | none => refuse "trap" s 1 (name ++ ": bad trap")
        | some signal =>
          if reset then { s with traps := without s signal }
          else { s with traps := (signal, action.toList) :: without s signal })
      (s.withStatus 0)

/-- Write the bits that new files lack. -/
def umask (s : Shell) (arguments : List String) : Shell :=
  (if arguments.isEmpty then s.say "0022\n" else s).withStatus 0

/-- Do nothing, successfully or not. -/
def idle (status : Nat) (s : Shell) (_ : List String) : Shell := s.withStatus status

/-- The commands that set the shell itself, for which assignments in front stay. -/
def special : List (String × (Shell → List String → Shell)) :=
  [ (":", idle 0), ("break", break_), ("continue", continue_), ("exit", exit),
    ("export", export_), ("readonly", readonly), ("return", return_), ("set", set),
    ("shift", shift), ("times", idle 0), ("trap", trap), ("unset", unset) ]

/-- The other commands of the shell itself. -/
def ordinary : List (String × (Shell → List String → Shell)) :=
  [ ("true", idle 0), ("false", idle 1), ("echo", echo), ("printf", printf), ("test", test "test"),
    ("[", bracket), ("cd", cd), ("pwd", pwd), ("local", local_), ("read", read), ("kill", kill),
    ("umask", umask), ("wait", idle 0), ("hash", idle 0), ("ulimit", idle 0) ]

end LayeredConfig.Script.Builtin
