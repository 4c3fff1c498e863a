import LayeredConfig.Script.Builtin
import LayeredConfig.Script.Expansion
import LayeredConfig.Script.Reader
import LayeredConfig.Script.Utility.Files
import LayeredConfig.Script.Utility.Lines
import LayeredConfig.Script.Utility.Names

/-!
# Running scripts

Commands run one after the other on the state of a shell. Every step counts,
and a script that takes more steps than it is given is ended as by a signal.
-/

namespace LayeredConfig.Script

open Expansion

/-- Where a command stands. -/
structure Context where
  /-- Its status is tested, so that a failure is no surprise. -/
  tested : Bool
  /-- A program takes the place of the shell. -/
  replaces : Bool
  deriving DecidableEq, Repr

namespace Context

/-- A command whose status is tested. -/
def condition : Context := ⟨true, false⟩

/-- A command of its own. -/
def plain : Context := ⟨false, false⟩

end Context

/-- The signal that ends what takes too many steps. -/
def stopSignal : Nat := 9

/-- The utilities that are found by their names. -/
def utilities : List (String × (Shell → List String → Shell)) :=
  [ ("basename", Utility.basename), ("cat", Utility.cat), ("chmod", Utility.chmod),
    ("cp", Utility.cp), ("cut", Utility.cutFields), ("dirname", Utility.dirname),
    ("egrep", Utility.grep true false), ("fgrep", Utility.grep false true),
    ("find", Utility.find), ("grep", Utility.grep false false), ("head", Utility.head), ("ln", Utility.ln),
    ("ls", Utility.ls), ("mkdir", Utility.mkdir), ("mv", Utility.mv),
    ("readlink", Utility.readlink), ("realpath", fun s names => Utility.readlink s ("-f" :: names)),
    ("rm", Utility.rm), ("rmdir", Utility.rmdir), ("seq", Utility.seq),
    ("sleep", Builtin.idle 0), ("sort", Utility.sort), ("stat", Utility.stat),
    ("sync", Builtin.idle 0),
    ("tail", Utility.tail), ("tee", Utility.tee), ("touch", Utility.touch), ("tr", Utility.tr),
    ("uniq", Utility.uniq), ("unlink", Utility.rm), ("wc", Utility.wc) ]

/-- What a name leads to in a table. -/
def lookUp {α : Type} (table : List (String × α)) (name : String) : Option α :=
  (table.find? fun entry => entry.1 == name).map Prod.snd

/-- The names of shells. -/
def shellNames : List String := ["sh", "dash", "bash", "ash", "ksh"]

/-- The utilities that run other commands. -/
def runningNames : List String := shellNames ++ ["env", "xargs", "nohup"]

/-- The directories of the utilities. -/
def utilityDirectories : List String := ["/bin/", "/usr/bin/"]

/-- The name of a utility behind its directory. -/
def utilityName (name : String) : String :=
  match utilityDirectories.find? fun directory => directory.toList.isPrefixOf name.toList with
  | some directory => String.ofList (name.toList.drop directory.length)
  | none => name

/-- The utility exists. -/
def isUtility (name : String) : Bool :=
  (lookUp utilities name).isSome || runningNames.contains name ||
    ["true", "false", "echo", "printf", "test", "[", "pwd", "kill"].contains name

/-- The commands of the shell itself that run other commands. -/
def runningBuiltins : List String := ["eval", ".", "exec", "command", "type"]

/-- What a shell says of a child that a signal ended. -/
def signalText : Nat → Option String
  | 1 => some "Hangup"
  | 3 => some "Quit"
  | 6 => some "Aborted"
  | 9 => some "Killed"
  | 10 => some "User defined signal 1"
  | 11 => some "Segmentation fault"
  | 12 => some "User defined signal 2"
  | 14 => some "Alarm clock"
  | 15 => some "Terminated"
  | 4 => some "Illegal instruction"
  | 5 => some "Trace/breakpoint trap"
  | 7 => some "Bus error"
  | 8 => some "Floating point exception"
  | 30 => some "Power failure"
  | 31 => some "Bad system call"
  | _ => none

/-- The status of a child that a signal ended. -/
def signalStatus (signal : Nat) : Nat := 128 + signal

/-- Take over how a child ended. One that takes the place of the shell ends it
in the same way. -/
def Shell.reap (s child : Shell) (c : Context) : Shell :=
  let back := s.absorb { child with control := .proceed }
  match child.control with
  | .killed signal =>
    if c.replaces && !s.nested then { back with control := .killed signal }
    else
      let back := back.withStatus (signalStatus signal)
      match signalText signal with
      | some text => back.write 2 (text ++ "\n").toList
      | none => back
  | _ => back

/-- Show a command with the values that were assigned, if that is asked for. -/
def Shell.shown (s : Shell) (assignments : List (Octets × Word)) (words : List String) : Shell :=
  if !s.options.showCommands || (assignments.isEmpty && words.isEmpty) then s
  else
    let assigned := assignments.map fun entry =>
      String.ofList entry.1 ++ "=" ++ String.ofList ((s.value? entry.1).getD [])
    s.write 2 ("+ " ++ " ".intercalate (assigned ++ words) ++ "\n").toList

/-- One loop more is running. -/
def Shell.inLoop (s : Shell) : Shell := { s with loops := s.loops + 1 }

/-- What is left of a loop behind a round: whether it goes on, and the shell. -/
def Shell.afterRound (s : Shell) : Bool × Shell :=
  let s := { s with loops := s.loops - 1 }
  match s.control with
  | .proceed => (true, s)
  | .leaveLoops n =>
    (false, { s with control := if n ≤ 1 then .proceed else .leaveLoops (n - 1) })
  | .nextRound n =>
    if n ≤ 1 then (true, { s with control := .proceed })
    else (false, { s with control := .nextRound (n - 1) })
  | _ => (false, s)

/-- Let a failure end the shell, if that is asked for and nothing tests it. -/
def Shell.checked (s : Shell) (c : Context) : Shell :=
  if s.options.exitOnFailure && !c.tested && s.status != 0 && s.proceeds then s.exit s.status
  else s

/-- Bring variables back to values they had. -/
def Shell.restored (s : Shell) (saved : List (Octets × Option Octets × Bool)) : Shell :=
  saved.foldl
    (fun s (name, value, shared) =>
      let s := s.unassign name
      let s :=
        match value with
        | some value => s.assign name value
        | none => s
      if shared then s.share name else s) s

/-- The variables with their values, and whether they are inherited. -/
def Shell.saved (s : Shell) (names : List Octets) : List (Octets × Option Octets × Bool) :=
  (names.map fun name => (name, s.value? name, s.exported.contains name)).reverse

/-- The interpreter that the first line of a file names, with its arguments. -/
def interpreter? (content : Octets) : Option (List String) :=
  match content with
  | '#' :: '!' :: rest =>
    let line := rest.takeWhile (· != '\n')
    some (((Text.splitAtChar ' ' line).filter (!·.isEmpty)).map String.ofList)
  | _ => none

/-- The words of a text between blanks and line feeds. -/
def wordsIn (text : Octets) : List String :=
  let joined := text.map fun c => if c == '\n' || c == '\t' then ' ' else c
  ((Text.splitAtChar ' ' joined).filter (!·.isEmpty)).map String.ofList

/-- What a name stands for as a command, as the shell tells it. -/
def commandPath? (s : Shell) (name : String) : Option String :=
  if (s.functions.find? fun entry => entry.1 == name.toList).isSome then some name
  else if (lookUp Builtin.special name).isSome || (lookUp Builtin.ordinary name).isSome ||
      runningBuiltins.contains name then some name
  else if isUtility name then some ("/usr/bin/" ++ name)
  else if name.toList.contains '/' && s.tree.isFile (Shell.pathOf name.toList) then some name
  else none

/-- The options and operands of a shell that is started: letters, whether a
script follows as an argument, and the rest. -/
def shellArguments : List String → List Char × List String
  | [] => ([], [])
  | argument :: rest =>
    match argument.toList with
    | ['-', '-'] => ([], rest)
    | '-' :: letter :: letters =>
      let (more, rest) := shellArguments rest
      (letter :: letters ++ more, rest)
    | _ => ([], argument :: rest)

mutual

/-- Run a command. -/
def evaluate : Nat → Context → Command → Shell → Shell
  | 0, _, _, s => { s with control := .killed stopSignal }
  | fuel + 1, c, command, s =>
    if !s.proceeds then s
    else
      match command with
      | .simple line assignments words redirections =>
        evaluateSimple fuel c line assignments words redirections s
      | .redirected line body redirections =>
        let saved := s.descriptors
        match redirectAll fuel redirections { s with line := line } with
        | (s, some message) =>
          { (s.complainHere 2 message) with descriptors := saved }.checked c
        | (s, none) => { evaluate fuel c body s with descriptors := saved }
      | .sequence commands => evaluateAll fuel c commands s
      | .andThen first second =>
        let s := evaluate fuel .condition first s
        if s.status = 0 then evaluate fuel c second s else s
      | .orElse first second =>
        let s := evaluate fuel .condition first s
        if s.status = 0 then s else evaluate fuel c second s
      | .negated body =>
        let s := evaluate fuel .condition body s
        if s.proceeds then s.withSuccess (s.status != 0) else s
      | .pipeline commands => (evaluatePiped fuel commands s).checked c
      | .background body =>
        let (number, s) := s.opened .nothing
        let inner := evaluate fuel .plain body (s.branched.connect 0 number)
        let s := s.absorb inner
        { s.withStatus 0 with background := some (s.process + s.streams.size + 1) }
      | .subshell body =>
        let inner := finish fuel (evaluate fuel c body s.branched)
        (s.absorb inner).checked c
      | .choice condition body otherwise =>
        let s := evaluate fuel .condition condition s
        if !s.proceeds then s
        else if s.status = 0 then evaluate fuel c body s
        else evaluate fuel c otherwise (s.withStatus 0)
      | .loop whileTrue condition body => evaluateLoop fuel c whileTrue condition body 0 s
      | .forEach line name items body =>
        let s := { s with line := line }
        match items with
        | none => evaluateEach fuel c name body s.arguments (s.withStatus 0)
        | some words =>
          let (fields, s) := expandWords (outputOf fuel) words s
          if s.proceeds then evaluateEach fuel c name body fields (s.withStatus 0) else s
      | .select line subject branches =>
        let (text, s) := expandText (outputOf fuel) subject { s with line := line }
        if s.proceeds then evaluateBranches fuel c text branches (s.withStatus 0) else s
      | .define name body =>
        { s with functions := (name, body) :: s.functions }.withStatus 0

/-- Run commands one after the other. -/
def evaluateAll : Nat → Context → List Command → Shell → Shell
  | 0, _, _, s => { s with control := .killed stopSignal }
  | _ + 1, _, [], s => s
  | fuel + 1, c, [command], s => evaluate fuel c command s
  | fuel + 1, c, command :: rest, s =>
    let s := evaluate fuel c command s
    if s.proceeds then evaluateAll fuel c rest s else s

/-- Run the commands of a pipeline, each with what the one before wrote. -/
def evaluatePiped : Nat → List Command → Shell → Shell
  | 0, _, s => { s with control := .killed stopSignal }
  | _ + 1, [], s => s
  | fuel + 1, [command], s =>
    s.absorb (finish fuel (evaluate fuel .plain command s.branched))
  | fuel + 1, command :: rest, s =>
    let (text, after) := outputOf fuel command s
    if after.proceeds then
      let (number, after) := after.opened (.pending text)
      let piped := evaluatePiped fuel rest (after.connect 0 number)
      { piped with descriptors := s.descriptors }
    else after

/-- Run a command in a shell of its own and gather what it writes. -/
def outputOf : Nat → Command → Shell → Octets × Shell
  | 0, _, s => ([], { s with control := .killed stopSignal })
  | fuel + 1, command, s =>
    let (number, s) := s.opened (.gathered [])
    let inner := finish fuel (evaluate fuel .plain command (s.branched.connect 1 number))
    let after := s.absorb inner
    let text := ((after.streams[number]?).getD .nothing).text
    (text, { after.withStatus s.status with outputStatus := some inner.status })

/-- Run what a shell leaves for its end. -/
def finish : Nat → Shell → Shell
  | 0, s => s
  | fuel + 1, s =>
    match s.control, s.traps.find? fun trap => trap.1 == 0 with
    | .killed _, _ => s
    | _, none => s
    | _, some (_, action) =>
      let status := s.status
      let started := { s.branched with control := .proceed }
      let ended := evaluateText fuel .plain action started
      match ended.control with
      | .proceed => ended.exit status
      | _ => ended

/-- Repeat a command by a condition. -/
def evaluateLoop : Nat → Context → Bool → Command → Command → Nat → Shell → Shell
  | 0, _, _, _, _, _, s => { s with control := .killed stopSignal }
  | fuel + 1, c, whileTrue, condition, body, status, s =>
    match (evaluate fuel .condition condition s.inLoop).afterRound with
    | (false, s) => s
    | (true, s) =>
      if (s.status == 0) == whileTrue then
        match (evaluate fuel c body s.inLoop).afterRound with
        | (false, s) => s
        | (true, s) => evaluateLoop fuel c whileTrue condition body s.status s
      else s.withStatus status

/-- Run a command for each value of a variable. -/
def evaluateEach : Nat → Context → Octets → Command → List Octets → Shell → Shell
  | 0, _, _, _, _, s => { s with control := .killed stopSignal }
  | _ + 1, _, _, _, [], s => s
  | fuel + 1, c, name, body, value :: rest, s =>
    match (evaluate fuel c body (s.assign name value).inLoop).afterRound with
    | (false, s) => s
    | (true, s) => evaluateEach fuel c name body rest s

/-- Run the first branch with a pattern of the subject. -/
def evaluateBranches : Nat → Context → Octets → List (List Word × Command) → Shell → Shell
  | 0, _, _, _, s => { s with control := .killed stopSignal }
  | _ + 1, _, _, [], s => s
  | fuel + 1, c, subject, (patterns, body) :: rest, s =>
    match anyFits fuel subject patterns s with
    | (true, s) => evaluate fuel c body s
    | (false, s) => if s.proceeds then evaluateBranches fuel c subject rest s else s

/-- Some pattern of a branch fits the subject. -/
def anyFits : Nat → Octets → List Word → Shell → Bool × Shell
  | 0, _, _, s => (false, s)
  | _ + 1, _, [], s => (false, s)
  | fuel + 1, subject, word :: rest, s =>
    let (marks, s) := expandParts (outputOf fuel) word s
    if (Pattern.wildcards (patternOf marks)).fits subject then (true, s)
    else anyFits fuel subject rest s

/-- Redirect descriptors in turn, up to the first failure. -/
def redirectAll : Nat → List Redirection → Shell → Shell × Option String
  | 0, _, s => (s, none)
  | _ + 1, [], s => (s, none)
  | fuel + 1, .mk descriptor direction target :: rest, s =>
    let (text, s) := expandText (outputOf fuel) target s
    if !s.proceeds then (s, none)
    else
      match s.redirect descriptor direction text with
      | .ok s => redirectAll fuel rest s
      | .error message => (s, some message)

/-- Assign in turn. -/
def assignAll : Nat → Bool → List (Octets × Word) → Shell → Shell
  | 0, _, _, s => s
  | _ + 1, _, [], s => s
  | fuel + 1, shared, (name, word) :: rest, s =>
    let (value, s) := expandText (outputOf fuel) word s
    if s.proceeds then
      let s := s.assign name value
      assignAll fuel shared rest (if shared then s.share name else s)
    else s

/-- Run a simple command: expand its words, redirect, assign, and find out
what its first word stands for. -/
def evaluateSimple : Nat → Context → Nat → List (Octets × Word) → List Word → List Redirection →
    Shell → Shell
  | 0, _, _, _, _, _, s => { s with control := .killed stopSignal }
  | fuel + 1, c, line, assignments, words, redirections, s =>
    let saved := s.descriptors
    let (fields, s) := expandWords (outputOf fuel) words { s with line := line, outputStatus := none }
    if !s.proceeds then s
    else
      let fields := fields.map String.ofList
      let isSpecial := fields.head?.any fun name =>
        (lookUp Builtin.special name).isSome || ["eval", ".", "exec"].contains name
      match redirectAll fuel redirections s with
      | (s, some message) =>
        let s := { (s.complainHere 2 message) with descriptors := saved }
        if isSpecial then s.exit 2 else s.checked c
      | (s, none) =>
        if !s.proceeds then s
        else
          match fields with
          | [] =>
            let s := assignAll fuel false assignments s
            if s.proceeds then
              let s := s.shown assignments []
              ({ s with descriptors := saved }.withStatus (s.outputStatus.getD 0)).checked c
            else s
          | name :: arguments =>
            let names := assignments.map Prod.fst
            let before := s.saved names
            let s := assignAll fuel true assignments s
            if !s.proceeds then s
            else
              let s := s.shown assignments (name :: arguments)
              let s := evaluateNamed fuel c true name arguments s
              let keeps := name == "exec" && arguments.isEmpty
              let s := if keeps then s else { s with descriptors := saved }
              let s := if isSpecial then s else s.restored before
              (runRaised fuel s).checked c

/-- Run what signals have raised. -/
def runRaised : Nat → Shell → Shell
  | 0, s => s
  | fuel + 1, s =>
    match s.raised with
    | [] => s
    | action :: rest =>
      if !s.proceeds then s
      else
        let status := s.status
        let s := evaluateText fuel .plain action { s with raised := rest }
        runRaised fuel (if s.proceeds then s.withStatus status else s)

/-- Run a command by its name. -/
def evaluateNamed : Nat → Context → Bool → String → List String → Shell → Shell
  | 0, _, _, _, _, s => { s with control := .killed stopSignal }
  | fuel + 1, c, withFunctions, name, arguments, s =>
    match lookUp Builtin.special name with
    | some run => run s arguments
    | none =>
      match s.functions.find? fun entry => withFunctions && entry.1 == name.toList with
      | some (_, body) => callFunction fuel c body arguments s
      | none =>
        match name, arguments with
        | "eval", words =>
          { evaluateText fuel c (" ".intercalate words).toList { s with speaker := some "eval" } with
            speaker := s.speaker }
        | ".", file :: _ =>
          match s.tree.fetch (Shell.pathOf file.toList) with
          | .ok content =>
            if file.toList.contains '/' then
              let ended :=
                evaluateText fuel c (Octets.ofBytes content) { s with speaker := some file }
              { ended with
                speaker := s.speaker
                control := if ended.control == .leaveFunction then .proceed else ended.control }
            else Builtin.giveUp "." s (file ++ ": not found")
          | .error _ =>
            if file.toList.contains '/' then
              Builtin.giveUp "." s ("cannot open " ++ file ++ ": No such file")
            else Builtin.giveUp "." s (file ++ ": not found")
        | "exec", [] => s.withStatus 0
        | "exec", name :: arguments =>
          let s := evaluateNamed fuel ⟨c.tested, true⟩ false name arguments
            { s with speaker := some "exec" }
          if s.proceeds then s.exit s.status else s
        | "command", "-v" :: name :: _ =>
          match commandPath? s name with
          | some path => (s.say (path ++ "\n")).withStatus 0
          | none => s.withStatus 127
        | "command", name :: arguments => evaluateNamed fuel c false name arguments s
        | "command", [] => s.withStatus 0
        | "type", names =>
          names.foldl
            (fun s name =>
              match commandPath? s name with
              | some path =>
                s.say (name ++ (if path == name then " is a shell builtin\n"
                  else " is " ++ path ++ "\n"))
              | none => (s.say (name ++ ": not found\n")).withStatus 127)
            (s.withStatus 0)
        | name, arguments =>
          match lookUp Builtin.ordinary name with
          | some run => run s arguments
          | none => evaluateProgram fuel c name arguments s

/-- Call a function with arguments. -/
def callFunction : Nat → Context → Command → List String → Shell → Shell
  | 0, _, _, _, s => { s with control := .killed stopSignal }
  | fuel + 1, c, body, arguments, s =>
    let inner :=
      evaluate fuel c body
        { s with arguments := arguments.map String.toList, hidden := [] :: s.hidden, loops := 0 }
    let frame := inner.hidden.head?.getD []
    let restored := frame.foldl
      (fun (s : Shell) (name, value) =>
        match value with
        | some value => s.assign name value
        | none => s.unassign name) inner
    { restored with
      arguments := s.arguments
      hidden := s.hidden
      loops := s.loops
      control := if inner.control == .leaveFunction then .proceed else inner.control }

/-- Run a program: a utility, or a file. -/
def evaluateProgram : Nat → Context → String → List String → Shell → Shell
  | 0, _, _, _, s => { s with control := .killed stopSignal }
  | fuel + 1, c, name, arguments, s =>
    let plainName := utilityName name
    match lookUp utilities plainName with
    | some run => run s arguments
    | none =>
      if shellNames.contains plainName then evaluateShell fuel c name arguments s
      else if plainName = "env" || plainName = "nohup" then evaluateEnvironment fuel c arguments s
      else if plainName = "xargs" then
        let (text, s) := s.readInput
        match arguments with
        | [] => evaluateNamed fuel c false "echo" (wordsIn text) s
        | name :: arguments => evaluateNamed fuel c false name (arguments ++ wordsIn text) s
      else
        match lookUp Builtin.ordinary plainName with
        | some run => if plainName == name then s.complainHere 127 (name ++ ": not found")
          else run s arguments
        | none =>
          if name.toList.contains '/' then evaluateFile fuel c name arguments s
          else s.complainHere 127 (name ++ ": not found")

/-- Run a program with variables of its own, or write the variables. -/
def evaluateEnvironment : Nat → Context → List String → Shell → Shell
  | 0, _, _, s => { s with control := .killed stopSignal }
  | fuel + 1, c, arguments, s =>
    match arguments with
    | [] =>
      (s.say (String.join (s.inherited.entries.map fun (name, value) =>
        String.ofList name ++ "=" ++ String.ofList value ++ "\n"))).withStatus 0
    | argument :: rest =>
      match Builtin.assignment argument with
      | (name, some value) =>
        let before := s.saved [name]
        (evaluateEnvironment fuel c rest ((s.assign name value).share name)).restored before
      | (_, none) => evaluateNamed fuel c false argument rest s

/-- Run a file that is a program. -/
def evaluateFile : Nat → Context → String → List String → Shell → Shell
  | 0, _, _, _, s => { s with control := .killed stopSignal }
  | fuel + 1, c, name, arguments, s =>
    match s.tree.existing? (Shell.pathOf name.toList) with
    | .error .notFound => s.complainHere 127 (name ++ ": not found")
    | .error .notADirectory => s.complainHere 127 (name ++ ": not found")
    | .error e => s.complainHere 126 (name ++ ": " ++ Shell.fileMessage e)
    | .ok (_, .file mode content) =>
      if mode &&& Condition.executableBits = 0 then
        s.complainHere 126 (name ++ ": Permission denied")
      else
        let text := Octets.ofBytes content
        let run (letters : List Char) : Shell :=
          let started := s.child name.toList (arguments.map String.toList)
          let started :=
            { started with options := letters.foldl (Builtin.setOption true) started.options }
          s.reap (finish fuel (evaluateText fuel .plain text started)) c
        match interpreter? text with
        | none => run []
        | some words =>
          let words := words.map utilityName
          let words := if words.head? = some "env" then words.drop 1 else words
          match words with
          | program :: options =>
            if shellNames.contains program then run (shellArguments options).1
            else s.complainHere 127 (name ++ ": not found")
          | [] => s.complainHere 126 (name ++ ": Permission denied")
    | .ok _ => s.complainHere 126 (name ++ ": Permission denied")

/-- Run a shell: on a text, on a file, or on standard input. -/
def evaluateShell : Nat → Context → String → List String → Shell → Shell
  | 0, _, _, _, s => { s with control := .killed stopSignal }
  | fuel + 1, c, name, arguments, s =>
    let (letters, operands) := shellArguments arguments
    let run (name : Octets) (operands : List String) (text : Octets) : Shell :=
      let started := s.child name (operands.map String.toList)
      let started :=
        { started with options := letters.foldl (Builtin.setOption true) started.options }
      s.reap (finish fuel (evaluateText fuel .plain text started)) c
    if letters.contains 'c' then
      match operands with
      | [] => s.complain 2 (name ++ ": 0: -c requires an argument")
      | text :: operands =>
        run ((operands.head?).getD name).toList (operands.drop 1) text.toList
    else
      match operands with
      | [] =>
        let (text, s) := s.readInput
        let started := s.child name.toList []
        s.reap (finish fuel (evaluateText fuel .plain text started)) c
      | file :: operands =>
        match s.tree.fetch (Shell.pathOf file.toList) with
        | .ok content => run file.toList operands (Octets.ofBytes content)
        | .error _ => s.complain 2 (name ++ ": 0: cannot open " ++ file ++ ": No such file")

/-- Run a text as a script. -/
def evaluateText : Nat → Context → Octets → Shell → Shell
  | 0, _, _, s => { s with control := .killed stopSignal }
  | fuel + 1, c, text, s =>
    let script := Lines.read text
    let s := if script.commands.isEmpty then s.withStatus 0 else s
    let s := evaluateAll fuel c script.commands s
    match script.fault with
    | none => s
    | some fault =>
      if s.proceeds then { s with line := fault.line }.giveUp 2 fault.problem else s

end

end LayeredConfig.Script
