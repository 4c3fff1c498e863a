import LayeredConfig.Script.Cursor

/-!
# Reading scripts

A script is read line by line; a line goes on as long as a command is open.
Reading goes down from lists of commands to the parts of words, and from a
part that holds commands up again. The number of steps is bounded by the
length of the text.
-/

namespace LayeredConfig.Script

/-- Where the parts of a word stand, which decides where they end and what is
quoted there. -/
inductive Setting where
  /-- A word without quotes around it. -/
  | bare
  /-- The word of a parameter in braces. -/
  | braced
  /-- Double quotes. -/
  | quoted
  /-- The word of a parameter in braces within double quotes. -/
  | quotedBraced
  /-- A text of its own, in which quotes stand for themselves. -/
  | document
  deriving DecidableEq, Repr

namespace Setting

/-- Characters are quoted here. -/
def quotes : Setting → Bool
  | .bare => false
  | .braced => false
  | _ => true

/-- The setting of a braced word in this one. -/
def inBraces (s : Setting) : Setting := if s.quotes then .quotedBraced else .braced

/-- The character ends the parts that stand here. -/
def isEnd (s : Setting) (c : Char) : Bool :=
  match s with
  | .bare => Cursor.endsWord c
  | .quoted => c == '"'
  | .document => false
  | _ => c == '\x7d'

/-- A backslash in front of the character is dropped. -/
def escapes (s : Setting) (c : Char) : Bool :=
  !s.quotes || "$\x60\\".toList.contains c || (c == '"' && s != .document) ||
    (c == '\x7d' && s == .quotedBraced)

end Setting

namespace Reader

/-- Put a character behind the parts that were read, last one first. -/
def addChar (inQuotes : Bool) (c : Char) : List Part → List Part
  | .written text :: rest =>
    if inQuotes then .quoted [c] :: .written text :: rest else .written (c :: text) :: rest
  | .quoted text :: rest =>
    if inQuotes then .quoted (c :: text) :: rest else .written [c] :: .quoted text :: rest
  | rest => (if inQuotes then .quoted [c] else .written [c]) :: rest

/-- Put quoted characters behind the parts that were read. -/
def addQuoted (text : Octets) (parts : List Part) : List Part :=
  match text with
  | [] => .quoted [] :: parts
  | text => text.foldl (fun parts c => addChar true c parts) parts

/-- A part whose characters are in order. -/
def inOrder : Part → Part
  | .written text => .written text.reverse
  | .quoted text => .quoted text.reverse
  | part => part

/-- The word of the parts that were read. -/
def wordOf (parts : List Part) : Word := (parts.map inOrder).reverse

/-- The text of an arithmetic expression, up to two closing parentheses. -/
def arithmeticText? : Nat → Octets → Option Octets
  | _, [] => none
  | 0, ')' :: rest => if rest.head? = some ')' then some [] else none
  | depth + 1, ')' :: rest => (arithmeticText? depth rest).map (')' :: ·)
  | depth, '(' :: rest => (arithmeticText? (depth + 1) rest).map ('(' :: ·)
  | depth, c :: rest => (arithmeticText? depth rest).map (c :: ·)

/-- The text between grave accents, without the backslashes that it needs
there, and its length as it is written. -/
def accentText? (inQuotes : Bool) : Octets → Option (Octets × Nat)
  | [] => none
  | '\x60' :: _ => some ([], 0)
  | '\\' :: c :: rest =>
    (accentText? inQuotes rest).map fun (text, length) =>
      if "$\x60\\".toList.contains c || (inQuotes && c == '"') then (c :: text, length + 2)
      else ('\\' :: c :: text, length + 2)
  | c :: rest => (accentText? inQuotes rest).map fun (text, length) => (c :: text, length + 1)

/-- The name of a parameter: a name, a number, or a sign of its own. -/
def parameterName (braced : Bool) (text : Octets) : Octets :=
  match text with
  | [] => []
  | c :: _ =>
    if Octets.startsName c then text.takeWhile Octets.inName
    else if c.isDigit then (if braced then text.takeWhile Char.isDigit else [c])
    else if "@*#?-$!".toList.contains c then [c]
    else []

/-- A word that was written without quotes or anything to put in. -/
def plainText? : Word → Option Octets
  | [.written text] => some text
  | _ => none

/-- A part of the word is quoted. -/
def hasQuotes (word : Word) : Bool :=
  word.any fun part =>
    match part with
    | .quoted _ => true
    | _ => false

/-- The written characters of a word, quoted or not. -/
def literal (word : Word) : Octets :=
  word.flatMap fun part =>
    match part with
    | .written text => text
    | .quoted text => text
    | _ => []

/-- An assignment: a name and an equals sign in front of a word. -/
def assignment? : Word → Option (Octets × Word)
  | .written text :: rest =>
    let name := text.takeWhile (· != '=')
    match text.dropWhile (· != '=') with
    | _ :: value =>
      if Octets.isName name then some (name, if value.isEmpty then rest else .written value :: rest)
      else none
    | [] => none
  | _ => none

/-- The operators of redirections, longer ones first, with the descriptor that
they change by default. A document may lose the tabs in front of its lines. -/
def redirectionOperators : List (String × Direction × Nat × Bool) :=
  [ ("<<-", .document, 0, true), ("<<", .document, 0, false), ("<>", .update, 0, false),
    ("<&", .share, 0, false), ("<", .input, 0, false), (">>", .append, 1, false),
    (">|", .output, 1, false), (">&", .share, 1, false), (">", .output, 1, false) ]

/-- The redirection operator at the cursor, with the digits in front of it. -/
def redirection? (c : Cursor) : Option (Nat × Direction × Bool × Cursor) :=
  let digits := c.rest.takeWhile Char.isDigit
  let behind := c.skip digits.length
  match redirectionOperators.find? fun entry => behind.looksAt entry.1 with
  | none => none
  | some (operator, direction, standard, tabs) =>
    let descriptor :=
      if digits.isEmpty then standard
      else digits.foldl (fun n d => n * 10 + (d.toNat - 48)) 0
    some (descriptor, direction, tabs, behind.skip operator.length)

/-- The uses of a parameter that stand behind its name, longer ones first. -/
def useOperators : List (String × (Word → Use)) :=
  [ (":-", .fallback true), ("-", .fallback false), (":=", .assign true), ("=", .assign false),
    (":?", .require true), ("?", .require false), (":+", .instead true), ("+", .instead false),
    ("##", .without false true), ("#", .without false false),
    ("%%", .without true true), ("%", .without true false) ]

/-- The word of the use is a pattern, where quotes count again. -/
def takesPattern (operator : String) : Bool := ["##", "#", "%%", "%"].contains operator

mutual

/-- Read parts up to the end of their setting. -/
def readParts : Nat → Setting → List Part → Cursor → Except Fault (Word × Cursor)
  | 0, _, _, c => c.fault "too long"
  | fuel + 1, setting, parts, c =>
    match c.rest with
    | [] =>
      match setting with
      | .bare => .ok (wordOf parts, c)
      | .document => .ok (wordOf parts, c)
      | .quoted => c.fault "Unterminated quoted string"
      | _ => c.fault "Missing '\x7d'"
    | '\\' :: '\n' :: _ => readParts fuel setting parts (c.pass 2)
    | '\\' :: x :: _ =>
      if setting.escapes x then readParts fuel setting (addChar true x parts) (c.pass 2)
      else readParts fuel setting (addChar true '\\' parts) c.next
    | '$' :: _ => do
      let (part, c) ← readDollar fuel setting c
      readParts fuel setting (part :: parts) c
    | '\x60' :: rest => do
      let (part, c) ← readAccents fuel setting.quotes c rest
      readParts fuel setting (part :: parts) c
    | x :: rest =>
      if setting.isEnd x then .ok (wordOf parts, c)
      else if x = '\'' ∧ setting.quotes = false then
        match Text.cut? ['\''] rest with
        | none => c.fault "Unterminated quoted string"
        | some (inside, _) =>
          readParts fuel setting (addQuoted inside parts) (c.pass (inside.length + 2))
      else if x = '"' ∧ setting ≠ .document then do
        let (inside, c) ← readParts fuel .quoted [] c.next
        let inside := if inside.isEmpty then [.quoted []] else inside
        let shown := inside.map inOrder
        readParts fuel setting (shown.reverse ++ parts) c.next
      else readParts fuel setting (addChar setting.quotes x parts) c.next

/-- Read a dollar sign with what it stands for. -/
def readDollar : Nat → Setting → Cursor → Except Fault (Part × Cursor)
  | 0, _, c => c.fault "too long"
  | fuel + 1, setting, c =>
    let behind := c.next
    match behind.rest with
    | '\x7b' :: _ => readBraced fuel setting behind.next
    | '(' :: '(' :: rest =>
      match arithmeticText? 0 rest with
      | some inside => do
        let (expression, _) ← readParts fuel .document [] (Cursor.start inside c.line)
        .ok (.arithmetic expression setting.quotes, behind.pass (inside.length + 4))
      | none => c.fault "Missing '))'"
    | '(' :: _ => readOutput fuel setting.quotes behind.next
    | rest =>
      match parameterName false rest with
      | [] => .ok (if setting.quotes then .quoted ['$'] else .written ['$'], behind)
      | name => .ok (.parameter name .value setting.quotes, behind.skip name.length)

/-- Read commands whose output is put in, up to the closing parenthesis. -/
def readOutput : Nat → Bool → Cursor → Except Fault (Part × Cursor)
  | 0, _, c => c.fault "too long"
  | fuel + 1, inQuotes, c => do
    let (body, c) ← readList fuel true false c
    let c ← c.require ")"
    .ok (.output body inQuotes, c)

/-- Read commands between grave accents whose output is put in. -/
def readAccents : Nat → Bool → Cursor → Octets → Except Fault (Part × Cursor)
  | 0, _, c, _ => c.fault "too long"
  | fuel + 1, inQuotes, c, rest =>
    match accentText? inQuotes rest with
    | none => c.fault "EOF in backquote substitution"
    | some (text, length) => do
      let (body, inner) ← readList fuel true false (Cursor.start text c.line)
      if inner.rest.isEmpty then .ok (.output body inQuotes, c.pass (length + 2))
      else inner.unexpected

/-- Read a parameter in braces, from its name on. -/
def readBraced : Nat → Setting → Cursor → Except Fault (Part × Cursor)
  | 0, _, c => c.fault "too long"
  | fuel + 1, setting, c =>
    let counted := c.rest.head? = some '#' ∧ (c.rest[1]?).any fun x => x != '\x7d' &&
      !(parameterName true [x]).isEmpty
    let c := if counted then c.next else c
    let name := parameterName true c.rest
    let c := c.skip name.length
    if c.looksAt "\x7d" && !name.isEmpty then
      .ok (.parameter name (if counted then .length else .value) setting.quotes, c.next)
    else
      match useOperators.find? fun entry => !name.isEmpty && !counted && c.looksAt entry.1 with
      | none => do
        let (_, c) ← readParts fuel setting.inBraces [] c
        .ok (.parameter name .invalid setting.quotes, c.next)
      | some (operator, use) => do
        let inner := if takesPattern operator then .braced else setting.inBraces
        let (word, c) ← readParts fuel inner [] (c.skip operator.length)
        .ok (.parameter name (use word) setting.quotes, c.next)

/-- Read a list of commands. On one line it ends with the line. -/
def readList : Nat → Bool → Bool → Cursor → Except Fault (Command × Cursor)
  | 0, _, _, c => c.fault "too long"
  | fuel + 1, mayBeEmpty, oneLine, c =>
    let c := if oneLine then c.skipBlanks else c.skipLines
    if c.atClose then
      if mayBeEmpty || c.rest.isEmpty then .ok (.nothing, c) else c.unexpected
    else do
      let (first, c) ← readChain fuel c
      let c := c.skipBlanks
      if c.atClose then .ok (first, c)
      else
        match c.rest with
        | '\n' :: _ => if oneLine then .ok (first, c) else readMore fuel oneLine first c.next
        | ';' :: _ => readMore fuel oneLine first c.next
        | '&' :: _ => readMore fuel oneLine (.background first) c.next
        | _ => c.unexpected

/-- Read the commands of a list behind its first one. -/
def readMore : Nat → Bool → Command → Cursor → Except Fault (Command × Cursor)
  | 0, _, _, c => c.fault "too long"
  | fuel + 1, oneLine, first, c => do
    let c := if oneLine then c.skipBlanks else c.skipLines
    if oneLine && c.looksAt "\n" then .ok (first, c)
    else
      let (more, c) ← readList fuel true oneLine c
      match more with
      | .sequence commands => .ok (.sequence (first :: commands), c)
      | command => .ok (.sequence [first, command], c)

/-- Read commands that run by the success of the one before. -/
def readChain : Nat → Cursor → Except Fault (Command × Cursor)
  | 0, c => c.fault "too long"
  | fuel + 1, c => do
    let (first, c) ← readPipeline fuel c
    readChainRest fuel first c

/-- Read the rest of a chain. -/
def readChainRest : Nat → Command → Cursor → Except Fault (Command × Cursor)
  | 0, _, c => c.fault "too long"
  | fuel + 1, first, c =>
    let c := c.skipBlanks
    if c.looksAt "&&" then do
      let (second, c) ← readPipeline fuel (c.skip 2).skipLines
      readChainRest fuel (.andThen first second) c
    else if c.looksAt "||" then do
      let (second, c) ← readPipeline fuel (c.skip 2).skipLines
      readChainRest fuel (.orElse first second) c
    else .ok (first, c)

/-- Read a pipeline, possibly negated. -/
def readPipeline : Nat → Cursor → Except Fault (Command × Cursor)
  | 0, c => c.fault "too long"
  | fuel + 1, c =>
    let c := c.skipBlanks
    if c.plainWord = "!" then do
      let (body, c) ← readPipeline fuel (c.skip 1)
      .ok (.negated body, c)
    else do
      let (first, c) ← readCommand fuel c
      let (others, c) ← readPiped fuel c
      .ok (if others.isEmpty then first else .pipeline (first :: others), c)

/-- Read the commands of a pipeline behind its first one. -/
def readPiped : Nat → Cursor → Except Fault (List Command × Cursor)
  | 0, c => c.fault "too long"
  | fuel + 1, c =>
    let c := c.skipBlanks
    if c.looksAt "|" && !c.looksAt "||" then do
      let (command, c) ← readCommand fuel (c.skip 1).skipLines
      let (others, c) ← readPiped fuel c
      .ok (command :: others, c)
    else .ok ([], c)

/-- Read a command. -/
def readCommand : Nat → Cursor → Except Fault (Command × Cursor)
  | 0, c => c.fault "too long"
  | fuel + 1, c =>
    let c := c.skipBlanks
    let line := c.line
    let compound (body : Command) (c : Cursor) : Except Fault (Command × Cursor) := do
      let (redirections, c) ← readRedirections fuel c
      .ok (if redirections.isEmpty then body else .redirected line body redirections, c)
    if c.looksAt "(" then do
      let (body, c) ← readList fuel false false c.next
      let c ← c.require ")"
      compound (.subshell body) c
    else
      match c.reserved? with
      | none => readSimple fuel line [] [] [] c
      | some "\x7b" => do
        let (body, c) ← readList fuel false false (c.skip 1)
        let c ← c.require "\x7d"
        compound body c
      | some "if" => do
        let (body, c) ← readBranches fuel (c.skip 2)
        compound body c
      | some "while" => do
        let (body, c) ← readLoop fuel true (c.skip 5)
        compound body c
      | some "until" => do
        let (body, c) ← readLoop fuel false (c.skip 5)
        compound body c
      | some "for" => do
        let (body, c) ← readFor fuel (c.skip 3)
        compound body c
      | some "case" => do
        let (body, c) ← readCase fuel (c.skip 4)
        compound body c
      | some "in" => readSimple fuel line [] [] [] c
      | some _ => c.unexpected

/-- Read a condition with its branches, and what ends them. -/
def readBranches : Nat → Cursor → Except Fault (Command × Cursor)
  | 0, c => c.fault "too long"
  | fuel + 1, c => do
    let (condition, c) ← readList fuel false false c
    let c ← c.require "then"
    let (body, c) ← readList fuel false false c
    match c.plainWord with
    | "elif" => do
      let (otherwise, c) ← readBranches fuel (c.skip 4)
      .ok (.choice condition body otherwise, c)
    | "else" => do
      let (otherwise, c) ← readList fuel false false (c.skip 4)
      let c ← c.require "fi"
      .ok (.choice condition body otherwise, c)
    | _ => do
      let c ← c.require "fi"
      .ok (.choice condition body .nothing, c)

/-- Read a loop with its condition. -/
def readLoop : Nat → Bool → Cursor → Except Fault (Command × Cursor)
  | 0, _, c => c.fault "too long"
  | fuel + 1, whileTrue, c => do
    let (condition, c) ← readList fuel false false c
    let (body, c) ← readBody fuel c
    .ok (.loop whileTrue condition body, c)

/-- Read the body of a loop. -/
def readBody : Nat → Cursor → Except Fault (Command × Cursor)
  | 0, c => c.fault "too long"
  | fuel + 1, c => do
    let c ← c.require "do"
    let (body, c) ← readList fuel false false c
    let c ← c.require "done"
    .ok (body, c)

/-- Read a loop over words. -/
def readFor : Nat → Cursor → Except Fault (Command × Cursor)
  | 0, c => c.fault "too long"
  | fuel + 1, c => do
    let c := c.skipBlanks
    let line := c.line
    let (word, c) ← readParts fuel .bare [] c
    match plainText? word with
    | none => c.fault "Bad for loop variable"
    | some name =>
      if !Octets.isName name then c.fault "Bad for loop variable"
      else
        let c := c.skipLines
        if c.plainWord = "in" then do
          let (items, c) ← readWords fuel (c.skip 2)
          let c := if c.looksAt ";" || c.looksAt "\n" then c.next.skipLines else c
          let (body, c) ← readBody fuel c
          .ok (.forEach line name (some items) body, c)
        else do
          let c := if c.looksAt ";" then c.next.skipLines else c
          let (body, c) ← readBody fuel c
          .ok (.forEach line name none body, c)

/-- Read words up to an operator or the end of the line. -/
def readWords : Nat → Cursor → Except Fault (List Word × Cursor)
  | 0, c => c.fault "too long"
  | fuel + 1, c =>
    let c := c.skipBlanks
    if (c.rest.head?).all Cursor.endsWord then .ok ([], c)
    else do
      let (word, c) ← readParts fuel .bare [] c
      let (words, c) ← readWords fuel c
      .ok (word :: words, c)

/-- Read a choice by patterns. -/
def readCase : Nat → Cursor → Except Fault (Command × Cursor)
  | 0, c => c.fault "too long"
  | fuel + 1, c => do
    let c := c.skipBlanks
    let line := c.line
    if (c.rest.head?).all Cursor.endsWord then c.unexpected
    else
      let (subject, c) ← readParts fuel .bare [] c
      let c ← c.skipLines.require "in"
      let (branches, c) ← readCaseBranches fuel c
      .ok (.select line subject branches, c)

/-- Read the branches of a choice by patterns, and what ends them. -/
def readCaseBranches : Nat → Cursor → Except Fault (List (List Word × Command) × Cursor)
  | 0, c => c.fault "too long"
  | fuel + 1, c =>
    let c := c.skipLines
    if c.plainWord = "esac" then .ok ([], c.skip 4)
    else do
      let c := if c.looksAt "(" then c.next else c
      let (patterns, c) ← readPatterns fuel c
      let c ← c.require ")"
      let (body, c) ← readList fuel true false c
      if c.looksAt ";;" then do
        let (others, c) ← readCaseBranches fuel (c.skip 2)
        .ok ((patterns, body) :: others, c)
      else do
        let c ← c.require "esac"
        .ok ([(patterns, body)], c)

/-- Read patterns between vertical bars. -/
def readPatterns : Nat → Cursor → Except Fault (List Word × Cursor)
  | 0, c => c.fault "too long"
  | fuel + 1, c =>
    let c := c.skipBlanks
    if c.rest.isEmpty then do
      let c ← c.require ")"
      .ok ([], c)
    else if (c.rest.head?).all Cursor.endsWord then c.unexpected
    else do
      let (word, c) ← readParts fuel .bare [] c
      let c := c.skipBlanks
      if c.looksAt "|" then do
        let (words, c) ← readPatterns fuel c.next
        .ok (word :: words, c)
      else .ok ([word], c)

/-- Read redirections. -/
def readRedirections : Nat → Cursor → Except Fault (List Redirection × Cursor)
  | 0, c => c.fault "too long"
  | fuel + 1, c =>
    match redirection? c.skipBlanks with
    | none => .ok ([], c)
    | some (descriptor, direction, tabs, c) => do
      let (redirection, c) ← readTarget fuel descriptor direction tabs c
      let (others, c) ← readRedirections fuel c
      .ok (redirection :: others, c)

/-- Read the target of a redirection. -/
def readTarget : Nat → Nat → Direction → Bool → Cursor → Except Fault (Redirection × Cursor)
  | 0, _, _, _, c => c.fault "too long"
  | fuel + 1, descriptor, direction, tabs, c =>
    let c := c.skipBlanks
    if (c.rest.head?).all Cursor.endsWord then c.unexpected
    else do
      let (word, c) ← readParts fuel .bare [] c
      if direction = .document then
        let (text, c) := c.takeDocument (literal word) tabs
        if hasQuotes word then .ok (.mk descriptor .document [.quoted text], c)
        else do
          let (body, _) ← readParts fuel .document [] (Cursor.start text c.line)
          .ok (.mk descriptor .document body, c)
      else .ok (.mk descriptor direction word, c)

/-- Read a simple command, or the definition of a function. What was read is
kept last one first. -/
def readSimple : Nat → Nat → List (Octets × Word) → List Word → List Redirection → Cursor →
    Except Fault (Command × Cursor)
  | 0, _, _, _, _, c => c.fault "too long"
  | fuel + 1, line, assignments, words, redirections, c =>
    let c := c.skipBlanks
    match redirection? c with
    | some (descriptor, direction, tabs, c) => do
      let (redirection, c) ← readTarget fuel descriptor direction tabs c
      readSimple fuel line assignments words (redirection :: redirections) c
    | none =>
      if (c.rest.head?).all Cursor.endsWord then
        if c.looksAt "(" then
          match assignments, words, redirections with
          | [], [word], [] => do
            let c := c.next.skipBlanks
            let c ← if c.reserved?.isSome then c.fault "word unexpected (expecting \")\")"
              else c.require ")"
            match plainText? word with
            | some name => do
              let (body, c) ← readCommand fuel c.skipLines
              .ok (.define name body, c)
            | none => c.fault "Bad function name"
          | _, _, _ => c.unexpected
        else if assignments.isEmpty && words.isEmpty && redirections.isEmpty then c.unexpected
        else .ok (.simple line assignments.reverse words.reverse redirections.reverse, c)
      else do
        let (word, c) ← readParts fuel .bare [] c
        match words, assignment? word with
        | [], some assignment =>
          readSimple fuel line (assignment :: assignments) words redirections c
        | _, _ => readSimple fuel line assignments (word :: words) redirections c

end

/-- Read the lines of a script up to its first fault. -/
def readLines : Nat → Nat → Cursor → Lines
  | 0, _, _ => ⟨[], none⟩
  | lines + 1, fuel, c =>
    let c := c.skipLines
    if c.rest.isEmpty then ⟨[], none⟩
    else
      match readList fuel false true c with
      | .error fault => ⟨[], some fault⟩
      | .ok (command, c) =>
        match c.rest with
        | [] => ⟨[command], none⟩
        | '\n' :: _ =>
          let script := readLines lines fuel c
          ⟨command :: script.commands, script.fault⟩
        | _ => ⟨[], some (c.unexpectedToken "")⟩

end Reader

/-- The script of a text. -/
def Lines.read (text : Octets) : Lines :=
  Reader.readLines (text.length + 1) (16 * text.length + 64) (Cursor.start text 1)

end LayeredConfig.Script
