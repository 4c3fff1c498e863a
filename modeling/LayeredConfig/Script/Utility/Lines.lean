import LayeredConfig.Script.LinePattern
import LayeredConfig.Script.Utility.Operand

/-!
# Utilities for lines

Utilities that read files or standard input and write what they find there:
all of it, some lines, the lines in another order, counts, or other characters.
-/

namespace LayeredConfig.Script.Utility

/-- Complain about an operand and set a status. -/
def refuse (utility : String) (status : Nat) (s : Shell) (name : String) (e : FileError) : Shell :=
  s.complain status (utility ++ ": " ++ name ++ because e)

/-- Write the operands one after the other. -/
def cat (s : Shell) (arguments : List String) : Shell :=
  let o := Operands.read "" arguments
  let numbered (text : Octets) : Octets :=
    let (lines, complete) := linesOf text
    let shown := lines.mapIdx fun i line =>
      let digits := Number.natText (i + 1)
      List.replicate (6 - digits.length) ' ' ++ digits ++ ['\t'] ++ line
    if complete then ofLines shown else ['\n'].intercalate shown
  forEachText (s.withStatus 0) o.names (refuse "cat" 1) fun s _ text =>
    s.write 1 (if o.has 'n' then numbered text else text)

/-- Write what stands on standard input, and into files as well. -/
def tee (s : Shell) (arguments : List String) : Shell :=
  let o := Operands.read "" arguments
  let (text, s) := s.readInput
  o.names.foldl
    (fun s name =>
      let old :=
        match o.has 'a', s.tree.fetch (pathOf name) with
        | true, .ok content => Octets.ofBytes content
        | _, _ => []
      if name = Shell.nullDevice then s
      else
        match s.tree.store (pathOf name) (Octets.toBytes (old ++ text)) with
        | .ok tree => { s with tree := tree }
        | .error e => refuse "tee" 1 s name e)
    ((s.withStatus 0).write 1 text)

/-- An option that is a number itself, as an option for the count of lines. -/
def countAsOption (arguments : List String) : List String :=
  match arguments with
  | [] => []
  | first :: rest =>
    match first.toList with
    | '-' :: digits =>
      if !digits.isEmpty && digits.all Char.isDigit then "-n" :: String.ofList digits :: rest
      else first :: rest
    | _ => first :: rest

/-- A header that tells operands apart. An empty line stands before all but the first. -/
def header (names : List String) (name : String) : Octets :=
  if names.length ≤ 1 then []
  else
    ((if names.head? = some name then "" else "\n") ++ "==> " ++
      (if name = "-" then "standard input" else name) ++ " <==\n").toList

/-- Write the first lines or octets of each operand. -/
def head (s : Shell) (arguments : List String) : Shell :=
  let o := Operands.read "nc" (countAsOption arguments)
  let failed (s : Shell) (name : String) (e : FileError) : Shell :=
    s.complain 1 ("head: cannot open '" ++ name ++ "' for reading" ++ because e)
  forEachText (s.withStatus 0) o.names failed fun s name text =>
    let chosen :=
      match o.value? 'c' with
      | some count => text.take (numberOr 0 (some count))
      | none =>
        let (lines, complete) := linesOf text
        let count :=
          match (o.value? 'n').map String.toList with
          | some ('-' :: digits) => lines.length - numberOr 0 (some (String.ofList digits))
          | _ => numberOr 10 (o.value? 'n')
        if lines.length ≤ count && !complete then text else ofLines (lines.take count)
    s.write 1 (header o.names name ++ chosen)

/-- Write the last lines or octets of each operand, or those from a place on. -/
def tail (s : Shell) (arguments : List String) : Shell :=
  let o := Operands.read "nc" (countAsOption arguments)
  let failed (s : Shell) (name : String) (e : FileError) : Shell :=
    s.complain 1 ("tail: cannot open '" ++ name ++ "' for reading" ++ because e)
  let dropped (length : Nat) (count : Option String) : Nat :=
    match count.map String.toList with
    | some ('+' :: digits) => numberOr 1 (some (String.ofList digits)) - 1
    | some ('-' :: digits) => length - numberOr 10 (some (String.ofList digits))
    | _ => length - numberOr 10 count
  forEachText (s.withStatus 0) o.names failed fun s name text =>
    let chosen :=
      match o.value? 'c' with
      | some count => text.drop (dropped text.length (some count))
      | none =>
        let (lines, complete) := linesOf text
        let kept := lines.drop (dropped lines.length (o.value? 'n'))
        if complete then ofLines kept else ['\n'].intercalate kept
    s.write 1 (header o.names name ++ chosen)

/-- The number of words in a text. -/
def wordCount (text : Octets) : Nat :=
  let space (c : Char) : Bool := c == ' ' || ('\t' ≤ c && c ≤ '\r')
  (text.foldl
    (fun (acc : Nat × Bool) c =>
      if space c then (acc.1, false) else if acc.2 then acc else (acc.1 + 1, true))
    (0, false)).1

/-- Count the lines, words and octets of each operand. -/
def wc (s : Shell) (arguments : List String) : Shell :=
  let o := Operands.read "" arguments
  let every := o.options.isEmpty
  let counts (text : Octets) : List Nat :=
    (if every || o.has 'l' then [text.count '\n'] else []) ++
      (if every || o.has 'w' then [wordCount text] else []) ++
      (if o.has 'm' then [(Octets.toText text).length] else []) ++
      (if every || o.has 'c' then [text.length] else [])
  let (texts, s) := (if o.names.isEmpty then ["-"] else o.names).foldl
    (fun (acc : List (String × Octets) × Shell) name =>
      match octetsOf acc.2 name with
      | (.ok text, s) => (acc.1 ++ [(name, text)], s)
      | (.error e, s) => (acc.1, refuse "wc" 1 s name e))
    ([], s.withStatus 0)
  let rows := texts.map fun (name, text) => (name, counts text)
  let sums := (texts.map fun entry => counts entry.2).foldl
    (fun (sum row : List Nat) => if sum.isEmpty then row else List.zipWith (· + ·) sum row) []
  let rows := if 1 < o.names.length then rows ++ [("total", sums)] else rows
  let single := rows.length == 1 && (rows.all fun row => row.2.length == 1)
  let least := if o.names.isEmpty || o.names.contains "-" then 7 else 0
  let width := if single then 0
    else (sums.map fun n => (Number.natText n).length).foldl max least
  rows.foldl
    (fun s row =>
      let numbers := row.2.map fun n =>
        let digits := Number.natText n
        List.replicate (width - digits.length) ' ' ++ digits
      let name := if o.names.isEmpty then [] else ' ' :: row.1.toList
      s.write 1 ([' '].intercalate numbers ++ name ++ ['\n'])) s

/-- The lines of all operands. -/
def allLines (utility : String) (status : Nat) (s : Shell) (names : List String) :
    List Octets × Shell :=
  (if names.isEmpty then ["-"] else names).foldl
    (fun (acc : List Octets × Shell) name =>
      match octetsOf acc.2 name with
      | (.ok text, s) => (acc.1 ++ (linesOf text).1, s)
      | (.error e, s) => (acc.1, s.complain status (utility ++ name ++ because e)))
    ([], s.withStatus 0)

/-- The number that a line starts with. -/
def leadingNumber (line : Octets) : Int :=
  let body := line.dropWhile Octets.isBlank
  match body with
  | '-' :: rest => -((Number.readNat? 10 (rest.takeWhile Char.isDigit)).getD 0 : Int)
  | rest => ((Number.readNat? 10 (rest.takeWhile Char.isDigit)).getD 0 : Int)

/-- Lines that equal the one before are left out. -/
def withoutRepeats (same : Octets → Octets → Bool) : List Octets → List Octets
  | [] => []
  | [line] => [line]
  | first :: second :: rest =>
    if same first second then withoutRepeats same (first :: rest)
    else first :: withoutRepeats same (second :: rest)
termination_by lines => lines.length

/-- Write the lines of the operands in order. -/
def sort (s : Shell) (arguments : List String) : Shell :=
  let o := Operands.read "kto" arguments
  let (lines, s) := allLines "sort: cannot read: " 2 s o.names
  let atMost (a b : Octets) : Bool :=
    if o.has 'n' then
      leadingNumber a < leadingNumber b || (leadingNumber a == leadingNumber b && !(b < a))
    else if o.has 'f' then !(b.map Char.toUpper < a.map Char.toUpper)
    else !(b < a)
  let sorted := lines.mergeSort fun a b => if o.has 'r' then atMost b a else atMost a b
  let same (a b : Octets) : Bool :=
    if o.has 'n' then leadingNumber a == leadingNumber b else a == b
  s.write 1 (ofLines (if o.has 'u' then withoutRepeats same sorted else sorted))

/-- Runs of equal lines with their lengths. -/
def runs : List Octets → List (Octets × Nat)
  | [] => []
  | line :: rest =>
    match runs rest with
    | (next, count) :: more =>
      if next = line then (line, count + 1) :: more else (line, 1) :: (next, count) :: more
    | [] => [(line, 1)]

/-- Write each run of equal lines once. -/
def uniq (s : Shell) (arguments : List String) : Shell :=
  let o := Operands.read "" arguments
  let (lines, s) := allLines "uniq: " 1 s (o.names.take 1)
  let chosen := (runs lines).filter fun run =>
    (!o.has 'd' || 1 < run.2) && (!o.has 'u' || run.2 == 1)
  s.write 1 (ofLines (chosen.map fun (line, count) =>
    if o.has 'c' then
      let digits := Number.natText count
      List.replicate (7 - digits.length) ' ' ++ digits ++ [' '] ++ line
    else line))

/-- The characters that a set of `tr` names, in order. -/
def characters : Nat → Octets → Octets
  | 0, _ => []
  | _ + 1, [] => []
  | fuel + 1, '\\' :: c :: rest =>
    match c with
    | 'n' => '\n' :: characters fuel rest
    | 't' => '\t' :: characters fuel rest
    | 'r' => '\r' :: characters fuel rest
    | '0' => '\x00' :: characters fuel rest
    | c => c :: characters fuel rest
  | fuel + 1, '[' :: ':' :: rest =>
    let name := rest.takeWhile Char.isAlpha
    let ranges := Pattern.bracket? ((('[' :: ':' :: name) ++ [':', ']', ']']).map fun c => (c, false))
    match ranges with
    | some (set, _) =>
      ((List.range 256).map Char.ofNat).filter set.has ++
        characters fuel (rest.drop (name.length + 2))
    | none => []
  | fuel + 1, first :: '-' :: last :: rest =>
    ((List.range 256).map Char.ofNat).filter (fun c => first ≤ c && c ≤ last) ++
      characters fuel rest
  | fuel + 1, c :: rest => c :: characters fuel rest

/-- Leave out repetitions of the characters of a set. -/
def squeezed (set : Octets) : Octets → Octets
  | [] => []
  | [c] => [c]
  | c :: d :: rest =>
    if c = d ∧ set.contains c then squeezed set (d :: rest) else c :: squeezed set (d :: rest)

/-- Replace or leave out characters of standard input. -/
def tr (s : Shell) (arguments : List String) : Shell :=
  let o := Operands.read "" arguments
  let sets := o.names.map fun name => characters (name.length + 1) name.toList
  let (text, s) := s.readInput
  let s := s.withStatus 0
  let first :=
    match sets.head? with
    | some set =>
      if o.has 'c' || o.has 'C' then ((List.range 256).map Char.ofNat).filter (!set.contains ·)
      else set
    | none => []
  match sets, o.has 'd' with
  | [], _ => s.complain 1 "tr: missing operand"
  | [_], true => s.write 1 (text.filter (!first.contains ·))
  | [_], false =>
    if o.has 's' then s.write 1 (squeezed first text)
    else s.complain 1 "tr: missing operand"
  | _ :: second :: _, true =>
    let kept := text.filter (!first.contains ·)
    s.write 1 (if o.has 's' then squeezed second kept else kept)
  | _ :: second :: _, false =>
    let changed := text.map fun c =>
      match first.idxOf? c with
      | some place => (second[place]?).getD ((second.getLast?).getD c)
      | none => c
    s.write 1 (if o.has 's' then squeezed second changed else changed)

/-- The fields that a list of numbers and ranges names. -/
def inList (list : String) (n : Nat) : Bool :=
  (Text.splitAtChar ',' list.toList).any fun item =>
    match Text.splitAtChar '-' item with
    | [single] => Number.readNat? 10 single == some n
    | [first, last] =>
      (Number.readNat? 10 first).getD 1 ≤ n && ((Number.readNat? 10 last).all (n ≤ ·))
    | _ => false

/-- Write some fields or characters of each line. -/
def cutFields (s : Shell) (arguments : List String) : Shell :=
  let o := Operands.read "dfcb" arguments
  let (lines, s) := allLines "cut: " 1 s o.names
  let separator := ((o.value? 'd').bind fun text => text.toList.head?).getD '\t'
  let chosen (list : String) (items : List Octets) : List Octets :=
    ((items.mapIdx fun i item => (i + 1, item)).filter fun item => inList list item.1).map Prod.snd
  let shown := lines.filterMap fun line =>
    match o.value? 'f', (o.value? 'c').orElse fun _ => o.value? 'b' with
    | some list, _ =>
      if line.contains separator then
        some ([separator].intercalate (chosen list (Text.splitAtChar separator line)))
      else if o.has 's' then none
      else some line
    | none, some list => some (chosen list (line.map fun c => [c])).flatten
    | none, none => some line
  s.write 1 (ofLines shown)

/-- The character belongs to a word. -/
def inWord (c : Char) : Bool := c.isAlphanum || c == '_'

/-- The line matches with word boundaries around. -/
def matchesWord (e : LinePattern) (line : Octets) : Bool :=
  (List.range (line.length + 1)).any fun i =>
    let rest := line.drop i
    let before := (line.take i).getLast?
    e.any fun b =>
      !(b.atStart && i != 0) && !before.any inWord &&
        (b.pattern.fittingLengths 0 rest).any fun n =>
          (!b.atEnd || n == rest.length) && !((rest.drop n).head?).any inWord

/-- Write the lines of the operands that match an expression. -/
def grep (extended fixed : Bool) (s : Shell) (arguments : List String) : Shell :=
  let o := Operands.read "emABC" arguments
  let extended := extended || o.has 'E'
  let fixed := fixed || o.has 'F'
  let (patterns, names) :=
    if o.has 'e' then (o.values 'e', o.names)
    else (o.names.take 1, o.names.drop 1)
  let folded (text : Octets) : Octets := if o.has 'i' then text.map Char.toLower else text
  let expressions := (patterns.flatMap fun text => Text.lines text.toList).map fun text =>
    if fixed then some (LinePattern.verbatim (folded text))
    else LinePattern.read? extended (folded text)
  match patterns, expressions.mapM id with
  | [], _ => s.complain 2 "Usage: grep [OPTION]... PATTERNS [FILE]..."
  | _, none => s.complain 2 "grep: Invalid regular expression"
  | _, some expressions =>
    let e : LinePattern :=
      if o.has 'x' then LinePattern.whole expressions.flatten else expressions.flatten
    let isMatch (line : Octets) : Bool :=
      (if o.has 'w' then matchesWord e (folded line) else e.occursIn (folded line)) != o.has 'v'
    let named := (1 < names.length || o.has 'H') && !o.has 'h'
    let handle (acc : Shell × Bool) (name : String) : Shell × Bool :=
      match octetsOf acc.1 name with
      | (.error e, s) =>
        (if o.has 's' then s.withStatus 2 else s.complain 2 ("grep: " ++ name ++ because e), acc.2)
      | (.ok text, s) =>
        let shownName := if name = "-" then "(standard input)" else name
        let lines := (linesOf text).1.mapIdx fun i line => (i + 1, line)
        let found := lines.filter fun entry => isMatch entry.2
        let found :=
          match o.value? 'm' with
          | some count => found.take (numberOr found.length (some count))
          | none => found
        let label (number : Nat) : Octets :=
          (if named then shownName.toList ++ [':'] else []) ++
            (if o.has 'n' then Number.natText number ++ [':'] else [])
        let output :=
          if o.has 'q' then []
          else if o.has 'c' then
            (if named then shownName.toList ++ [':'] else []) ++ Number.natText found.length ++ ['\n']
          else if o.has 'l' then (if found.isEmpty then [] else shownName.toList ++ ['\n'])
          else if o.has 'o' then
            found.flatMap fun (number, line) =>
              (e.occurrences (line.length + 1) 0 (folded line)).flatMap fun text =>
                label number ++ text ++ ['\n']
          else found.flatMap fun (number, line) => label number ++ line ++ ['\n']
        (s.write 1 output, acc.2 || !found.isEmpty)
    let (s, found) := (if names.isEmpty then ["-"] else names).foldl handle (s.withStatus 0, false)
    if s.status = 2 && !(o.has 'q' && found) then s else s.withSuccess found

end LayeredConfig.Script.Utility
