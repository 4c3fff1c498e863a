import LayeredConfig.Script.Shell

/-!
# Conditions

The conditions that the test command evaluates: about texts, numbers and
files, with negation, conjunction, disjunction and parentheses.
-/

namespace LayeredConfig.Script.Condition

/-- Why a condition has no truth value. -/
inductive Problem where
  /-- A text is no number. -/
  | illegalNumber (text : String)
  /-- No operator is expected behind a word. -/
  | unexpectedOperator (text : String)
  /-- An operand is missing. -/
  | missingOperand (operator : String)
  /-- A closing parenthesis is missing. -/
  | unclosed
  deriving DecidableEq, Repr

/-- The message of a problem. -/
def Problem.message : Problem → String
  | .illegalNumber text => "Illegal number: " ++ text
  | .unexpectedOperator text => text ++ ": unexpected operator"
  | .missingOperand operator => operator ++ ": argument expected"
  | .unclosed => "closing paren expected"

/-- The number that a text writes. -/
def number (text : String) : Except Problem Int :=
  match Arithmetic.withoutSpace text.toList with
  | '-' :: digits => orIllegal ((Number.readNat? 10 digits).map fun n => -(n : Int))
  | '+' :: digits => orIllegal ((Number.readNat? 10 digits).map Int.ofNat)
  | digits => orIllegal ((Number.readNat? 10 digits).map Int.ofNat)
where
  /-- The number, or the complaint that there is none. -/
  orIllegal : Option Int → Except Problem Int
    | some n =>
      if Arithmetic.least ≤ n ∧ n ≤ Arithmetic.largest then .ok n else .error (.illegalNumber text)
    | none => .error (.illegalNumber text)

/-- The operators in front of one operand. -/
def unaryOperators : List String :=
  ["-b", "-c", "-d", "-e", "-f", "-g", "-h", "-k", "-L", "-n", "-O", "-G", "-p", "-r", "-s", "-S",
    "-t", "-u", "-w", "-x", "-z"]

/-- The operators between two operands. -/
def binaryOperators : List String :=
  ["=", "!=", "<", ">", "-eq", "-ne", "-lt", "-le", "-gt", "-ge", "-nt", "-ot", "-ef"]

/-- The permission bits that make a file a program. -/
def executableBits : Nat := 0o111

/-- The truth of an operator in front of an operand. -/
def unary (tree : FileTree) (operator operand : String) : Bool :=
  let p : Path := Shell.pathOf operand.toList
  let node (followLast : Bool) : Option Node :=
    match tree.locate followLast p with
    | .ok (_, node) => node
    | .error _ => none
  match operator with
  | "-n" => operand != ""
  | "-z" => operand == ""
  | "-d" => tree.isDirectory p
  | "-f" => tree.isFile p
  | "-s" =>
    match node true with
    | some (.file _ content) => content.size != 0
    | some .directory => true
    | _ => false
  | "-x" =>
    match node true with
    | some (.file mode _) => mode &&& executableBits != 0
    | some .directory => true
    | _ => false
  | "-h" => (node false matches some (.link _))
  | "-L" => (node false matches some (.link _))
  | "-c" => operand == Shell.nullDevice
  | "-t" => false
  | "-b" => false
  | "-p" => false
  | "-S" => false
  | "-g" => false
  | "-k" => false
  | "-u" => false
  | _ => operand == Shell.nullDevice || (node true).isSome

/-- The truth of an operator between two operands. -/
def binary (tree : FileTree) (operator first second : String) : Except Problem Bool :=
  let compare (test : Int → Int → Bool) : Except Problem Bool := do
    .ok (test (← number first) (← number second))
  match operator with
  | "=" => .ok (first == second)
  | "!=" => .ok (first != second)
  | "<" => .ok (first < second)
  | ">" => .ok (second < first)
  | "-eq" => compare fun a b => a == b
  | "-ne" => compare fun a b => a != b
  | "-lt" => compare fun a b => a < b
  | "-le" => compare fun a b => a ≤ b
  | "-gt" => compare fun a b => b < a
  | "-ge" => compare fun a b => b ≤ a
  | "-ef" =>
    match tree.existing? (Shell.pathOf first.toList), tree.existing? (Shell.pathOf second.toList) with
    | .ok (a, _), .ok (b, _) => .ok (a == b)
    | _, _ => .ok false
  | _ => .ok false

mutual

/-- Read conditions of which one has to hold. -/
def readAny (tree : FileTree) : Nat → List String → Except Problem (Bool × List String)
  | 0, _ => .error .unclosed
  | fuel + 1, words => do
    let (first, rest) ← readAll tree fuel words
    match rest with
    | "-o" :: rest =>
      let (second, rest) ← readAny tree fuel rest
      .ok (first || second, rest)
    | rest => .ok (first, rest)

/-- Read conditions of which each has to hold. -/
def readAll (tree : FileTree) : Nat → List String → Except Problem (Bool × List String)
  | 0, _ => .error .unclosed
  | fuel + 1, words => do
    let (first, rest) ← readOne tree fuel words
    match rest with
    | "-a" :: rest =>
      let (second, rest) ← readAll tree fuel rest
      .ok (first && second, rest)
    | rest => .ok (first, rest)

/-- Read one condition. An operator between two words comes first. -/
def readOne (tree : FileTree) : Nat → List String → Except Problem (Bool × List String)
  | 0, _ => .error .unclosed
  | fuel + 1, words => do
    match words with
    | [] => .ok (false, [])
    | [word] => .ok (word != "", [])
    | first :: second :: rest =>
      match rest with
      | third :: more =>
        if binaryOperators.contains second then .ok (← binary tree second first third, more)
        else readOther tree fuel first (second :: rest)
      | [] =>
        if binaryOperators.contains second && !unaryOperators.contains first && first != "!" then
          .error (.missingOperand second)
        else readOther tree fuel first [second]

/-- Read a negation, parentheses, an operator in front of a word, or a word. -/
def readOther (tree : FileTree) : Nat → String → List String → Except Problem (Bool × List String)
  | 0, _, _ => .error .unclosed
  | fuel + 1, first, rest => do
    if first = "!" then
      let (inside, rest) ← readOne tree fuel rest
      .ok (!inside, rest)
    else if first = "(" && rest == [")"] then .ok (false, [])
    else if first = "(" then
      let (inside, rest) ← readAny tree fuel rest
      match rest with
      | ")" :: rest => .ok (inside, rest)
      | _ => .error .unclosed
    else if unaryOperators.contains first then
      match rest with
      | operand :: rest => .ok (unary tree first operand, rest)
      | [] => .error (.missingOperand first)
    else .ok (first != "", rest)

end

/-- The truth of a condition. Where words are left, the last word of the
condition is to blame. -/
def evaluate (tree : FileTree) (words : List String) : Except Problem Bool := do
  let (truth, rest) ← readAny tree (4 * words.length + 8) words
  if rest.isEmpty then .ok truth
  else .error (.unexpectedOperator ((words[words.length - rest.length - 1]?).getD ""))

end LayeredConfig.Script.Condition
