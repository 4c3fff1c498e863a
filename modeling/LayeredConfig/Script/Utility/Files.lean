import LayeredConfig.Script.Format
import LayeredConfig.Script.Pattern
import LayeredConfig.Script.Utility.Operand

/-!
# Utilities for files

Utilities that list, make, remove, copy and move files and directories, and
that change the permission bits of files.
-/

namespace LayeredConfig.Script.Utility

/-- The kind of a node and its permission bits, as a listing shows them. -/
def modeText (node : Node) : String :=
  let bits (mode : Nat) : String := String.ofList <|
    (List.range 9).map fun i =>
      if mode.testBit (8 - i) then (['r', 'w', 'x'][i % 3]?).getD '-' else '-'
  match node with
  | .directory => "drwxr-xr-x"
  | .file mode _ => "-" ++ bits mode
  | .link _ => "lrwxrwxrwx"

/-- The size of a node. -/
def sizeOf (node : Node) : Nat :=
  match node with
  | .directory => 4096
  | .file _ content => content.size
  | .link target => target.text.utf8ByteSize

/-- The blocks of a node, of 1024 octets each. -/
def blocksOf (node : Node) : Nat :=
  match node with
  | .directory => 4
  | .file _ content => (content.size + 4095) / 4096 * 4
  | .link _ => 0

/-- A row of a long listing. The date of a file is not kept. -/
def longRow (width : Nat) (name : String) (node : Node) : String :=
  let size := toString (sizeOf node)
  let padding := String.ofList (List.replicate (width - size.length) ' ')
  let links := match node with
    | .directory => "2"
    | _ => "1"
  let target := match node with
    | .link target => " -> " ++ target.text
    | _ => ""
  modeText node ++ " " ++ links ++ " root root " ++ padding ++ size ++ " Jan  1 00:00 " ++ name ++
    target

/-- The rows of a listing. -/
def listingRows (long : Bool) (rows : List (String × Node)) : List String :=
  if long then
    let width := (rows.map fun row => (toString (sizeOf row.2)).length).foldl max 0
    rows.map fun row => longRow width row.1 row.2
  else rows.map Prod.fst

/-- What stands at a path, without following a link at its end. -/
def nodeAt? (tree : FileTree) (p : Path) : Option Node :=
  match tree.locate false p with
  | .ok (_, node) => node
  | .error _ => none

/-- The entries of a directory that a listing shows. -/
def entriesOf (tree : FileTree) (o : Operands) (p : Path) : List (String × Node) :=
  match tree.names p with
  | .error _ => []
  | .ok names =>
    let visible := names.filter fun name =>
      o.has 'a' || o.has 'A' || name.toList.head? != some '.'
    let entries := visible.filterMap fun name => (nodeAt? tree (p.join name)).map fun n => (name, n)
    let entries := if o.has 'a' then (".", Node.directory) :: ("..", Node.directory) :: entries
      else entries
    if o.has 'r' then entries.reverse else entries

/-- List files, and what directories hold. -/
def ls (s : Shell) (arguments : List String) : Shell :=
  let o := Operands.read "" arguments
  let names := if o.names.isEmpty then ["."] else o.names
  let (missing, there) := names.partition fun name =>
    match s.tree.existing? (pathOf name) with
    | .ok _ => false
    | .error _ => (nodeAt? s.tree (pathOf name)).isNone
  let s := missing.foldl
    (fun s name => s.complain 2 ("ls: cannot access '" ++ name ++ "': No such file or directory"))
    (s.withStatus 0)
  let (directories, files) := there.partition fun name =>
    !o.has 'd' && s.tree.isDirectory (pathOf name)
  let fileRows := files.filterMap fun name => (nodeAt? s.tree (pathOf name)).map fun n => (name, n)
  let lines (rows : List String) : String := String.join (rows.map fun row => row ++ "\n")
  let s := s.say (lines (listingRows (o.has 'l') fileRows))
  let several := 1 < names.length
  (directories.foldl
    (fun (acc : Shell × Bool) name =>
      let entries := entriesOf acc.1.tree o (pathOf name)
      let total := "total " ++ toString ((entries.map fun e => blocksOf e.2).foldl (· + ·) 0) ++ "\n"
      let shown := (entries.map fun e => (String.ofList (Octets.ofText e.1), e.2))
      let text := (if acc.2 then "\n" else "") ++ (if several then name ++ ":\n" else "") ++
        (if o.has 'l' then total else "") ++ lines (listingRows (o.has 'l') shown)
      (acc.1.say text, true))
    (s, !files.isEmpty)).1

/-- Change the tree, or complain. -/
def change (s : Shell) (answer : Except FileError FileTree) (complaint : String) : Shell :=
  match answer with
  | .ok tree => { s with tree := tree }
  | .error e => s.complain 1 (complaint ++ because e)

/-- The directory is empty. -/
def holdsNothing (tree : FileTree) (p : Path) : Bool :=
  match tree.names p with
  | .ok names => names.isEmpty
  | .error _ => false

/-- Remove files, and directories if asked to. -/
def rm (s : Shell) (arguments : List String) : Shell :=
  let o := Operands.read "" arguments
  let recursive := o.has 'r' || o.has 'R'
  o.names.foldl
    (fun s name =>
      let complaint := "rm: cannot remove '" ++ name ++ "'"
      match nodeAt? s.tree (pathOf name) with
      | none => if o.has 'f' then s else s.complain 1 (complaint ++ because .notFound)
      | some .directory =>
        if recursive || (o.has 'd' && holdsNothing s.tree (pathOf name)) then
          change s (s.tree.removeAll (pathOf name)) complaint
        else s.complain 1 (complaint ++ because .isADirectory)
      | some _ => change s (s.tree.removeAll (pathOf name)) complaint)
    (s.withStatus 0)

/-- Make directories, with their ancestors if asked to. Ancestors that are made before
a failure stay. -/
def mkdir (s : Shell) (arguments : List String) : Shell :=
  let o := Operands.read "m" arguments
  o.names.foldl
    (fun s name =>
      let p := pathOf name
      let complaint := "mkdir: cannot create directory '" ++ name ++ "'"
      if o.has 'p' then
        match s.tree.makeAllDirectories p with
        | (made, .ok ()) => { s with tree := made }
        | (made, .error e) => ({ s with tree := made } : Shell).complain 1 (complaint ++ because e)
      else change s (s.tree.makeDirectory p) complaint)
    (s.withStatus 0)

/-- Remove directories that hold nothing. -/
def rmdir (s : Shell) (arguments : List String) : Shell :=
  let o := Operands.read "" arguments
  o.names.foldl
    (fun s name =>
      let p := pathOf name
      let answer : Except FileError FileTree :=
        match nodeAt? s.tree p with
        | none => .error .notFound
        | some .directory =>
          if holdsNothing s.tree p then s.tree.removeAll p else .error .directoryNotEmpty
        | some _ => .error .notADirectory
      change s answer ("rmdir: failed to remove '" ++ name ++ "'"))
    (s.withStatus 0)

/-- Make files that are missing. -/
def touch (s : Shell) (arguments : List String) : Shell :=
  let o := Operands.read "drt" arguments
  o.names.foldl
    (fun s name =>
      match s.tree.existing? (pathOf name) with
      | .ok _ => s
      | .error _ =>
        if o.has 'c' then s
        else change s (s.tree.store (pathOf name) ByteArray.empty) ("touch: cannot touch '" ++ name ++ "'"))
    (s.withStatus 0)

/-- Copy what stands at a location and below it to another location. -/
def graft (tree : FileTree) (source target : Location) : FileTree :=
  tree.nodes.entries.foldl
    (fun result (location, node) =>
      if source.isPrefixOf location then
        result.put (target ++ location.drop source.length) node
      else result)
    tree

/-- Where an operand goes: into a directory under its own name, or to the target. -/
def destination (tree : FileTree) (target name : String) : Path :=
  if tree.isDirectory (pathOf target) then (pathOf target).join (pathOf name).baseName
  else pathOf target

/-- The operands of a command that goes to its last operand. -/
def sources (names : List String) : Option (List String × String) :=
  match names.getLast?, names.dropLast with
  | some target, first :: rest => some (first :: rest, target)
  | _, _ => none

/-- Several operands need a directory to go to. -/
def lacksDirectory (tree : FileTree) (names : List String) (target : String) : Bool :=
  1 < names.length && !tree.isDirectory (pathOf target)

/-- The bits of a copied file. -/
def copiedMode (mode : Nat) : Nat := mode &&& 0o755

/-- Copy a node to a path. -/
def copyTo (keepBits : Bool) (tree : FileTree) (location : Location) (node : Node) (p : Path) :
    Except FileError FileTree :=
  match node with
  | .file mode content =>
    match tree.existing? p, tree.store p content with
    | .error _, .ok tree => tree.setMode p (if keepBits then mode else copiedMode mode)
    | .ok _, .ok tree => if keepBits then tree.setMode p mode else .ok tree
    | _, .error e => .error e
  | _ =>
    match tree.locate false p with
    | .ok (target, _) => .ok (graft tree location target)
    | .error e => .error e

/-- Copy files, and directories if asked to. -/
def cp (s : Shell) (arguments : List String) : Shell :=
  let o := Operands.read "" arguments
  let recursive := o.has 'r' || o.has 'R' || o.has 'a'
  match sources o.names with
  | none => s.complain 1 "cp: missing file operand"
  | some (names, target) =>
    if lacksDirectory s.tree names target then
      s.complain 1 ("cp: target '" ++ target ++ "' is not a directory")
    else
      names.foldl
        (fun s name =>
          match s.tree.existing? (pathOf name) with
          | .error e => s.complain 1 ("cp: cannot stat '" ++ name ++ "'" ++ because e)
          | .ok (location, node) =>
            if node = .directory ∧ recursive = false then
              s.complain 1 ("cp: -r not specified; omitting directory '" ++ name ++ "'")
            else
              let p := destination s.tree target name
              change s (copyTo (o.has 'p' || o.has 'a') s.tree location node p)
                ("cp: cannot create regular file '" ++ p.text ++ "'"))
        (s.withStatus 0)

/-- Move files and directories. -/
def mv (s : Shell) (arguments : List String) : Shell :=
  let o := Operands.read "" arguments
  match sources o.names with
  | none => s.complain 1 "mv: missing file operand"
  | some (names, target) =>
    if lacksDirectory s.tree names target then
      s.complain 1 ("mv: target '" ++ target ++ "' is not a directory")
    else
      names.foldl
        (fun s name =>
          match s.tree.locate false (pathOf name) with
          | .ok (location, some _) =>
            let p := destination s.tree target name
            match s.tree.locate false p with
            | .ok (goal, _) =>
              if goal = location then
                s.complain 1 ("mv: '" ++ name ++ "' and '" ++ p.text ++ "' are the same file")
              else { s with tree := (graft (s.tree.cut goal) location goal).cut location }
            | .error e =>
              s.complain 1 ("mv: cannot move '" ++ name ++ "' to '" ++ p.text ++ "'" ++ because e)
          | .ok (_, none) => s.complain 1 ("mv: cannot stat '" ++ name ++ "'" ++ because .notFound)
          | .error e => s.complain 1 ("mv: cannot stat '" ++ name ++ "'" ++ because e))
        (s.withStatus 0)

/-- Make links. One that is not symbolic is a copy. -/
def ln (s : Shell) (arguments : List String) : Shell :=
  let o := Operands.read "" arguments
  let pair : Option (String × Path) :=
    match o.names with
    | [target] => some (target, pathOf (pathOf target).baseName)
    | target :: name :: _ => some (target, destination s.tree name target)
    | [] => none
  match pair with
  | none => s.complain 1 "ln: missing file operand"
  | some (target, p) =>
    let s := s.withStatus 0
    let s :=
      if o.has 'f' && (nodeAt? s.tree p).isSome then change s (s.tree.removeAll p) "ln" else s
    if o.has 's' then
      change s (s.tree.makeLink p (pathOf target))
        ("ln: failed to create symbolic link '" ++ p.text ++ "'")
    else if (nodeAt? s.tree p).isSome then
      s.complain 1 ("ln: failed to create hard link '" ++ p.text ++ "'" ++ because .alreadyExists)
    else
      match s.tree.existing? (pathOf target) with
      | .ok (location, node) => change s (copyTo true s.tree location node p) "ln"
      | .error e => s.complain 1 ("ln: failed to access '" ++ target ++ "'" ++ because e)

/-- Show where a link leads, or the whole path of what it leads to. -/
def readlink (s : Shell) (arguments : List String) : Shell :=
  let o := Operands.read "" arguments
  o.names.foldl
    (fun s name =>
      if o.has 'f' || o.has 'e' then
        match s.tree.canonicalize (pathOf name) with
        | .ok p => s.write 1 (Octets.ofText p.text ++ ['\n'])
        | .error _ => s.withStatus 1
      else
        match nodeAt? s.tree (pathOf name) with
        | some (.link target) => s.write 1 (Octets.ofText target.text ++ ['\n'])
        | _ => s.withStatus 1)
    (s.withStatus 0)

/-- The bits of one clause of a symbolic mode, applied to bits. -/
def clause? (bits : Nat) (text : List Char) : Option Nat :=
  let who := text.takeWhile fun c => "ugoa".toList.contains c
  let everyone := who.isEmpty || who.contains 'a'
  let mask := (if everyone || who.contains 'u' then 0o700 else 0) |||
    (if everyone || who.contains 'g' then 0o070 else 0) |||
    (if everyone || who.contains 'o' then 0o007 else 0)
  match text.drop who.length with
  | [] => none
  | operator :: letters =>
    let asked := letters.foldl
      (fun asked c =>
        asked ||| (match c with
          | 'r' => 0o444
          | 'w' => 0o222
          | 'x' => 0o111
          | 'X' => if bits &&& 0o111 != 0 then 0o111 else 0
          | _ => 0)) 0 &&& mask
    if !letters.all (fun c => "rwxXst".toList.contains c) then none
    else
      match operator with
      | '+' => some (bits ||| asked)
      | '-' => some (bits &&& (0o777 ^^^ asked))
      | '=' => some ((bits &&& (0o777 ^^^ mask)) ||| asked)
      | _ => none

/-- The bits that a mode asks for, from the bits before. -/
def newMode? (mode : String) (bits : Nat) : Option Nat :=
  let text := mode.toList
  if !text.isEmpty && text.all Format.isOctal then
    some (text.foldl (fun n d => n * 8 + (d.toNat - 48)) 0 &&& 0o777)
  else
    (Text.splitAtChar ',' text).foldlM (fun bits text => clause? bits text) bits

/-- Change the permission bits of files. -/
def chmod (s : Shell) (arguments : List String) : Shell :=
  let isOption (argument : String) : Bool := ["-R", "-v", "-f", "-c", "--"].contains argument
  let recursive := arguments.contains "-R"
  match arguments.filter fun argument => !isOption argument with
  | [] => s.complain 1 "chmod: missing operand"
  | [mode] => s.complain 1 ("chmod: missing operand after '" ++ mode ++ "'")
  | mode :: names =>
    match newMode? mode 0 with
    | none => s.complain 1 ("chmod: invalid mode: '" ++ mode ++ "'")
    | some _ =>
      let changed (tree : FileTree) (location : Location) : FileTree :=
        match tree.node? location with
        | some (.file bits content) =>
          tree.put location (.file ((newMode? mode bits).getD bits) content)
        | _ => tree
      names.foldl
        (fun s name =>
          match s.tree.existing? (pathOf name) with
          | .error e => s.complain 1 ("chmod: cannot access '" ++ name ++ "'" ++ because e)
          | .ok (location, _) =>
            let below := if recursive then s.tree.nodes.keys.filter location.isPrefixOf
              else [location]
            { s with tree := below.foldl changed s.tree })
        (s.withStatus 0)

/-- What a directive of a format shows of a node. -/
def shownOf (name : String) (node : Node) : Char → String
  | 'a' =>
    let mode := match node with
      | .file mode _ => mode
      | .directory => 0o755
      | .link _ => 0o777
    String.ofList (Nat.toDigits 8 mode)
  | 'A' => modeText node
  | 's' => toString (sizeOf node)
  | 'n' => name
  | 'F' =>
    match node with
    | .file _ content => if content.size = 0 then "regular empty file" else "regular file"
    | .directory => "directory"
    | .link _ => "symbolic link"
  | c => "?" ++ String.singleton c

/-- A format with its directives replaced. -/
def formatted (name : String) (node : Node) : List Char → String
  | '%' :: c :: rest => shownOf name node c ++ formatted name node rest
  | c :: rest => String.singleton c ++ formatted name node rest
  | [] => ""

/-- Show what is known of files, by a format. -/
def stat (s : Shell) (arguments : List String) : Shell :=
  let o := Operands.read "c" arguments
  o.names.foldl
    (fun s name =>
      let found := if o.has 'L' then
          match s.tree.existing? (pathOf name) with
          | .ok (_, node) => some node
          | .error _ => none
        else nodeAt? s.tree (pathOf name)
      match found with
      | some node => s.say (formatted name node ((o.value? 'c').getD "%n").toList ++ "\n")
      | none => s.complain 1 ("stat: cannot statx '" ++ name ++ "'" ++ because .notFound))
    (s.withStatus 0)

/-- The tests that a search applies to what it finds. -/
structure Search where
  /-- The kind of node, as a letter. -/
  kind : Option String
  /-- The pattern of the name. -/
  name : Option String
  /-- The steps below the start, at least and at most. -/
  depth : Nat × Option Nat
  deriving DecidableEq, Repr

namespace Search

/-- Read the tests of a search. -/
def read : List String → Option Search
  | [] => some ⟨none, none, (0, none)⟩
  | "-type" :: kind :: rest => (read rest).map fun t => { t with kind := some kind }
  | "-name" :: name :: rest => (read rest).map fun t => { t with name := some name }
  | "-mindepth" :: n :: rest =>
    (read rest).map fun t => { t with depth := (numberOr 0 (some n), t.depth.2) }
  | "-maxdepth" :: n :: rest =>
    (read rest).map fun t => { t with depth := (t.depth.1, Number.readNat? 10 n.toList) }
  | "-print" :: rest => read rest
  | _ => none

/-- The search finds a node at a depth. -/
def finds (t : Search) (depth : Nat) (name : Octets) (node : Node) : Bool :=
  t.depth.1 ≤ depth && t.depth.2.all (depth ≤ ·) &&
    (t.kind.all fun kind =>
      kind == (match node with
        | .directory => "d"
        | .file _ _ => "f"
        | .link _ => "l")) &&
    t.name.all fun pattern =>
      (Pattern.wildcards (pattern.toList.map fun c => (c, false))).fits name

end Search

/-- Search directories for files. -/
def find (s : Shell) (arguments : List String) : Shell :=
  let starts := arguments.takeWhile fun argument => argument.toList.head? != some '-'
  let s := s.withStatus 0
  match Search.read (arguments.drop starts.length) with
  | none => s.complain 1 "find: unknown predicate"
  | some t =>
    (if starts.isEmpty then ["."] else starts).foldl
      (fun s start =>
        match s.tree.locate false (pathOf start) with
        | .ok (location, some node) =>
          let itself := if t.finds 0 start.toList node then [start.toList] else []
          let below := s.tree.nodes.entries.filterMap fun (place, node) =>
            let steps := place.drop location.length
            let names := steps.map Octets.ofText
            if location.isPrefixOf place && t.finds steps.length (names.getLast?.getD []) node &&
                !steps.isEmpty then
              some (start.toList ++ (if start.toList.getLast? = some '/' then [] else ['/']) ++
                ['/'].intercalate names)
            else none
          s.write 1 (ofLines (itself ++ below))
        | _ => s.complain 1 ("find: '" ++ start ++ "'" ++ because .notFound))
      s

end LayeredConfig.Script.Utility
