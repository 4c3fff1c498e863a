import LayeredConfig.Files.Path
import LayeredConfig.SortedMap

/-!
# File trees

A file tree maps locations to nodes and knows the current directory. The root
is always a directory. A path is followed step by step from the root or the
current directory, through links, as far as a fixed number of links.
-/

namespace LayeredConfig

/-- A place in a file tree: the names from the root downwards. -/
abbrev Location := List String

/-- Where a path starts: at the root, or where one is. -/
def Path.origin (p : Path) (here : Location) : Location := if p.isAbsolute then [] else here

/-- What stands at a location. -/
inductive Node where
  /-- A directory. -/
  | directory
  /-- A regular file with its permission bits and its content. -/
  | file (mode : Nat) (content : ByteArray)
  /-- A symbolic link. -/
  | link (target : Path)
  deriving Inhabited

/-- Nodes are equal if they are of one kind and have the same content. -/
instance : DecidableEq Node
  | .directory, .directory => isTrue rfl
  | .file mode content, .file mode' content' =>
    if h : mode = mode' then
      match ByteArray.instDecidableEq content content' with
      | isTrue k => isTrue (by rw [h, k])
      | isFalse k => isFalse fun e => k (by injection e)
    else isFalse fun e => h (by injection e)
  | .link target, .link target' =>
    if h : target = target' then isTrue (by rw [h]) else isFalse fun e => h (by injection e)
  | .directory, .file _ _ => isFalse nofun
  | .directory, .link _ => isFalse nofun
  | .file _ _, .directory => isFalse nofun
  | .file _ _, .link _ => isFalse nofun
  | .link _, .directory => isFalse nofun
  | .link _, .file _ _ => isFalse nofun

/-- Why an operation on a file tree fails. -/
inductive FileError where
  /-- Nothing stands there. -/
  | notFound
  /-- A file was asked for. -/
  | isADirectory
  /-- A directory was asked for. -/
  | notADirectory
  /-- Something stands there already. -/
  | alreadyExists
  /-- The content is no text. -/
  | invalidData
  /-- Links lead on without end. -/
  | tooManyLinks
  /-- The directory is not empty. -/
  | directoryNotEmpty
  deriving DecidableEq, Repr

/-- The message of a file error. -/
def FileError.message : FileError → String
  | .notFound => "No such file or directory (os error 2)"
  | .isADirectory => "Is a directory (os error 21)"
  | .notADirectory => "Not a directory (os error 20)"
  | .alreadyExists => "File exists (os error 17)"
  | .invalidData => "stream did not contain valid UTF-8"
  | .tooManyLinks => "Too many levels of symbolic links (os error 40)"
  | .directoryNotEmpty => "Directory not empty (os error 39)"

/-- Files, directories and links, and where relative paths start. -/
structure FileTree where
  /-- Everything but the root, by location. -/
  nodes : SortedMap Location Node
  /-- The current directory. -/
  current : Location

namespace FileTree

/-- The tree that holds nothing. -/
def empty : FileTree := ⟨SortedMap.empty, []⟩

/-- What stands at a location. The root is a directory. -/
def node? (tree : FileTree) (at_ : Location) : Option Node :=
  match at_ with
  | [] => some .directory
  | _ => tree.nodes.get? at_

/-- Put a node at a location. -/
def put (tree : FileTree) (at_ : Location) (node : Node) : FileTree :=
  { tree with nodes := tree.nodes.insert at_ node }

/-- Putting a node changes what stands at its location and nothing else. -/
theorem node?_put (tree : FileTree) (at_ : Location) (node : Node) (other : Location)
    (h : at_ ≠ []) :
    (tree.put at_ node).node? other = if at_ = other then some node else tree.node? other := by
  cases other with
  | nil => simp [node?, h]
  | cons name rest => simp [node?, put, SortedMap.get?_insert]

/-- Take away a location and everything below it. -/
def cut (tree : FileTree) (at_ : Location) : FileTree :=
  { tree with nodes := tree.nodes.filter fun location _ => !at_.isPrefixOf location }

/-- The name of a location directly below a directory. -/
def childName? : (directory location : Location) → Option String
  | [], [name] => some name
  | d :: ds, l :: ls => if d = l then childName? ds ls else none
  | _, _ => none

/-- A location directly below a directory is the directory's with one name more. -/
theorem childName?_eq_some_iff {directory location : Location} {name : String} :
    childName? directory location = some name ↔ location = directory ++ [name] := by
  induction directory generalizing location with
  | nil =>
    cases location with
    | nil => simp [childName?]
    | cons l ls => cases ls <;> simp [childName?]
  | cons d ds ih =>
    cases location with
    | nil => simp [childName?]
    | cons l ls =>
      by_cases h : d = l
      · simp [childName?, h, ih]
      · simp [childName?, h, Ne.symm h]

/-- The names directly below a location, in ascending order. -/
def childNames (tree : FileTree) (directory : Location) : List String :=
  tree.nodes.keys.filterMap (childName? directory)

/-- The number of links that are followed on the way. -/
def maxLinks : Nat := 40

/-- How far a walk gets without following a link. -/
inductive Walk where
  /-- The location that the path leads to, with what stands there. -/
  | arrived (at_ : Location) (node : Option Node)
  /-- A link in a directory, and the steps behind it. -/
  | atLink (directory : Location) (target : Path) (rest : List String)
  /-- The path leads nowhere. -/
  | failed (error : FileError)

/-- Take steps from a location on, up to the first link. The last step may lead
to nothing, and follows a link only if asked to. -/
def walk (tree : FileTree) (followLast : Bool) : Location → List String → Walk
  | here, [] => .arrived here (tree.node? here)
  | here, name :: rest =>
    if tree.node? here ≠ some .directory then
      .failed (if (tree.node? here).isSome then .notADirectory else .notFound)
    else if name = "." then walk tree followLast here rest
    else if name = ".." then walk tree followLast here.dropLast rest
    else
      match tree.node? (here ++ [name]) with
      | none => if rest.isEmpty then .arrived (here ++ [name]) none else .failed .notFound
      | some (.link target) =>
        if rest.isEmpty && !followLast then .arrived (here ++ [name]) (some (.link target))
        else .atLink here target rest
      | some _ => walk tree followLast (here ++ [name]) rest

/-- Take steps, following links as often as allowed. -/
def follow (tree : FileTree) (followLast : Bool) :
    Nat → Location → List String → Except FileError (Location × Option Node)
  | links, here, steps =>
    match tree.walk followLast here steps with
    | .arrived location node => .ok (location, node)
    | .failed e => .error e
    | .atLink directory target rest =>
      match links with
      | 0 => .error .tooManyLinks
      | links + 1 => follow tree followLast links (target.origin directory) (target.steps ++ rest)

/-- The location that a path leads to, with what stands there. -/
def locate (tree : FileTree) (followLast : Bool) (p : Path) :
    Except FileError (Location × Option Node) :=
  if p.text = "" then .error .notFound
  else tree.follow followLast maxLinks (p.origin tree.current) p.steps

end FileTree

end LayeredConfig
