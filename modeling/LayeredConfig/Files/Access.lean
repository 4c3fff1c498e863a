import LayeredConfig.Files.Tree

/-!
# Reading and changing a file tree

The operations on a file tree by path. Reading never changes the tree, and a
change is the tree that results.
-/

namespace LayeredConfig

/-- The permission bits of a file that is written for the first time. -/
def newFileMode : Nat := 0o644

/-- The absolute path of a location. -/
def Location.path (at_ : Location) : Path := ⟨"/" ++ "/".intercalate at_⟩

namespace FileTree

/-- The path leads to a regular file. -/
def isFile (tree : FileTree) (p : Path) : Bool :=
  match tree.locate true p with
  | .ok (_, some (.file _ _)) => true
  | _ => false

/-- The path leads to a directory. -/
def isDirectory (tree : FileTree) (p : Path) : Bool :=
  match tree.locate true p with
  | .ok (_, some .directory) => true
  | _ => false

/-- The location of something that exists. -/
def existing? (tree : FileTree) (p : Path) : Except FileError (Location × Node) :=
  match tree.locate true p with
  | .ok (location, some node) => .ok (location, node)
  | .ok (_, none) => .error .notFound
  | .error e => .error e

/-- The absolute path without links and steps that lead nowhere. -/
def canonicalize (tree : FileTree) (p : Path) : Except FileError Path :=
  match tree.existing? p with
  | .ok (location, _) => .ok location.path
  | .error e => .error e

/-- The content of a file. -/
def fetch (tree : FileTree) (p : Path) : Except FileError ByteArray :=
  match tree.existing? p with
  | .ok (_, .file _ content) => .ok content
  | .ok (_, .directory) => .error .isADirectory
  | .ok (_, .link _) => .error .tooManyLinks
  | .error e => .error e

/-- The content of a file as a text. -/
def fetchText (tree : FileTree) (p : Path) : Except FileError String :=
  match tree.fetch p with
  | .ok content =>
    match String.fromUTF8? content with
    | some text => .ok text
    | none => .error .invalidData
  | .error e => .error e

/-- Write a file. One that exists keeps its permission bits. -/
def store (tree : FileTree) (p : Path) (content : ByteArray) : Except FileError FileTree :=
  match tree.locate true p with
  | .ok (location, none) => .ok (tree.put location (.file newFileMode content))
  | .ok (location, some (.file mode _)) => .ok (tree.put location (.file mode content))
  | .ok (_, some .directory) => .error .isADirectory
  | .ok (_, some (.link _)) => .error .tooManyLinks
  | .error e => .error e

/-- Set the permission bits of a file. Those of directories are not kept. -/
def setMode (tree : FileTree) (p : Path) (mode : Nat) : Except FileError FileTree :=
  match tree.existing? p with
  | .ok (location, .file _ content) => .ok (tree.put location (.file mode content))
  | .ok _ => .ok tree
  | .error e => .error e

/-- Make a directory where nothing stands. -/
def makeDirectory (tree : FileTree) (p : Path) : Except FileError FileTree :=
  let written : Path := ⟨String.ofList (p.text.toList.reverse.dropWhile (· == '/')).reverse⟩
  match tree.locate false (if written.text = "" then p else written) with
  | .ok (location, none) => .ok (tree.put location .directory)
  | .ok (_, some _) => .error .alreadyExists
  | .error e => .error e

/-- Make a directory after its missing ancestors, as many as given. What is made
before a failure stays. -/
def makeDirectoriesUpTo : Nat → FileTree → Path → FileTree × Except FileError Unit
  | 0, tree, _ => (tree, .error .notFound)
  | n + 1, tree, p =>
    if p.text = "" then (tree, .ok ())
    else
      match tree.makeDirectory p with
      | .ok made => (made, .ok ())
      | .error .notFound =>
        match p.parent? with
        | none => (tree, .error .notFound)
        | some parent =>
          match makeDirectoriesUpTo n tree parent with
          | (reached, .error e) => (reached, .error e)
          | (reached, .ok ()) =>
            match reached.makeDirectory p with
            | .ok made => (made, .ok ())
            | .error e => (reached, if reached.isDirectory p then .ok () else .error e)
      | .error e => (tree, if tree.isDirectory p then .ok () else .error e)

/-- Make a directory and its missing ancestors, as far as they can be made. -/
def makeAllDirectories (tree : FileTree) (p : Path) : FileTree × Except FileError Unit :=
  makeDirectoriesUpTo (p.parts.length + 1) tree p

/-- Make a directory and its missing ancestors, all of them or none. -/
def makeDirectories (tree : FileTree) (p : Path) : Except FileError FileTree :=
  match tree.makeAllDirectories p with
  | (made, .ok ()) => .ok made
  | (_, .error e) => .error e

/-- Make a symbolic link where nothing stands. -/
def makeLink (tree : FileTree) (p target : Path) : Except FileError FileTree :=
  match tree.locate false p with
  | .ok (location, none) => .ok (tree.put location (.link target))
  | .ok (_, some _) => .error .alreadyExists
  | .error e => .error e

/-- Remove a file or a link, or a directory with everything below it. -/
def removeAll (tree : FileTree) (p : Path) : Except FileError FileTree :=
  match tree.locate false p with
  | .ok (location, some _) => .ok (tree.cut location)
  | .ok (_, none) => .error .notFound
  | .error e => .error e

/-- The names in a directory, in ascending order. -/
def names (tree : FileTree) (p : Path) : Except FileError (List String) :=
  match tree.existing? p with
  | .ok (location, .directory) => .ok (tree.childNames location)
  | .ok _ => .error .notADirectory
  | .error e => .error e

/-- A candidate for the name of a temporary directory: a stem and a number in
six digits. -/
def temporaryName (stem : String) (n : Nat) : String :=
  let digits := Nat.toDigits 10 n
  stem ++ String.ofList (List.replicate (6 - digits.length) '0' ++ digits)

/-- The first candidate from a number on that is not taken. -/
def freshNameFrom (stem : String) (taken : List String) : Nat → Nat → String
  | 0, n => temporaryName stem n
  | tries + 1, n =>
    if temporaryName stem n ∈ taken then freshNameFrom stem taken tries (n + 1)
    else temporaryName stem n

/-- Make a directory with a new name inside a directory. -/
def makeTemporary (tree : FileTree) (inside : Path) (stem : String) :
    Except FileError (FileTree × Path) :=
  match tree.names inside with
  | .error e => .error e
  | .ok taken =>
    let p := inside.join (freshNameFrom stem taken taken.length 0)
    match tree.makeDirectory p with
    | .ok tree => .ok (tree, p)
    | .error e => .error e

end FileTree

end LayeredConfig
