import Marginalia.Path
import Marginalia.Text.Utf8

/-!
# File stores

A file store is a tree of directories and files below a *root*, with a working directory. A
*location* lists the names that lead from the root to a file or directory. A path that starts with a
slash is looked up from the root, any other one from the working directory; two dots lead to the
directory above, and from the root back to the root.

* `get?` is the view of a store: what is at a location. The root is always a directory.
* `spot` looks up a path but for its last name, `item?` all of it. The working directory is like any
  other one there: when it is taken away, nothing is found in it.
* `read`, `write`, `createDirectory`, `createDirectories`, `removeDirectory` and `walk` do what
  their names say, with paths.
-/

namespace Marginalia

/-! ### Errors -/

/-- Why a file or directory could not be used. -/
inductive FileError where
  | notFound
  | alreadyExists
  | notDirectory
  | isDirectory
  | busy
  | notEmpty
  | invalidArgument
  | nameTooLong
  | zeroCharacter
  | notUtf8
  /-- Any other reason, in words. -/
  | other (reason : Text)
deriving DecidableEq, Repr, Inhabited

/-- The error in words. -/
def FileError.message : FileError → Text
  | notFound => "No such file or directory (os error 2)".toList
  | alreadyExists => "File exists (os error 17)".toList
  | notDirectory => "Not a directory (os error 20)".toList
  | isDirectory => "Is a directory (os error 21)".toList
  | busy => "Device or resource busy (os error 16)".toList
  | notEmpty => "Directory not empty (os error 39)".toList
  | invalidArgument => "Invalid argument (os error 22)".toList
  | nameTooLong => "File name too long (os error 36)".toList
  | zeroCharacter => "file name contained an unexpected NUL byte".toList
  | notUtf8 => "stream did not contain valid UTF-8".toList
  | other reason => reason

/-! ### Stores -/

/-- The names that lead from the root to a place. -/
abbrev Location := List Text

/-- What may be at a location. -/
inductive Item where
  | file (content : Utf8.Bytes)
  | directory
deriving DecidableEq, Repr, Inhabited

/-- The location of a working directory right below the root. -/
def Location.work : Location := ["work".toList]

/-- The location where the lookup of a path starts, if the working directory is `here`. -/
def Path.start (here : Location) (p : Path) : Location := if isAbsolute p then [] else here

/-- Files and directories by location, and a working directory. Every directory on the way to one of
them is listed too. Unless more is said, there is only the working directory. -/
structure FileStore where
  /-- The items with their locations, each location once. -/
  items : List (Location × Item) := [(Location.work, .directory)]
  /-- The location of the working directory. -/
  here : Location := Location.work
deriving DecidableEq, Repr, Inhabited

namespace FileStore

/-- What is at a location. -/
def get? (s : FileStore) : Location → Option Item
  | [] => some .directory
  | l => s.items.lookup l

/-- Puts an item at a location in place of what was there. -/
def put (s : FileStore) (l : Location) (i : Item) : FileStore :=
  { s with items := (l, i) :: s.items.filter fun e => e.1 != l }

/-- Takes away what is at a location and below it. -/
def removeFrom (s : FileStore) (l : Location) : FileStore :=
  { s with items := s.items.filter fun e => !l.isPrefixOf e.1 }

/-- Takes away what is below a location. -/
def removeBelow (s : FileStore) (l : Location) : FileStore :=
  { s with items := s.items.filter fun e => e.1 == l || !l.isPrefixOf e.1 }

/-- The name of an item that is directly in the directory at a location. -/
def nameIn (l place : Location) : Option Text :=
  match place.getLast? with
  | some name => if place.dropLast == l then some name else none
  | none => none

/-- The names in the directory at a location, sorted by their characters. -/
def names (s : FileStore) (l : Location) : List Text :=
  (s.items.filterMap fun e => nameIn l e.1).mergeSort fun a b => !(b < a : Bool)

/-! ### Looking up paths -/

/-- The greatest number of bytes in a name. -/
def nameLimit : Nat := 255

/-- The greatest number of bytes in a path. -/
def pathLimit : Nat := 4095

/-- The number of bytes of a text. -/
def byteCount (t : Text) : Nat := (Utf8.encode t).length

/-- What is at a location, unless a name on the way is too long. -/
def look (s : FileStore) (l : Location) : Except FileError (Option Item) :=
  if l.any fun name => nameLimit < byteCount name then .error .nameTooLong else .ok (s.get? l)

/-- Goes from the directory at a location to the directory that a piece of a path leads to. -/
def enter (s : FileStore) (l : Location) (piece : Text) : Except FileError Location :=
  match Path.component? piece with
  | some (.name n) =>
    match s.look (l ++ [n]) with
    | .error e => .error e
    | .ok none => .error .notFound
    | .ok (some (.file _)) => .error .notDirectory
    | .ok (some .directory) => .ok (l ++ [n])
  | some .parent => .ok l.dropLast
  | _ => .ok l

/-- Goes from a location to the directory that pieces of a path lead to. -/
def enterAll (s : FileStore) (l : Location) (pieces : List Text) : Except FileError Location :=
  match pieces.foldlM s.enter l with
  | .error e => .error e
  | .ok l => if s.get? l = some .directory then .ok l else .error .notFound

/-- Where a path leads. -/
inductive Spot where
  /-- To a directory, by a path that does not end in its name. -/
  | directory (l : Location)
  /-- To a name in a directory; there may be nothing under that name. -/
  | name (l : Location)
deriving DecidableEq, Repr, Inhabited

/-- Where a path leads. -/
def spot (s : FileStore) (p : Path) : Except FileError Spot :=
  let pieces := p.splitOn '/'
  if p.contains '\x00' then .error .zeroCharacter
  else if p.isEmpty then .error .notFound
  else if pathLimit < byteCount p then .error .nameTooLong
  else match Path.component? (pieces.getLast?.getD []) with
    | some (.name n) =>
      (s.enterAll (Path.start s.here p) pieces.dropLast).map fun l => .name (l ++ [n])
    | _ => (s.enterAll (Path.start s.here p) pieces).map .directory

/-- What a path leads to, with its location. -/
def item? (s : FileStore) (p : Path) : Except FileError (Location × Item) :=
  match s.spot p with
  | .error e => .error e
  | .ok (.directory l) => .ok (l, .directory)
  | .ok (.name l) =>
    match s.look l with
    | .error e => .error e
    | .ok none => .error .notFound
    | .ok (some i) => .ok (l, i)

/-- The path leads to something. -/
def has (s : FileStore) (p : Path) : Bool := (s.item? p).isOk

/-- The path leads to a file. -/
def isFile (s : FileStore) (p : Path) : Bool :=
  match s.item? p with
  | .ok (_, .file _) => true
  | _ => false

/-- The path leads to a directory. -/
def isDirectory (s : FileStore) (p : Path) : Bool :=
  match s.item? p with
  | .ok (_, .directory) => true
  | _ => false

/-! ### Reading -/

/-- The content of a file. -/
def read (s : FileStore) (p : Path) : Except FileError Utf8.Bytes :=
  match s.item? p with
  | .error e => .error e
  | .ok (_, .directory) => .error .isDirectory
  | .ok (_, .file content) => .ok content

/-- The content of a file as a text. -/
def readText (s : FileStore) (p : Path) : Except FileError Text :=
  match s.read p with
  | .error e => .error e
  | .ok content =>
    match Utf8.decode? content with
    | none => .error .notUtf8
    | some t => .ok t

/-- What is below the directory at a location, at most `n` levels down: the paths by way of `p`,
each directory before what is in it. -/
def walkBelow (s : FileStore) : Nat → Path → Location → List (Path × Item)
  | 0, _, _ => []
  | n + 1, p, l => (s.names l).flatMap fun name =>
    match s.get? (l ++ [name]) with
    | none => []
    | some i => (Path.join p name, i) :: s.walkBelow n (Path.join p name) (l ++ [name])

/-- The length of the longest location. -/
def height (s : FileStore) : Nat := (s.items.map fun e => e.1.length).foldl max 0

/-- What a path leads to and all that is below it. -/
def walk (s : FileStore) (p : Path) : List (Path × Item) :=
  match s.item? p with
  | .error _ => []
  | .ok (l, i) => (p, i) :: s.walkBelow s.height p l

/-! ### Changing -/

/-- The path without slashes at its end; one of them stays where there is nothing else. -/
def dropSlashes (p : Path) : Path :=
  match (p.reverse.dropWhile (· == '/')).reverse with
  | [] => p.take 1
  | q => q

/-- Puts a file with the given content where the path leads. -/
def write (s : FileStore) (p : Path) (content : Utf8.Bytes) : Except FileError FileStore :=
  match s.spot (dropSlashes p) with
  | .error e => .error e
  | .ok (.directory _) => .error .isDirectory
  | .ok (.name l) =>
    if dropSlashes p != p then .error .isDirectory
    else match s.look l with
      | .error e => .error e
      | .ok (some .directory) => .error .isDirectory
      | .ok _ => .ok (s.put l (.file content))

/-- Makes a directory where there is nothing. -/
def createDirectory (s : FileStore) (p : Path) : Except FileError FileStore :=
  match s.spot (dropSlashes p) with
  | .error e => .error e
  | .ok (.directory _) => .error .alreadyExists
  | .ok (.name l) =>
    match s.look l with
    | .error e => .error e
    | .ok (some _) => .error .alreadyExists
    | .ok none => .ok (s.put l .directory)

/-- Makes a directory, and first the ones above it that are not there, at most `n` of them. The
store keeps the directories made before one that could not be made. -/
def createWithin (s : FileStore) : Nat → Path → FileStore × Except FileError Unit
  | 0, _ => (s, .ok ())
  | n + 1, p =>
    if p.isEmpty then (s, .ok ())
    else match s.createDirectory p with
      | .ok s => (s, .ok ())
      | .error .notFound =>
        match Path.parent? p with
        | none => (s, .error .notFound)
        | some above =>
          match s.createWithin n above with
          | (s, .error e) => (s, .error e)
          | (s, .ok ()) =>
            match s.createDirectory p with
            | .ok s => (s, .ok ())
            | .error e => (s, if s.isDirectory p then .ok () else .error e)
      | .error e => (s, if s.isDirectory p then .ok () else .error e)

/-- Makes a directory and the ones above it, so far as they are not there. -/
def createDirectories (s : FileStore) (p : Path) : FileStore × Except FileError Unit :=
  s.createWithin (p.length + 1) p

/-- Why a directory that is empty by now stays: a path that ends in one dot or two does not name it,
and the root is never taken away. -/
def refusal (p : Path) : FileError :=
  match (p.splitOn '/').getLast? with
  | some ['.'] => .invalidArgument
  | some ['.', '.'] => .notEmpty
  | _ => .busy

/-- Takes away a directory with all that is in it. What is in it goes first, so a path that leads
through the directory ends nowhere then, and nothing more is taken away. -/
def removeDirectory (s : FileStore) (p : Path) : FileStore × Except FileError Unit :=
  match s.item? p with
  | .error e => (s, .error e)
  | .ok (_, .file _) => (s, .error .notDirectory)
  | .ok (l, .directory) =>
    let s := s.removeBelow l
    match s.spot (dropSlashes p) with
    | .error .notFound => (s, .ok ())
    | .error e => (s, .error e)
    | .ok (.name l) => (s.removeFrom l, .ok ())
    | .ok (.directory _) => (s, .error (refusal (dropSlashes p)))

end FileStore

end Marginalia
