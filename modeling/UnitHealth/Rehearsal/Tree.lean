import UnitHealth.Host.Basic

/-!
# File trees

A file tree holds directories, files, programs and devices under paths from its root. A path is
walked component by component: an empty component and a single dot stay, two dots go up, and any
other component has to name something in a directory. The first component that cannot be taken
decides the error, so a file with a slash after it is no directory, and a missing directory hides
what follows.

A file that is written keeps the right to be run that the file before it under the same path had,
and a new file has no such right.
-/

namespace UnitHealth.Rehearsal

inductive Device where
  /-- Is empty, and takes everything. -/
  | null
  /-- What a descriptor of the process leads to. -/
  | descriptor (number : Nat)
  deriving DecidableEq

inductive Item where
  | directory
  /-- A file, which may be run when the flag is set. -/
  | file (content : Text.Octets) (runnable : Bool)
  /-- A program that is no text, by its usual name. -/
  | program (name : String)
  | device (d : Device)
  deriving DecidableEq

/-- The first octets of a program that is no text. -/
def binary : Text.Octets := [0x7f, 0x45, 0x4c, 0x46, 0xff]

/-- The octets of what a path names, where a directory has none. -/
def Item.octets? : Item → Option Text.Octets
  | .directory => none
  | .file content _ => some content
  | .program _ => some binary
  | .device _ => some []

/-- A place in a tree: the components of a path from the root. -/
abbrev Place := List String

abbrev Tree := List (Place × Item)

namespace Tree

/-- The item at a place. The root is always a directory. -/
def get? (tree : Tree) (place : Place) : Option Item :=
  if place.isEmpty then some .directory
  else (List.find? (fun entry => entry.1 == place) tree).map Prod.snd

/-- Put an item at a place, instead of any other. -/
def put (tree : Tree) (place : Place) (item : Item) : Tree :=
  (place, item) :: tree.filter fun entry => entry.1 != place

def remove (tree : Tree) (place : Place) : Tree :=
  tree.filter fun entry => entry.1 != place

/-- The greatest number of octets in one component. -/
def nameLimit : Nat := 255

/-- The number of octets that a path has to stay below. -/
def pathLimit : Nat := 4096

/-- Walk from an item at a place along further components. Gives the place and what is there. The
last component may name nothing, where it names something of a directory. -/
def walk (tree : Tree) : Place → Option Item → List String → Except IoError (Place × Option Item)
  | here, item, [] => .ok (here, item)
  | here, item, name :: rest =>
    match item with
    | none => if rest.isEmpty ∧ name = "" then .ok (here, none) else .error .notFound
    | some item =>
      if item ≠ .directory then .error .notADirectory
      else if name = "" ∨ name = "." then walk tree here (some item) rest
      else if name = ".." then walk tree here.dropLast (some .directory) rest
      else if nameLimit < name.utf8ByteSize then .error .nameTooLong
      else walk tree (here ++ [name]) (tree.get? (here ++ [name])) rest

def components (path : String) : List String :=
  (path.toList.splitOnP (· == '/')).map String.ofList

def start (home : Place) (path : String) : Place :=
  if path.toList.head? = some '/' then [] else home

/-- The place to which a path leads, seen from a directory, and what is there. Where there is
nothing, the place lies in a directory that exists. -/
def reach (tree : Tree) (home : Place) (path : String) : Except IoError (Place × Option Item) :=
  if path.isEmpty then .error .notFound
  else if pathLimit ≤ path.utf8ByteSize then .error .nameTooLong
  else tree.walk (start home path) (some .directory) (components path)

def locate (tree : Tree) (home : Place) (path : String) : Except IoError Item :=
  match tree.reach home path with
  | .error e => .error e
  | .ok (_, none) => .error .notFound
  | .ok (_, some item) => .ok item

/-! ## Writing without regard to errors -/

def step (here : Place) (name : String) : Place :=
  if name = "" ∨ name = "." then here
  else if name = ".." then here.dropLast
  else here ++ [name]

/-- The place to which a path leads, seen from a directory, whatever the tree holds. -/
def resolve (home : Place) (path : String) : Place :=
  (components path).foldl step (start home path)

/-- Put directories at the places that a path passes, where the tree has nothing. -/
def makeWay (tree : Tree) (home : Place) (path : String) : Tree :=
  ((components path).dropLast.foldl
    (fun (t, here) name =>
      let there := step here name
      (if (t.get? there).isSome then t else t.put there .directory, there))
    (tree, start home path)).1

def isRunnable (tree : Tree) (place : Place) : Bool :=
  match tree.get? place with
  | some (.file _ runnable) => runnable
  | _ => false

def writeAt (tree : Tree) (place : Place) (content : Text.Octets) : Tree :=
  tree.put place (.file content (tree.isRunnable place))

def write (tree : Tree) (home : Place) (path : String) (content : Text.Octets) : Tree :=
  (tree.makeWay home path).writeAt (resolve home path) content

def makeDirectory (tree : Tree) (home : Place) (path : String) : Tree :=
  tree.makeWay home (path ++ "/")

end Tree

end UnitHealth.Rehearsal
