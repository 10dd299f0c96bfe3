import UnitHealth.Rehearsal.Tree
import UnitHealth.Rehearsal.Shell.Bytes

/-!
# Launching programs

A file is a program when it may be run and its first line names an interpreter, which then gets the
path of the file before the arguments. The interpreter can be such a file itself, but not without
end. A program that is no text is launched as it is.
-/

namespace UnitHealth.Rehearsal.Shell

/-- A program that is no text, with the arguments that it gets, the first of them its own name. -/
structure Launch where
  program : String
  arguments : List Bytes

namespace Launch

def isLineBlank (c : Char) : Bool :=
  c == ' ' || c == '\t'

/-- The interpreter that the first line of a script names, with the one argument that may follow. -/
def interpreter? (content : Bytes) : Option (Bytes × List Bytes) :=
  match content with
  | '#' :: '!' :: rest =>
    let line := (rest.takeWhile (· ≠ '\n')).dropWhile isLineBlank
    let path := line.takeWhile fun c => !isLineBlank c
    let argument := (line.drop path.length).dropWhile isLineBlank
    let argument := (argument.reverse.dropWhile isLineBlank).reverse
    if path.isEmpty then none else some (path, if argument.isEmpty then [] else [argument])
  | _ => none

/-- The greatest number of files that may interpret one another. -/
def interpreterLimit : Nat := 6

/-- The launch of what a path stands for, seen from a directory. A file hands over to its
interpreter, for which the bound tells how often that may happen. -/
def ofItem (tree : Tree) (home : Place) :
    Nat → Except IoError Item → Bytes → List Bytes → Except IoError Launch
  | _, .error e, _, _ => .error e
  | _, .ok (.program p), name, arguments => .ok ⟨p, name :: arguments⟩
  | 0, .ok _, _, _ => .error .tooManyLinks
  | bound + 1, .ok (.file content true), path, arguments =>
    match interpreter? (Bytes.ofOctets content) with
    | none => .error .notExecutable
    | some (interpreter, argument) =>
      ofItem tree home bound (tree.locate home (Bytes.toText interpreter)) interpreter
        (argument ++ path :: arguments)
  | _, .ok _, _, _ => .error .permissionDenied

/-- The launch of the program at a path, which may know itself by another name. -/
def ofPath (tree : Tree) (home : Place) (path name : Bytes) (arguments : List Bytes) :
    Except IoError Launch :=
  let item := tree.locate home (Bytes.toText path)
  match item with
  | .ok (.program p) => .ok ⟨p, name :: arguments⟩
  | _ => ofItem tree home interpreterLimit item path arguments

/-- The launch of the first program of a name under directories, or why there is none. -/
def ofName (tree : Tree) (home : Place) (name : Bytes) (arguments : List Bytes) :
    IoError → List Bytes → Except IoError Launch
  | e, [] => .error e
  | e, directory :: rest =>
    let path := if directory.isEmpty then name else directory ++ ['/'] ++ name
    match ofPath tree home path name arguments with
    | .ok launch => .ok launch
    | .error e' =>
      if e' = .notFound ∨ e' = .notADirectory then ofName tree home name arguments e rest
      else if e' = .permissionDenied then ofName tree home name arguments e' rest
      else .error e'

end Launch

end UnitHealth.Rehearsal.Shell
