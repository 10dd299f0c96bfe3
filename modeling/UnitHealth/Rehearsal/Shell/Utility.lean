import UnitHealth.Rehearsal.Shell.State

/-!
# The small programs of a machine

Beside the shell a machine has two programs that do nothing but end, and one that prints files. That
one goes on after a file that cannot be read, says so, and ends with another status.
-/

namespace UnitHealth.Rehearsal.Shell.Utility

def contentOf (path : Bytes) : Act (Except IoError Bytes) := do
  if path = ['-'] then return ← readAll 0
  match ← reach path with
  | .error e => return .error e
  | .ok (_, none) => return .error .notFound
  | .ok (_, some .directory) => return .error .isADirectory
  | .ok (_, some (.device (.descriptor n))) => readAll n
  | .ok (place, some _) => return .ok (Bytes.ofOctets (← contentAt place))

/-- Print the files that words name, or standard input. -/
def cat (me : Bytes) (words : List Bytes) : Act Nat :=
  (if words.isEmpty then [['-']] else words).foldlM (fun status path => do
    match ← contentOf path with
    | .ok content =>
      print 1 content
      return status
    | .error e =>
      print 2 (me ++ [':', ' '] ++ path ++ [':', ' '] ++ Bytes.ofText e.reason ++ ['\n'])
      return 1) 0

def programs : List (String × (Bytes → List Bytes → Act Nat)) :=
  [("true", fun _ _ => return 0), ("false", fun _ _ => return 1), ("cat", cat)]

end UnitHealth.Rehearsal.Shell.Utility
