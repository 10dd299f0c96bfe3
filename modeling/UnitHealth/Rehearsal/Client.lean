import UnitHealth.Text.Lines
import UnitHealth.Text.Utf8

/-!
# The client in a rehearsal

In a rehearsal the client of the service manager is a script. It notes its arguments and answers
from three files of the working directory: what it prints, what it prints on standard error, and
how it ends. The question for the units is answered from files of one name, every other question
from files of another name. The last of the three files holds an exit code, or a signal that the
client sends itself.

The notes are a file of lines, one for each call, in which every argument is followed by a
separator. They are read back as they were written, as long as no argument holds a line feed or the
separator itself.
-/

namespace UnitHealth.Rehearsal.Client

def text : String :=
  "#!/bin/sh\n" ++
  "for a in \"$@\"; do printf '%s\\037' \"$a\"; done >> calls.log\n" ++
  "printf '\\n' >> calls.log\n" ++
  "k=show\n" ++
  "for a in \"$@\"; do [ \"$a\" = list-units ] && k=list; done\n" ++
  "cat \"$k.out\"\n" ++
  "cat \"$k.err\" >&2\n" ++
  "read -r c < \"$k.code\"\n" ++
  "case \"$c\" in\n" ++
  "sig*) kill -\"$\x7bc#sig\x7d\" $$ ;;\n" ++
  "*) exit \"$c\" ;;\n" ++
  "esac\n"

def notes : String := "calls.log"

def separator : Char := '\x1f'

/-- The arguments in one line of the notes. What follows the last separator counts only when it is
not empty. -/
def argumentsOf (line : String) : List String :=
  let parts := (line.toList.splitOnP (· == separator)).map String.ofList
  if parts.getLast? = some "" then parts.dropLast else parts

/-- The arguments of each call in the notes. -/
def callsOf (octets : Text.Octets) : List (List String) :=
  (Text.lines (Text.decodeLossy octets)).map argumentsOf

end UnitHealth.Rehearsal.Client
