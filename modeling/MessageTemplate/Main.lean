/-
The outer layer of the program: it reads the file that is needed, runs the program, and
writes what the run leaves behind.
-/
import MessageTemplate.CommandLine

namespace MessageTemplate

namespace CommandLine

/-- The content of a file, if it can be read as text. -/
def readFile? (name : String) : IO (Option String) := do
  try
    return some (← IO.FS.readFile name)
  catch _ =>
    return none

/-- Runs the program with the files of the system. -/
def runInSystem (words : List String) : IO UInt32 := do
  let content ←
    match fileNeeded words with
    | some name => readFile? name
    | none => pure none
  let outcome := run (fun _ => content) words
  IO.print outcome.output
  IO.eprint outcome.messages
  return outcome.status.code.toUInt32

end CommandLine

end MessageTemplate

def main (words : List String) : IO UInt32 :=
  MessageTemplate.CommandLine.runInSystem words
