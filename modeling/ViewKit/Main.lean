/-
# The program

Reads the files that the command on the command line names, and carries it out.
-/
import ViewKit.CommandLine

open ViewKit

/-- The contents of a file, if it can be read as text. -/
def readContents? (file : String) : IO (Option String) := do
  try
    return some (← IO.FS.readFile file)
  catch _ =>
    return none

/-- The outcome of some arguments on the files of the system. -/
def outcomeOf (arguments : List String) : IO Command.Outcome := do
  match Command.read? arguments with
  | none => return .usage
  | some command =>
    let mut contents : List (String × String) := []
    for file in command.files do
      if let some text ← readContents? file then
        contents := contents ++ [(file, text)]
    return Command.run (fun file => Fields.get? file contents) arguments

def main (arguments : List String) : IO UInt32 := do
  let outcome ← outcomeOf arguments
  IO.print outcome.output
  IO.eprint outcome.errors
  return UInt32.ofNat outcome.code
