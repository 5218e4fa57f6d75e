import InterfaceManager.CommandLine.Run
import InterfaceManager.Json.Reader
import InterfaceManager.Notice.Codec
import InterfaceManager.System.Description

/-!
# The program

The program runs its command line on the machine that is described in JSON
on the standard input; an empty input describes a machine without files and
interfaces.
-/

namespace InterfaceManager.Program

/-- The environment variable that asks for a log filter. -/
def filterVariable : String := "RUST_LOG"

def readMachine (text : String) : Except String Machine :=
  if text.toList.all Char.isWhitespace then .ok (.start .fresh .empty)
  else
    match Json.parse? text with
    | none => .error "the description of the machine is no JSON"
    | some v => (Machine.ofJson v).mapError Json.Misfit.message

end InterfaceManager.Program

open InterfaceManager Program

/-- Runs the program. -/
def main (words : List String) : IO UInt32 := do
  let stdout ← IO.getStdout
  let stderr ← IO.getStderr
  match readMachine (← (← IO.getStdin).readToEnd) with
  | .error message =>
    stderr.putStrLn message
    return 2
  | .ok machine =>
    let ending :=
      CommandLine.run machine (← IO.getEnv filterVariable) words
    for entry in ending.logged do
      stderr.putStrLn entry.toJson.render
    for line in ending.output do
      stdout.putStrLn line
    for line in ending.errors do
      stderr.putStrLn line
    return ending.code.toUInt32
