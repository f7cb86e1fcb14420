import Scriptlet.CommandLine.Response

/-! # The program

Looks at the files that a command line asks for, and carries the response out. -/

namespace Scriptlet

open CommandLine

/-- What is found at a path. -/
def look (path : String) : IO Found := do
  match ← (IO.FS.readBinFile path).toBaseIO with
  | .ok content => return .file content
  | .error (.noFileOrDirectory ..) | .error (.noSuchThing ..) => return .nothing
  | .error (.inappropriateType _ 21 _) => return .directory
  | .error (.invalidArgument _ 22 _) => return .unnameable
  | .error (.invalidArgument ..) => return .overlong
  | .error _ => return .blocked

/-- The status with which the program ends. -/
def Ending.status : Ending → UInt32
  | .exit status => status.toUInt32
  | .error _ => 1
  | .breakdown _ => 1

/-- Carries a response out. -/
def carryOut (response : Response) : IO UInt32 := do
  for (path, content) in response.files do
    IO.FS.writeFile path content
  (← IO.getStdout).putStr response.output
  (← IO.getStderr).putStr response.report
  return Ending.status response.ending

end Scriptlet

open Scriptlet CommandLine in
/-- Responds to a command line. -/
def main (words : List String) : IO UInt32 := do
  let request := Request.ofWords words
  let found ← request.paths.mapM fun path => return (path, ← look path)
  carryOut (request.respond fun path => (found.lookup path).getD .nothing)
