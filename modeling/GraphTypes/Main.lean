import GraphTypes.CommandLine.Run

/-!
# The program

Runs a command line on the files of the system.
-/

open GraphTypes.CommandLine

/-- The number of an error of the system. Some calls give it negated. -/
def errorNumber (code : UInt32) : UInt32 := min code (-code)

/-- What an error of the system means for a file. -/
def fileError : IO.Error → FileError
  | .noFileOrDirectory .. => .notFound
  | .inappropriateType _ code _ => if errorNumber code = 21 then .isDirectory else .notDirectory
  | .permissionDenied .. => .other "Permission denied (os error 13)"
  | e@(.invalidArgument _ code _) =>
    if errorNumber code = 36 then .nameTooLong else .other (toString e)
  | e => .other (toString e)

/-- Access to the files of the system. -/
def systemFiles : FileAccess IO where
  read path := do
    try
      match String.fromUTF8? (← IO.FS.readBinFile path) with
      | some text => return .ok text
      | none => return .error .notText
    catch e => return .error (fileError e)
  write path text := do
    try
      IO.FS.writeFile path text
      return .ok ()
    catch e => return .error (fileError e)

/-- Runs the command line and prints what it yields. -/
def main (words : List String) : IO UInt32 := do
  let outcome ← run systemFiles words
  IO.print outcome.stdout
  IO.eprint outcome.stderr
  return outcome.code.toUInt32
