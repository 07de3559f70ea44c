import CompletionClient.CommandLine.Run
/-!
# The program

`main` runs the command line on the machine: the arguments and the
`CODEIUM_*` variables of the process, the working folder, and the machine's
file system.  Arguments and variables are taken as texts of code points, and
what the program prints is made back into characters.
-/

open CompletionClient CompletionClient.CommandLine

/-- The error number carried by an input/output error. -/
def errorNumber : IO.Error → Nat
  | .alreadyExists _ c _ | .otherError c _ | .resourceBusy c _ | .resourceVanished c _
  | .unsupportedOperation c _ | .hardwareFault c _ | .unsatisfiedConstraints c _
  | .illegalOperation c _ | .protocolError c _ | .timeExpired c _ | .interrupted _ c _
  | .noFileOrDirectory _ c _ | .invalidArgument _ c _ | .permissionDenied _ c _
  | .resourceExhausted _ c _ | .inappropriateType _ c _ | .noSuchThing _ c _ => c.toNat
  | .unexpectedEof | .userError _ => 5

/-- The machine's file system.  A path that opens and whose `.` opens too is
a folder; one that opens alone is a file. -/
instance : FileSystem IO where
  find p := do
    match ← (IO.FS.Handle.mk p .read).toBaseIO with
    | .ok _ =>
      match ← (IO.FS.Handle.mk (p ++ "/.") .read).toBaseIO with
      | .ok _ => return .folder
      | .error _ => return .file
    | .error e =>
      let n := errorNumber e
      if n = OsError.missing then return .missing
      else if n = OsError.notFolder then return .blocked
      else return .file
  read p := do
    match ← (IO.FS.readBinFile p).toBaseIO with
    | .ok bytes => return .ok bytes.toList
    | .error e => return .error ⟨errorNumber e, p⟩
  makeFolder p := do
    match ← (IO.FS.createDir p).toBaseIO with
    | .ok () => return .ok ()
    | .error e => return .error ⟨errorNumber e, p⟩

/-- The variables the program reads. -/
def settingNames : List String :=
  ["CODEIUM_IDE_NAME", "CODEIUM_IDE_VERSION", "CODEIUM_API_SERVER_URL", "CODEIUM_SUPPORT_ROOT",
   "CODEIUM_API_KEY"]

/-- Runs the command line and exits with its exit code. -/
def main (args : List String) : IO UInt32 := do
  let mut env := []
  for name in settingNames do
    if let some v ← IO.getEnv name then env := env ++ [(name, Text.ofChars v)]
  let home := (← IO.getEnv "HOME").getD "/"
  let cwd ← IO.currentDir
  let out ← run ⟨home, home, []⟩ (args.map Text.ofChars) env cwd.toString
  IO.print (Text.toChars out.stdout)
  IO.eprint (Text.toChars out.stderr)
  if let some f := out.escaped then IO.eprint (Text.toChars (reportLine f))
  return out.exitCode.toUInt32
