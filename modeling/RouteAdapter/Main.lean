import RouteAdapter.Cli.Arguments

/-!
# The command line

Reads the files that a command needs, runs it and prints what it has to say.
-/

namespace RouteAdapter.Main

/-- The system's number of an error; some errors have it negated. -/
def errorNumber (code : UInt32) : UInt32 :=
  min code (-code)

def fileError : IO.Error → FileError
  | .noFileOrDirectory .. => .notFound
  | .alreadyExists .. => .alreadyExists
  | .inappropriateType _ code details =>
    match errorNumber code with
    | 20 => .notDirectory
    | 21 => .isDirectory
    | _ => .other details
  | .invalidArgument _ code details =>
    if errorNumber code = 36 then .nameTooLong else .other details
  | e => .other (toString e)

def attempt {α : Type} (act : IO α) : IO (Except FileError α) := do
  match ← act.toBaseIO with
  | .ok a => pure (.ok a)
  | .error e => pure (.error (fileError e))

def readFiles (paths : List String) : IO Files := do
  let entries ← paths.mapM fun (path : String) => do
    let bytes ← attempt (IO.FS.readBinFile path)
    pure (path, bytes.map ByteArray.toList)
  pure (Files.ofList entries)

def writeFiles (outDir : String) (files : List (String × Bytes)) : IO Unit := do
  IO.FS.createDirAll outDir
  files.forM fun (path, bytes) => IO.FS.writeBinFile path ⟨bytes.toArray⟩

def print (p : Printed) : IO Unit := do
  IO.print p.out
  IO.eprint p.err

/-- The exit code: one after an error. -/
def report {α : Type} (p : Printed) (result : Except CommandError α) : IO UInt32 := do
  print p
  match result with
  | .ok _ => pure 0
  | .error e =>
    IO.eprintln ("Error: " ++ String.intercalate ": " e.chain)
    pure 1

def run (colored : Bool) (command : Command) : IO UInt32 := do
  let files ← readFiles command.reads
  match command with
  | .build descriptors outDir config =>
    let result ←
      match Cli.compile files config descriptors with
      | .error e => pure (.error e)
      | .ok modules =>
        let written := Cli.moduleFiles outDir modules
        let saved ← attempt (writeFiles outDir written)
        pure ((saved.mapError .output).map fun _ => written.map Prod.fst)
    report (.ofBuild colored descriptors result) result
  | .check descriptors config =>
    let result := Cli.check files config descriptors
    report (.ofCheck colored result) result
  | .inspect file verify =>
    let result := Cli.inspect files file verify
    report (.ofInspect result) result

end RouteAdapter.Main

open RouteAdapter in
def main (args : List String) : IO UInt32 := do
  match Arguments.empty.read args >>= fun a => a.command.map fun c => (a.color, c) with
  | .error message =>
    IO.eprintln message
    pure 2
  | .ok (color, command) =>
    let forbidden := (← IO.getEnv "NO_COLOR").isSome
    let colored ←
      match ColorChoice.resolve forbidden color with
      | .always => pure true
      | .never => pure false
      | .auto => (← IO.getStdout).isTty
    Main.run colored command
