import RouteAdapter.Build
import RouteAdapter.Cli.Terminal
import RouteAdapter.Config.Record
import RouteAdapter.Descriptor.Reader
import RouteAdapter.Listing
import RouteAdapter.Module.Codec
import RouteAdapter.Text.Blank

/-!
# Commands

`build` compiles a descriptor file and writes one module file per class, `check` compiles without
writing, `inspect` lists a module file. A build that fails to compile writes nothing.
-/

namespace RouteAdapter

inductive CommandError
  | config (path : String) (e : ConfigError)
  | descriptors (path : String) (e : DescriptorError)
  | settings (fault : ConfigFault)
  | build (e : BuildError)
  | output (e : FileError)
  | unreadable (path : String) (e : FileError)
  | module (path : String) (e : ModuleError)
  | verification (path : String) (e : VerifyError)
  | listing (e : ReadError)

namespace CommandError

def configCauses (e : ConfigError) : List String :=
  e.message ::
    match e with
    | .unreadable e => [e.message]
    | .parse fault => [fault.message]
    | .invalid _ => []

def descriptorCauses (e : DescriptorError) : List String :=
  e.message ::
    match e with
    | .unreadable e => [e.message]
    | .toml fault | .json fault => [fault.message]
    | .unknownFormat _ => []

def buildCauses (e : BuildError) : List String :=
  e.message ::
    match e with
    | .lower (.verification _ e) => [e.message]
    | _ => []

def moduleCauses (e : ModuleError) : List String :=
  e.message ::
    match e with
    | .read e => [e.message]
    | .type e => [e.message]
    | _ => []

def chain : CommandError → List String
  | config path e => ("failed to load " ++ path) :: configCauses e
  | descriptors path e => ("failed to load " ++ path) :: descriptorCauses e
  | settings fault => [(ConfigError.invalid fault).message]
  | build e => buildCauses e
  | output e => [e.message]
  | unreadable path e => ["failed to read " ++ path, e.message]
  | module path e => ("invalid module " ++ path) :: moduleCauses e
  | verification path e => [path ++ " failed verification", e.message]
  | listing e => [e.message]

def report? : CommandError → Option Report
  | build (.aggregate r) => some r
  | _ => none

end CommandError

namespace Cli

/-! ## Compiling -/

def configFile : String := "routegen.toml"

def moduleExtension : String := "rgb"

/-- Where a configuration may be: beside the descriptors or in the working directory. -/
def configPlaces (descriptors : String) : List String :=
  ((Path.parent? descriptors).map fun dir => Path.join dir configFile).toList ++ [configFile]

/-- A configuration that is asked for has to be there. -/
def configPath? (files : Files) (explicit : Option String) (descriptors : String) : Option String :=
  match explicit with
  | some path => some path
  | none => (configPlaces descriptors).find? files.isFile

/-- The descriptor file is the source of the modules unless the configuration names one. -/
def loadConfig (files : Files) (explicit : Option String) (descriptors : String) :
    Except CommandError Config := do
  let c ←
    match configPath? files explicit descriptors with
    | some path => (Config.ofFile files path).mapError (.config path)
    | none => pure Config.standard
  pure { c with sourceFile := c.sourceFile <|> some descriptors }

def compile (files : Files) (explicit : Option String) (descriptors : String) :
    Except CommandError (List Module) := do
  let config ← loadConfig files explicit descriptors
  let set ← (ControllerSet.ofFile files descriptors).mapError (.descriptors descriptors)
  let compiler ← (Compiler.ofConfig config).mapError .settings
  (compiler.build set.controllers).mapError .build

/-! ## Build -/

def moduleFiles (outDir : String) (modules : List Module) : List (String × Bytes) :=
  modules.map fun m =>
    (Path.join outDir (m.metadata.name ++ "." ++ moduleExtension), m.encode)

def writeAll (t : FileTree) : List (String × Bytes) → Except FileError Unit × FileTree
  | [] => (.ok (), t)
  | (path, bytes) :: rest =>
    match t.write path bytes with
    | .ok t => writeAll t rest
    | .error e => (.error e, t)

/-- The written paths in the order of the classes, and the files after the build. -/
def build (t : FileTree) (explicit : Option String) (outDir descriptors : String) :
    Except CommandError (List String) × FileTree :=
  match compile t.files explicit descriptors with
  | .error e => (.error e, t)
  | .ok modules =>
    match t.makeDirectories outDir with
    | (.error e, t) => (.error (.output e), t)
    | (.ok (), t) =>
      let files := moduleFiles outDir modules
      match writeAll t files with
      | (.error e, t) => (.error (.output e), t)
      | (.ok (), t) => (.ok (files.map Prod.fst), t)

/-! ## Check -/

structure CheckSummary where
  classes : List String
  routes : Nat
  deriving DecidableEq

def check (files : Files) (explicit : Option String) (descriptors : String) :
    Except CommandError CheckSummary := do
  let modules ← compile files explicit descriptors
  pure ⟨modules.map fun m => m.metadata.name, (modules.flatMap Module.functions).length⟩

/-! ## Inspect -/

def inspect (files : Files) (path : String) (verify : Bool) : Except CommandError String := do
  let bytes ← (files.read path).mapError (.unreadable path)
  let m ← (Module.decode bytes).mapError (.module path)
  if verify then m.verify.mapError (.verification path)
  let listing ← m.listing.mapError .listing
  pure ("; " ++ path ++ " (" ++ toString bytes.length ++ " bytes)\n; sha256 " ++ m.fingerprintHex
    ++ "\n" ++ listing)

end Cli

/-! ## What commands print -/

namespace Printed

def ofFailure (colored : Bool) (e : CommandError) : Printed :=
  match e.report? with
  | some r => ofErr (reportLines colored r)
  | none => empty

def ofBuild (colored : Bool) (descriptors : String) : Except CommandError (List String) → Printed
  | .error e => ofFailure colored e
  | .ok written =>
    ofErr (if written.isEmpty then [warningLine colored ("no controllers in " ++ descriptors)]
      else [])
      ++ ofOut (written.map (statusLine colored "Wrote"))
      ++ ofOut [statusLine colored "Finished" (toString written.length ++ " class(es)")]

def ofCheck (colored : Bool) : Except CommandError Cli.CheckSummary → Printed
  | .error e => ofFailure colored e
  | .ok s =>
    ofOut (s.classes.map (statusLine colored "Checked"))
      ++ ofOut [statusLine colored "Finished"
        (toString s.classes.length ++ " class(es), " ++ toString s.routes ++ " route(s)")]

def ofInspect : Except CommandError String → Printed
  | .error _ => empty
  | .ok listing => ofOut [String.ofList (Text.trimEnd listing.toList)]

end Printed
end RouteAdapter
