import RouteAdapter.Cli.Command

/-!
# Arguments

The commands as they are typed: a word for the command, its file, and options.
-/

namespace RouteAdapter

inductive Command
  | build (descriptors outDir : String) (config : Option String)
  | check (descriptors : String) (config : Option String)
  | inspect (file : String) (verify : Bool)
  deriving DecidableEq

structure Arguments where
  words : List String
  color : Option String
  outDir : String
  config : Option String
  verify : Bool
  deriving DecidableEq

namespace Arguments

def usage : String :=
  "usage: routegen [--color <when>] build <descriptors> [--out-dir <dir>] [--config <file>]\n"
    ++ "       routegen [--color <when>] check <descriptors> [--config <file>]\n"
    ++ "       routegen [--color <when>] inspect <file> [--no-verify]"

def empty : Arguments :=
  ⟨[], none, "dist", none, true⟩

/-- The last of two equal options counts. -/
def read (a : Arguments) : List String → Except String Arguments
  | [] => .ok a
  | "--color" :: value :: rest => read { a with color := some value } rest
  | "--out-dir" :: value :: rest => read { a with outDir := value } rest
  | "-o" :: value :: rest => read { a with outDir := value } rest
  | "--config" :: value :: rest => read { a with config := some value } rest
  | "--no-verify" :: rest => read { a with verify := false } rest
  | word :: rest =>
    if word.toList.head? = some '-' then .error ("unknown option " ++ word)
    else read { a with words := a.words ++ [word] } rest

def command (a : Arguments) : Except String Command :=
  match a.words with
  | ["build", descriptors] => .ok (.build descriptors a.outDir a.config)
  | ["check", descriptors] => .ok (.check descriptors a.config)
  | ["inspect", file] => .ok (.inspect file a.verify)
  | _ => .error usage

end Arguments

def Command.reads : Command → List String
  | build descriptors _ config | check descriptors config =>
    descriptors :: config.toList ++ Cli.configPlaces descriptors
  | inspect file _ => [file]

end RouteAdapter
