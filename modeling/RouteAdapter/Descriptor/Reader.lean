import RouteAdapter.Descriptor.Record
import RouteAdapter.Files.Tree
import RouteAdapter.Json.Document
import RouteAdapter.Toml.Reader

/-!
# Descriptor files

Descriptors are TOML or JSON documents; the extension of a file says which.
-/

namespace RouteAdapter

inductive DescriptorError
  | unreadable (e : FileError)
  | toml (fault : DecodeFault)
  | json (fault : DecodeFault)
  | unknownFormat (extension : String)

def DescriptorError.message : DescriptorError → String
  | unreadable e => "Failed to read descriptor file: " ++ e.message
  | toml fault => "Failed to parse TOML descriptors: " ++ fault.message
  | json fault => "Failed to parse JSON descriptors: " ++ fault.message
  | unknownFormat extension =>
    "Unknown descriptor format `" ++ extension ++ "` (expected .toml or .json)"

namespace ControllerSet

def ofToml (s : String) : Except DescriptorError ControllerSet :=
  (Toml.decode record.decode s).mapError .toml

def ofJson (s : String) : Except DescriptorError ControllerSet :=
  (Json.decode record.decode s).mapError .json

def ofFile (files : Files) (path : String) : Except DescriptorError ControllerSet := do
  let s ← (files.readText path).mapError .unreadable
  match (Path.extension? path).getD "" with
  | "toml" => ofToml s
  | "json" => ofJson s
  | other => throw (.unknownFormat other)

end ControllerSet
end RouteAdapter
