import GraphWire.Toml.Error
import GraphWire.Json.Schema

/-! # Configuration errors

Why a configuration could not be loaded or is unusable: its file could not be read, its TOML or
JSON text is wrong, its file name has no known format, or a value is present but unusable. -/

namespace GraphWire

/-- Why a file could not be read. -/
inductive IoFailure where
  | notFound
  | isDirectory
  /-- A path that goes on past a file, as `notes.txt/`. -/
  | notDirectory
deriving DecidableEq, Repr

/-- The system's wording of a file reading failure. -/
def IoFailure.message : IoFailure → String
  | .notFound => "No such file or directory (os error 2)"
  | .isDirectory => "Is a directory (os error 21)"
  | .notDirectory => "Not a directory (os error 20)"

/-- Why a configuration could not be loaded or used. -/
inductive ConfigError where
  | io (path : String) (failure : IoFailure)
  | toml (e : Toml.Error)
  | json (e : Json.TextError)
  | unsupportedFormat (path : String)
  | invalid (field : String) (reason : String)
deriving Repr

namespace ConfigError

/-- The wording of a configuration error. -/
def message : ConfigError → String
  | .io p f => "failed to read config file " ++ p ++ ": " ++ f.message
  | .toml e => "config parse error: " ++ e.report
  | .json e => "config parse error: " ++ e.message
  | .unsupportedFormat p => "unsupported config format: " ++ p
  | .invalid f r => "invalid config value for '" ++ f ++ "': " ++ r

/-- The class of a configuration error. -/
def kind : ConfigError → String
  | .io _ _ => "Io"
  | .toml _ => "Toml"
  | .json _ => "Json"
  | .unsupportedFormat _ => "UnsupportedFormat"
  | .invalid _ _ => "Invalid"

/-- The error's wording followed by those of its causes. -/
def chain (e : ConfigError) : List String :=
  match e with
  | .io _ f => [e.message, f.message]
  | .toml t => [e.message, t.report]
  | .json j => [e.message, j.message]
  | _ => [e.message]

end ConfigError

end GraphWire
