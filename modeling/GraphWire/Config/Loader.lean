import GraphWire.Config.Overrides
import GraphWire.Config.TomlFile
import GraphWire.Config.JsonFile

/-!
# Loading a configuration

A configuration is loaded from what a program sees of its machine: its environment variables
and its files (`Host`).

* `Host.loadFile` reads one file. Blank text gives the defaults; otherwise the file's extension,
  exactly `toml` or `json`, chooses the format, and any other extension is refused.
* `Host.defaultPath` is `graphtx/config.toml` under the user's configuration directory:
  `XDG_CONFIG_HOME` when it is an absolute path, else `.config` in the home directory.
* `Host.loadUnvalidated` reads the given file, or else the default file if it exists, or else
  starts from the defaults, and then applies the environment's overrides.
* `Host.load` does the same and validates the result.
-/

namespace GraphWire

/-- What stands at a path: a file with its text, or a directory. -/
inductive FileEntry where
  | text (content : String)
  | directory
deriving DecidableEq, Repr

/-- What a program sees of its machine: environment variables and the entries at paths. -/
structure Host where
  env : List (String × String)
  files : List (String × FileEntry)
deriving Repr

namespace Path

/-- The last component of a path, if it names something other than the parent. -/
def fileName (path : String) : Option String :=
  let parts := (path.splitOn "/").filter (fun p => !p.isEmpty && p != ".")
  match parts.getLast? with
  | some ".." => none
  | some p => some p
  | none => none

/-- The extension of a path: what follows the last dot of its file name, unless the name has
no dot or its only dot starts it. -/
def extension (path : String) : Option String :=
  match fileName path with
  | none => none
  | some name =>
    match (name.splitOn ".").reverse with
    | after :: before :: rest =>
      if rest.isEmpty && before.isEmpty then none else some after
    | _ => none

/-- The components of a path, without empty and `.` components. -/
def components (path : String) : List String :=
  (path.splitOn "/").filter (fun p => !p.isEmpty && p != ".")

/-- Whether a path starts at the root. -/
def isAbsolute (path : String) : Bool := path.startsWith "/"

/-- Whether two paths name the same place by their text: the same components, both absolute
or both relative. -/
def same (p q : String) : Bool := isAbsolute p == isAbsolute q && components p == components q

/-- Whether a path names a place inside another's. -/
def inside (p dir : String) : Bool :=
  isAbsolute p == isAbsolute dir && (components dir).isPrefixOf (components p) &&
    (components dir).length < (components p).length

/-- A path followed by a relative part; an absolute part stands alone. -/
def join (base part : String) : String :=
  if part.startsWith "/" || base.isEmpty then part
  else if base.endsWith "/" then base ++ part
  else base ++ "/" ++ part

end Path

namespace Host

/-- The value of a variable. -/
def lookup (h : Host) (key : String) : Option String := h.env.lookup key

/-- The entry at a path: a given entry, or a directory where given entries lie inside it. The
working directory and the root are directories, and a path that goes on past a file names nothing. -/
def entry? (h : Host) (path : String) : Option FileEntry :=
  match h.files.find? (fun f => Path.same f.1 path) with
  | some (_, .text c) => if path.endsWith "/" then none else some (.text c)
  | some (_, .directory) => some .directory
  | none =>
    if (!path.isEmpty && Path.components path = []) ||
        h.files.any (fun f => Path.inside f.1 path) then some .directory
    else none

/-- Whether a path goes on past a file. -/
def pastFile (h : Host) (path : String) : Bool :=
  h.files.any fun f => match f.2 with
    | .text _ => Path.same f.1 path && path.endsWith "/" || Path.inside path f.1
    | .directory => false

/-- Whether something stands at a path. -/
def has (h : Host) (path : String) : Bool := (h.entry? path).isSome

/-- The text of a file. -/
def read (h : Host) (path : String) : Except IoFailure String :=
  match h.entry? path with
  | some (.text content) => .ok content
  | some .directory => .error .isDirectory
  | none => .error (if h.pastFile path then .notDirectory else .notFound)

/-- The home directory: `HOME` when it is not empty. -/
def home (h : Host) : Option String := (h.lookup "HOME").filter (fun v => !v.isEmpty)

/-- The user's configuration directory. -/
def configDir (h : Host) : String :=
  match (h.lookup "XDG_CONFIG_HOME").filter (fun d => d.startsWith "/") with
  | some d => d
  | none => Path.join (h.home.getD ".") ".config"

/-- Where the configuration is looked for when no file is named. -/
def defaultPath (h : Host) : String :=
  Path.join (Path.join h.configDir "graphtx") "config.toml"

/-- Read a configuration file, without overrides. -/
def loadFile (h : Host) (path : String) : Except ConfigError ClientConfig := do
  let content ← (h.read path).mapError (ConfigError.io path)
  if (Text.trim content).isEmpty then return ClientConfig.default
  match Path.extension path with
  | some "toml" => (ClientConfig.ofTomlText content).mapError ConfigError.toml
  | some "json" => (ClientConfig.ofJsonText content).mapError ConfigError.json
  | _ => throw (.unsupportedFormat path)

/-- Apply the environment's overrides to a configuration. -/
def applyEnv (h : Host) (c : ClientConfig) : Except ConfigError ClientConfig :=
  match c.applyOverrides h.lookup with
  | (c, none) => .ok c
  | (_, some e) => .error e

/-- Load the named file, or the default file if it exists, or the defaults; then apply the
environment's overrides. -/
def loadUnvalidated (h : Host) (path : Option String) : Except ConfigError ClientConfig := do
  let c ← match path with
    | some p => h.loadFile p
    | none => if h.has h.defaultPath then h.loadFile h.defaultPath else pure ClientConfig.default
  h.applyEnv c

/-- Load as `loadUnvalidated` does, then validate. -/
def load (h : Host) (path : Option String) : Except ConfigError ClientConfig := do
  let c ← h.loadUnvalidated path
  c.validate
  return c

end Host

end GraphWire
