/-!
# The command-line grammar

The program `graphtx` takes global options, then one command with its own options and
arguments:

* `query <QUERY>` runs one query, with `--graph`, `--stats`, any number of `--param name=value`
  and `--format table|json`;
* `batch <FILE>` runs the lines of a file in one transaction, with `--flush-every N`;
* `config` prints the effective configuration;
* `help [COMMAND]...` prints the help of the program or of a command.

The global options `--config`, `--url`, `--username` and `--password` are accepted before the
command and after it; the last three also come from environment variables. Every command but
`help` has `-h` and `--help`.

An option is listed in help by its place in its command, globals and own options taken by that
place together and ties broken by the option's name; help comes last.
-/

namespace GraphWire.Cli

/-- How the values of an option or argument are read. -/
inductive ValueKind where
  /-- Any text. -/
  | text
  /-- A path, which must not be empty. -/
  | path
  /-- One of some names, each with its description. -/
  | choice (values : List (String × String))
  /-- A count: an unsigned decimal number. -/
  | count
  /-- A query parameter `name=value`. -/
  | param
deriving DecidableEq, Repr

/-- What an option does when given. -/
inductive Action where
  /-- Prints help. -/
  | help
  /-- Sets a switch; given twice is an error. -/
  | flag
  /-- Takes one value; given twice is an error. -/
  | set (valueName : String) (kind : ValueKind)
  /-- Takes one value each time it is given. -/
  | append (valueName : String) (kind : ValueKind)
deriving DecidableEq, Repr

/-- An option: its identity, long name, short letter, action, help, environment variable
(with whether its value is hidden in help), default and place in its command. -/
structure Opt where
  id : String
  long : String
  short : Option Char
  action : Action
  help : String
  env : Option String
  hideEnvValue : Bool
  default : Option String
  order : Nat
deriving DecidableEq, Repr

/-- A positional argument: identity, value name, help, kind, whether required, and whether it
takes every remaining value. -/
structure Positional where
  id : String
  valueName : String
  help : String
  kind : ValueKind
  required : Bool
  many : Bool
deriving DecidableEq, Repr

namespace Opt

/-- Whether the option takes a value. -/
def takesValue (o : Opt) : Bool :=
  match o.action with
  | .set _ _ | .append _ _ => true
  | _ => false

/-- The name of the option's value. -/
def valueName? (o : Opt) : Option String :=
  match o.action with
  | .set n _ | .append n _ => some n
  | _ => none

/-- How the option's values are read. -/
def kind (o : Opt) : ValueKind :=
  match o.action with
  | .set _ k | .append _ k => k
  | _ => .text

/-- The option as errors and usage name it: `--url <URL>`, `--graph`. -/
def display (o : Opt) : String :=
  match o.valueName? with
  | some n => "--" ++ o.long ++ " <" ++ n ++ ">"
  | none => "--" ++ o.long

/-- The names of the option's possible values. -/
def choices (o : Opt) : List String :=
  match o.kind with
  | .choice vs => vs.map (·.1)
  | _ => []

end Opt

/-- The argument as errors and usage name it: `<QUERY>`, or `[COMMAND]...` for an optional
argument of many values. -/
def Positional.display (p : Positional) : String :=
  (if p.required then "<" ++ p.valueName ++ ">" else "[" ++ p.valueName ++ "]") ++
    (if p.many then "..." else "")

/-- A command: its name, description, own options and positional arguments. -/
structure Command where
  name : String
  about : String
  options : List Opt
  positionals : List Positional
  helpFlag : Bool
  globals : Bool
deriving Repr

/-- The program: its name, description, global options and commands. -/
structure Program where
  name : String
  about : String
  globals : List Opt
  commands : List Command
deriving Repr

/-- The help option. -/
def helpOpt : Opt :=
  ⟨"help", "help", some 'h', .help, "Print help", none, false, none, 999⟩

/-- The global options. -/
def globalOptions : List Opt := [
  ⟨"config", "config", none, .set "CONFIG" .path,
    "Config file (TOML or JSON); defaults to ~/.config/graphtx/config.toml", none, false, none, 0⟩,
  ⟨"url", "url", none, .set "URL" .text, "Base URL of the REST API", some "GRAPHTX_URL", false,
    none, 1⟩,
  ⟨"username", "username", none, .set "USERNAME" .text, "Basic auth username",
    some "GRAPHTX_USERNAME", false, none, 2⟩,
  ⟨"password", "password", none, .set "PASSWORD" .text, "Basic auth password",
    some "GRAPHTX_PASSWORD", true, none, 3⟩]

/-- The output formats of a query result. -/
def formatChoices : List (String × String) :=
  [("table", "Human-readable table"), ("json", "Machine-readable JSON")]

/-- The `query` command. -/
def queryCommand : Command :=
  ⟨"query", "Run one query in an atomic transaction", [
    ⟨"graph", "graph", none, .flag, "Return a graph instead of rows", none, false, none, 0⟩,
    ⟨"stats", "stats", none, .flag, "Include execution statistics", none, false, none, 1⟩,
    ⟨"params", "param", none, .append "PARAMS" .param,
      "Query parameter as name=value; the value is parsed as JSON, else taken as a string", none,
      false, none, 2⟩,
    ⟨"format", "format", none, .set "FORMAT" (.choice formatChoices), "Output format", none,
      false, some "table", 3⟩],
    [⟨"query", "QUERY", "Query text", .text, true, false⟩], true, true⟩

/-- The `batch` command. -/
def batchCommand : Command :=
  ⟨"batch", "Run each non-empty line of a file in one long-running transaction", [
    ⟨"flush_every", "flush-every", none, .set "FLUSH_EVERY" .count,
      "Flush after this many statements (0 sends everything with the commit)", none, false,
      some "0", 0⟩],
    [⟨"file", "FILE", "File with one query per line", .path, true, false⟩], true, true⟩

/-- The `config` command. -/
def configCommand : Command :=
  ⟨"config", "Print the effective configuration", [], [], true, true⟩

/-- The `help` command, which names the command whose help to print. -/
def helpCommand : Command :=
  ⟨"help", "Print this message or the help of the given subcommand(s)", [],
    [⟨"subcommand", "COMMAND", "Print help for the subcommand(s)", .text, false, true⟩], false,
    false⟩

/-- The program `graphtx`. -/
def program : Program :=
  ⟨"graphtx", "Run queries against a graph database over its HTTP transaction API",
    globalOptions, [queryCommand, batchCommand, configCommand, helpCommand]⟩

/-- The names of the program's commands. -/
def Program.commandNames (p : Program) : List String := p.commands.map (·.name)

/-- The command of a name. -/
def Program.command? (p : Program) (name : String) : Option Command :=
  p.commands.find? (·.name == name)

/-- The options a command accepts, in the order they were declared: its own, then the globals,
then help. -/
def Command.allOptions (c : Command) (p : Program) : List Opt :=
  c.options ++ (if c.globals then p.globals else []) ++ (if c.helpFlag then [helpOpt] else [])

/-- The options the program accepts before a command. -/
def Program.rootOptions (p : Program) : List Opt := p.globals ++ [helpOpt]

/-- Whether a command has a long help, which lists the descriptions of possible values. -/
def Command.hasLongHelp (c : Command) : Bool :=
  c.options.any fun o => match o.kind with
    | .choice vs => vs.any (fun v => !v.2.isEmpty)
    | _ => false

end GraphWire.Cli
