import GraphWire.Cli.Grammar

/-!
# Command-line errors

Why a command line is refused, and the text that says so. Each text starts with `error: `, then
the reason; then, for some errors, tips and the list of values or commands that would do; then
the usage line; and it ends by pointing at `--help`:

```
error: unexpected argument '--grap' found

  tip: a similar argument exists: '--graph'

Usage: graphtx query [OPTIONS] <QUERY>

For more information, try '--help'.
```

Errors about a value (invalid, missing, refused by its reader) show no usage line. An unknown
command named after `help help` ends after the usage line, since the `help` command has no
`--help`.
-/

namespace GraphWire.Cli

/-- Why a command line is refused. -/
inductive ParseError where
  /-- An option or argument nobody takes, with a similar option, a command named later that
  has a similar option (the command and the option), and whether a tip should tell how to pass
  it as a value. -/
  | unknownArgument (arg : String) (similar : Option String) (elsewhere : Option (String × String))
      (asValue : Bool) (usage : String)
  /-- A word that names no command, with the similar command names, and whether the command it
  was given to has `--help`. -/
  | unknownCommand (word : String) (similar : List String) (usage : String) (hasHelp : Bool)
  /-- A command name after `--`. -/
  | needlessEscape (command : String) (usage : String)
  /-- A value that is not one of the possible ones (empty: none was given). -/
  | invalidValue (arg : String) (value : String) (possible : List String) (similar : Option String)
  /-- A value its reader refused, and why. -/
  | refusedValue (arg : String) (value : String) (reason : String)
  /-- Required arguments left out. -/
  | missingRequired (args : List String) (usage : String)
  /-- No command given. -/
  | missingCommand (program : String) (commands : List String) (usage : String)
  /-- A value given to a switch. -/
  | unexpectedValue (arg : String) (value : String) (usage : String)
  /-- An option given twice. -/
  | repeated (arg : String) (usage : String)
deriving DecidableEq, Repr

/-- A value as a list shows it: quoted when it holds a blank. -/
def listed (v : String) : String :=
  if v.toList.any Char.isWhitespace then "\"" ++ v ++ "\"" else v

/-- A list of values on its own line: `  [possible values: table, json]`. -/
def valuesLine (name : String) (vs : List String) : String :=
  if vs.isEmpty then "" else "\n  [" ++ name ++ ": " ++ ", ".intercalate (vs.map listed) ++ "]"

/-- Tip lines, set off by a blank line. -/
def tips (ts : List String) : String :=
  if ts.isEmpty then "" else "\n" ++ String.join (ts.map fun t => "\n  tip: " ++ t)

namespace ParseError

/-- The reason, tips included. -/
def reason : ParseError → String
  | .unknownArgument arg similar elsewhere asValue _ =>
    "unexpected argument '" ++ arg ++ "' found" ++
      tips ((similar.map fun s => ["a similar argument exists: '" ++ s ++ "'"]).getD [] ++
        (if asValue then ["to pass '" ++ arg ++ "' as a value, use '-- " ++ arg ++ "'"] else []) ++
        (elsewhere.map fun (c, o) => ["'" ++ c ++ " " ++ o ++ "' exists"]).getD [])
  | .unknownCommand word similar _ _ =>
    "unrecognized subcommand '" ++ word ++ "'" ++
      (match similar with
        | [] => ""
        | [s] => tips ["a similar subcommand exists: '" ++ s ++ "'"]
        | ss => tips ["some similar subcommands exist: " ++
            ", ".intercalate (ss.map fun s => "'" ++ s ++ "'")])
  | .needlessEscape command _ =>
    "unexpected argument '" ++ command ++ "' found" ++
      tips ["subcommand '" ++ command ++ "' exists; to use it, remove the '--' before it"]
  | .invalidValue arg value possible similar =>
    (if value.isEmpty then "a value is required for '" ++ arg ++ "' but none was supplied"
     else "invalid value '" ++ value ++ "' for '" ++ arg ++ "'") ++
      valuesLine "possible values" possible ++
      tips ((similar.map fun s => ["a similar value exists: '" ++ s ++ "'"]).getD [])
  | .refusedValue arg value why => "invalid value '" ++ value ++ "' for '" ++ arg ++ "': " ++ why
  | .missingRequired args _ =>
    "the following required arguments were not provided:" ++
      String.join (args.map fun a => "\n  " ++ a)
  | .missingCommand program commands _ =>
    "'" ++ program ++ "' requires a subcommand but one was not provided" ++
      valuesLine "subcommands" commands
  | .unexpectedValue arg value _ =>
    "unexpected value '" ++ value ++ "' for '" ++ arg ++ "' found; no more were expected"
  | .repeated arg _ => "the argument '" ++ arg ++ "' cannot be used multiple times"

/-- The usage line the error shows, if any. -/
def usage? : ParseError → Option String
  | .unknownArgument _ _ _ _ u | .unknownCommand _ _ u _ | .needlessEscape _ u
  | .missingRequired _ u | .missingCommand _ _ u | .unexpectedValue _ _ u | .repeated _ u => some u
  | .invalidValue _ _ _ _ | .refusedValue _ _ _ => none

/-- Whether the error ends by pointing at `--help`. -/
def pointsToHelp : ParseError → Bool
  | .unknownCommand _ _ _ hasHelp => hasHelp
  | _ => true

/-- The whole text of the error. -/
def render (e : ParseError) : String :=
  "error: " ++ e.reason ++ ((e.usage?.map fun u => "\n\nUsage: " ++ u).getD "") ++
    (if e.pointsToHelp then "\n\nFor more information, try '--help'.\n" else "\n")

end ParseError

end GraphWire.Cli
