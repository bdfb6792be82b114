import GraphWire.Cli.Grammar
import GraphWire.Json.Schema

/-!
# Help texts

The help of the program or of a command: its description, its usage line, and its commands,
arguments and options, each section under its heading.

A short help puts each entry on one line, the descriptions aligned two columns after the
longest name. A long help, which a command has when the possible values of one of its options
are described, puts each description on the lines after its entry, indented by ten, lists the
possible values with their descriptions, and leaves a blank line between entries.

After an option's description come, in brackets, the environment variable it is read from (with
its current value, unless that is secret), its default, and its possible values.
-/

namespace GraphWire.Cli

/-- `n` spaces. -/
def spaces (n : Nat) : String := String.ofList (List.replicate n ' ')

/-- The indent of descriptions in a long help. -/
def longIndent : String := spaces 10

/-- Every line after the first of a text indented. -/
def indentLines (indent : String) (s : String) : String :=
  "\n".intercalate ((s.splitOn "\n").zipIdx.map fun (l, i) => if i = 0 then l else indent ++ l)

/-- A value as a default shows it: quoted when it holds a blank. -/
def quotedIfBlank (v : String) : String :=
  if v.toList.any Char.isWhitespace then Json.debugString v else v

/-- The key options are listed by: their place, then their short letter, else their long name. -/
def Opt.sortKey (o : Opt) : Nat × String :=
  (o.order, match o.short with
    | some c => String.ofList [c.toLower, if c.isLower then '0' else '1']
    | none => o.long)

/-- Whether one option is listed before another. -/
def Opt.listedBefore (a b : Opt) : Bool :=
  let (p, s) := a.sortKey
  let (q, t) := b.sortKey
  p < q || (p == q && decide (s ≤ t))

/-- The options in the order help lists them. -/
def listOrder (os : List Opt) : List Opt := os.mergeSort Opt.listedBefore

/-- What help shows of a command. -/
structure Sheet where
  /-- The usage name: the program name, then the command's. -/
  path : String
  about : String
  commands : List (String × String)
  positionals : List Positional
  options : List Opt
  /-- Whether the command has a long help. -/
  longHelp : Bool
  /-- Whether a command must follow. -/
  needsCommand : Bool

/-- What help shows of the program itself. -/
def Program.sheet (p : Program) : Sheet :=
  ⟨p.name, p.about, p.commands.map (fun c => (c.name, c.about)), [], p.rootOptions, false, true⟩

/-- What help shows of one of the program's commands. -/
def Command.sheet (c : Command) (p : Program) : Sheet :=
  ⟨p.name ++ " " ++ c.name, c.about, [], c.positionals, c.allOptions p, c.hasLongHelp, false⟩

namespace Sheet

/-- The usage line of help: options as `[OPTIONS]`, then the arguments, then the command. -/
def usage (s : Sheet) : String :=
  s.path ++ (if s.options.any (·.id != "help") then " [OPTIONS]" else "") ++
    String.join (s.positionals.map fun a => " " ++ a.display) ++
    (if s.needsCommand then " <COMMAND>" else "")

/-- The description of an option: the help option's says whether there is more to see. -/
def optionHelp (s : Sheet) (long : Bool) (o : Opt) : String :=
  if o.action = .help ∧ s.longHelp then
    if long then "Print help (see a summary with '-h')" else "Print help (see more with '--help')"
  else o.help

/-- Whether an option's possible values are listed with their descriptions. -/
def describesValues (long : Bool) (o : Opt) : Bool :=
  long && match o.kind with
    | .choice vs => vs.any (fun v => !v.2.isEmpty)
    | _ => false

/-- The bracketed facts after an option's description. -/
def facts (env : String → Option String) (long : Bool) (o : Opt) : List String :=
  let envFact := match o.env with
    | some name =>
      if o.hideEnvValue then ["[env: " ++ name ++ "]"]
      else ["[env: " ++ name ++ "=" ++ (env name).getD "" ++ "]"]
    | none => []
  let defaultFact := match o.default with
    | some d => if o.takesValue then ["[default: " ++ quotedIfBlank d ++ "]"] else []
    | none => []
  let valuesFact :=
    if o.choices.isEmpty || describesValues long o then []
    else ["[possible values: " ++ ", ".intercalate o.choices ++ "]"]
  envFact ++ defaultFact ++ valuesFact

/-- An option's entry before its description: `  -h, --help`, `      --url <URL>`. -/
def optionHead (o : Opt) : String :=
  "  " ++ (match o.short with
    | some c => "-" ++ String.singleton c ++ ", "
    | none => "    ") ++ o.display

/-- The entry of an option in a short help; the lines of its description after the first are
indented to the column the description starts at. -/
def shortOption (s : Sheet) (env : String → Option String) (width : Nat) (o : Opt) : String :=
  let fs := facts env false o
  let text := s.optionHelp false o
  let text := if fs.isEmpty then text else text ++ " " ++ " ".intercalate fs
  optionHead o ++ spaces (width + 2 - o.display.length) ++ indentLines (spaces (width + 8)) text

/-- The entry of an option in a long help. -/
def longOption (s : Sheet) (env : String → Option String) (o : Opt) : String :=
  let fs := facts env true o
  let about := s.optionHelp true o
  let values := match o.kind with
    | .choice vs =>
      if describesValues true o then
        let w := (vs.map (·.1.length)).foldl max 0
        "\n\n" ++ longIndent ++ "Possible values:" ++ String.join (vs.map fun (n, h) =>
          "\n" ++ longIndent ++ "- " ++ n ++ ": " ++ spaces (w - n.length) ++ h)
      else ""
    | _ => ""
  let tail := if fs.isEmpty then "" else indentLines longIndent ("\n\n" ++ "\n".intercalate fs)
  optionHead o ++ "\n" ++ longIndent ++ indentLines longIndent about ++ values ++ tail

/-- The options section. -/
def optionsSection (s : Sheet) (env : String → Option String) (long : Bool) : String :=
  let os := listOrder s.options
  let width := (os.map (·.display.length)).foldl max 2
  if long then "\n\n".intercalate (os.map (s.longOption env))
  else "\n".intercalate (os.map (s.shortOption env width))

/-- The arguments section. -/
def argumentsSection (s : Sheet) (long : Bool) : String :=
  let width := (s.positionals.map (·.display.length)).foldl max 2
  if long then
    "\n\n".intercalate (s.positionals.map fun a =>
      "  " ++ a.display ++ "\n" ++ longIndent ++ indentLines longIndent a.help)
  else
    "\n".intercalate (s.positionals.map fun a =>
      "  " ++ a.display ++ spaces (width + 2 - a.display.length) ++ a.help)

/-- The commands section. -/
def commandsSection (s : Sheet) : String :=
  let width := (s.commands.map (·.1.length)).foldl max 0
  "\n".intercalate (s.commands.map fun (n, a) => "  " ++ n ++ spaces (width + 2 - n.length) ++ a)

/-- The help text; `long` asks for the long help, which a command without one answers with its
short help. -/
def render (s : Sheet) (env : String → Option String) (long : Bool) : String :=
  let long := long && s.longHelp
  let sections :=
    (if s.commands.isEmpty then [] else ["Commands:\n" ++ s.commandsSection]) ++
    (if s.positionals.isEmpty then [] else ["Arguments:\n" ++ s.argumentsSection long]) ++
    (if s.options.isEmpty then [] else ["Options:\n" ++ s.optionsSection env long])
  s.about ++ "\n\nUsage: " ++ s.usage ++ "\n\n" ++ "\n\n".intercalate sections ++ "\n"

end Sheet

end GraphWire.Cli
