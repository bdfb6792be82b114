import GraphWire.Cli.Error
import GraphWire.Cli.Help
import GraphWire.Json.Reader
import GraphWire.Text.Blank
import GraphWire.Text.Jaro

/-!
# Reading a command line

A command line is read word by word, first for the program, up to the word that names a
command, and then for that command. At each level:

* `--` makes every later word an argument;
* `--name` and `--name=value` name an option, `-h` asks for help;
* a word after an option that takes a value is its value;
* other words are arguments, or, before any command, the command's name.

A value is read by its option's reader when the next option or argument begins, or when the
words run out. When the words run out, options still unset take their values from the
environment, then from their defaults, and required arguments must have been given. A global
option given at both levels takes the value from the more explicit source, the command's on a
tie.

Help stops the reading: `-h` asks for the short help, `--help` and `help COMMAND` for the long
one. The first error stops it too.
-/

namespace GraphWire.Cli

/-- Where a value came from, from least to most explicit. -/
inductive Source where
  | default
  | env
  | commandLine
deriving DecidableEq, Repr

/-- How explicit a source is. -/
def Source.rank : Source → Nat
  | .default => 0
  | .env => 1
  | .commandLine => 2

/-- The values given to an option or argument, and where they came from. -/
structure Found where
  values : List String
  source : Source
deriving DecidableEq, Repr

/-- Values by option or argument identity, in the order they were first given. -/
abbrev Matches := List (String × Found)

/-- Whether an identity was given on the command line or by the environment. -/
def Matches.isExplicit (m : Matches) (id : String) : Bool :=
  match m.lookup id with
  | some f => f.source != .default
  | none => false

/-- How reading a command line stops before a command runs. -/
inductive Halt where
  /-- Help was asked for: printed on standard output, and the program succeeds. -/
  | help (text : String)
  /-- Nothing was given: the help is printed on standard error as a usage error. -/
  | helpError (text : String)
  /-- The command line is wrong. -/
  | error (e : ParseError)
deriving DecidableEq, Repr

/-- A query parameter: `name=value`, the name trimmed and the value read as JSON, or kept as
text when it is not JSON. -/
def parseParam (raw : String) : Except String (String × Json) :=
  let cs := raw.toList
  match cs.idxOf? '=' with
  | none => .error ("expected name=value, got '" ++ raw ++ "'")
  | some i =>
    let name := Text.trim (String.ofList (cs.take i))
    let value := String.ofList (cs.drop (i + 1))
    if name.isEmpty then .error ("parameter name is empty in '" ++ raw ++ "'")
    else .ok (name, match Json.read value with
      | .ok j => j
      | .error _ => .string value)

/-- An unsigned count below `2^64`: an optional `+`, then decimal digits. -/
def parseCount (s : String) : Except String Nat :=
  let digits := match s.toList with
    | '+' :: rest => rest
    | cs => cs
  if s.isEmpty then .error "cannot parse integer from empty string"
  else if digits.isEmpty || !digits.all Char.isDigit then .error "invalid digit found in string"
  else
    let n := digits.foldl (fun n c => n * 10 + (c.toNat - '0'.toNat)) 0
    if n < Nat.pow 2 64 then .ok n else .error "number too large to fit in target type"

/-- Check a value by its kind; `arg` names the option or argument in errors. -/
def checkValue (arg : String) (kind : ValueKind) (v : String) : Except ParseError Unit :=
  match kind with
  | .text => .ok ()
  | .path => if v.isEmpty then .error (.invalidValue arg "" [] none) else .ok ()
  | .choice vs =>
    let names := vs.map (·.1)
    if names.contains v then .ok ()
    else .error (.invalidValue arg v names (if v.isEmpty then none else Text.mostSimilar v names))
  | .count => (parseCount v).map (fun _ => ()) |>.mapError (.refusedValue arg v)
  | .param => (parseParam v).map (fun _ => ()) |>.mapError (.refusedValue arg v)

/-- One level of reading: what help shows of it, its options, its arguments, its commands with
the long names of their options, and the environment. -/
structure Level where
  sheet : Sheet
  options : List Opt
  positionals : List Positional
  commandOptions : List (String × List String)
  env : String → Option String

/-- The names of the level's commands. -/
def Level.commands (l : Level) : List String := l.commandOptions.map (·.1)

/-- The reading of one level so far. -/
structure Progress where
  given : Matches
  /-- An option read with the values it was given so far, not yet stored. -/
  pending : Option (Opt × List String)
  /-- The index of the next argument. -/
  position : Nat
  /-- Whether `--` was read. -/
  trailing : Bool

/-- Nothing read yet. -/
def Progress.start : Progress := ⟨[], none, 0, false⟩

/-- Whether the pending option still needs its value. -/
def Progress.awaiting (p : Progress) : Bool :=
  match p.pending with
  | some (_, []) => true
  | _ => false

/-- Store values under an identity: replace them, or add to them. -/
def Matches.put (m : Matches) (id : String) (f : Found) : Matches :=
  if (m.lookup id).isSome then m.map (fun e => if e.1 = id then (id, f) else e) else m ++ [(id, f)]

/-- Add values to an identity's. -/
def Matches.extend (m : Matches) (id : String) (vs : List String) (src : Source) : Matches :=
  match m.lookup id with
  | some f => m.put id ⟨f.values ++ vs, src⟩
  | none => m.put id ⟨vs, src⟩

namespace Level

/-- The usage of an error that names no arguments: the usage line of help. -/
def plainUsage (l : Level) : String := l.sheet.usage

/-- The usage line naming the arguments given: the command, the options used, then the
arguments required or used. -/
def smartUsage (l : Level) (used : List String) : String :=
  let opts := (used.filterMap fun id => (l.options.find? (·.id == id)).map Opt.display).eraseDups
  let required := l.positionals.filter (fun a => a.required || used.contains a.id)
  let shown := required.map fun a => Positional.display { a with required := true }
  l.sheet.path ++ String.join ((opts ++ shown).map (" " ++ ·)) ++
    (if l.sheet.needsCommand then " <COMMAND>" else "")

/-- The usage of an error: the usage line of help when nothing was used. -/
def usageFor (l : Level) (used : List String) : String :=
  if used.isEmpty then l.plainUsage else l.smartUsage used

/-- The identities given explicitly, in order. -/
def explicitIds (m : Matches) : List String :=
  (m.filter (fun e => e.2.source != .default)).map (·.1)

/-- The help text of the level. -/
def helpText (l : Level) (long : Bool) : String := l.sheet.render l.env long

/-- Store the values of an option, given on the command line (`long` tells how help was asked
for). -/
def store (l : Level) (o : Opt) (vals : List String) (long : Bool) (p : Progress) :
    Except Halt Progress :=
  match o.action with
  | .help => .error (.help (l.helpText long))
  | .flag =>
    if (p.given.lookup o.id).isSome then .error (.error (.repeated o.display l.plainUsage))
    else .ok { p with given := p.given.put o.id ⟨["true"], .commandLine⟩ }
  | .set _ kind =>
    if vals.isEmpty then .error (.error (.invalidValue o.display "" o.choices none))
    else if (p.given.lookup o.id).isSome then .error (.error (.repeated o.display l.plainUsage))
    else
      match vals.forM (checkValue o.display kind) with
      | .error e => .error (.error e)
      | .ok () => .ok { p with given := p.given.put o.id ⟨vals, .commandLine⟩ }
  | .append _ kind =>
    if vals.isEmpty then .error (.error (.invalidValue o.display "" o.choices none))
    else
      match vals.forM (checkValue o.display kind) with
      | .error e => .error (.error e)
      | .ok () => .ok { p with given := p.given.extend o.id vals .commandLine }

/-- Store the pending option's values. -/
def resolve (l : Level) (p : Progress) : Except Halt Progress :=
  match p.pending with
  | none => .ok p
  | some (o, vals) => l.store o vals true { p with pending := none }

/-- Store the pending option's values, then an option's. -/
def react (l : Level) (o : Opt) (vals : List String) (long : Bool) (p : Progress) :
    Except Halt Progress := do
  l.store o vals long (← l.resolve p)

/-- Store the pending option's values, ignoring a failure. -/
def resolveQuietly (l : Level) (p : Progress) : Progress :=
  match l.resolve p with
  | .ok p => p
  | .error _ => { p with pending := none }

/-- A command named among the words that has an option similar to a name: of those, the one
named first, with its option. -/
def similarElsewhere (l : Level) (name : String) (rest : List String) : Option (String × String) :=
  let found := l.commandOptions.filterMap fun (c, longs) =>
    match Text.mostSimilar name longs, rest.idxOf? c with
    | some o, some i => some (i, c, o)
    | _, _ => none
  let first := found.foldl (fun (best : Option (Nat × String × String)) x =>
    match best with
    | some b => if x.1 < b.1 then some x else some b
    | none => some x) none
  first.map (·.2)

/-- The error for an option nobody takes; `rest` holds the words after it. -/
def unknownLong (l : Level) (name : String) (rest : List String) (p : Progress) : Halt :=
  let p := l.resolveQuietly p
  let longs := l.options.map (·.long)
  let similar := Text.mostSimilar name longs
  let elsewhere := if similar.isSome then none else l.similarElsewhere name rest
  let used := explicitIds p.given ++
    ((similar.bind fun s => (l.options.find? (·.long == s)).map (·.id)).toList)
  let asValue := similar.isNone && elsewhere.isNone && !p.trailing && !l.positionals.isEmpty
  .error (.unknownArgument ("--" ++ name) (similar.map ("--" ++ ·))
    (elsewhere.map fun (c, o) => (c, "--" ++ o)) asValue (l.usageFor used))

/-- Read a long option, with the value after `=` if there is one; `rest` holds the words after
it. -/
def readLong (l : Level) (name : String) (attached : Option String) (rest : List String)
    (p : Progress) : Except Halt Progress :=
  match l.options.find? (·.long == name) with
  | none => .error (l.unknownLong name rest p)
  | some o =>
    if o.takesValue then
      match attached with
      | some v => l.react o [v] true p
      | none => do
        let p ← l.resolve p
        return { p with pending := some (o, []) }
    else
      match attached with
      | some v =>
        let p := l.resolveQuietly p
        let required := (l.positionals.filter (·.required)).map (·.id)
        let used := (explicitIds p.given).filter (fun id => !required.contains id) ++ [o.id]
        .error (.error (.unexpectedValue o.display v (l.usageFor used)))
      | none => l.react o [] true p

/-- Read a cluster of short options. -/
def readShort (l : Level) (letters : List Char) (p : Progress) : Except Halt Progress :=
  match letters with
  | [] => .ok p
  | c :: _ =>
    match l.options.find? (·.short == some c) with
    | some o => l.react o [] false p
    | none =>
      let p := l.resolveQuietly p
      .error (.error (.unknownArgument ("-" ++ String.singleton c) none none
        (!p.trailing && !l.positionals.isEmpty) l.plainUsage))

/-- The error for a word that no argument takes. -/
def strayWord (l : Level) (word : String) (p : Progress) : Halt :=
  let p := l.resolveQuietly p
  if p.trailing && l.commands.contains word then .error (.needlessEscape word l.plainUsage)
  else if !l.commands.isEmpty then
    .error (.unknownCommand word (Text.similar word l.commands) l.plainUsage true)
  else
    let flagLike := word.startsWith "-" && word.length > 1
    .error (.unknownArgument word none none (!p.trailing && !l.positionals.isEmpty && flagLike)
      l.plainUsage)

/-- Read a word as the next argument. -/
def readPositional (l : Level) (word : String) (p : Progress) : Except Halt Progress :=
  match l.positionals[p.position]? with
  | none => .error (l.strayWord word p)
  | some a => do
    let p ← l.resolve p
    match checkValue a.display a.kind word with
    | .error e => .error (.error e)
    | .ok () =>
      let m := p.given.extend a.id [word] .commandLine
      return { p with given := m, position := if a.many then p.position else p.position + 1 }

/-- What reading a level's words ended with: the command named, with the words after it. -/
abbrev Ending := Option (String × List String)

/-- Read a level's words. -/
def readWords (l : Level) : List String → Progress → Except Halt (Progress × Ending)
  | [], p => .ok (p, none)
  | w :: rest, p =>
    if p.trailing then
      match l.readPositional w p with
      | .ok p => l.readWords rest p
      | .error h => .error h
    else if !p.awaiting && l.commands.contains w then .ok (p, some (w, rest))
    else if w = "--" then l.readWords rest { p with trailing := true }
    else if w.startsWith "--" then
      let body := String.ofList (w.toList.drop 2)
      let (name, attached) := match body.toList.idxOf? '=' with
        | some i => (String.ofList (body.toList.take i), some (String.ofList (body.toList.drop (i + 1))))
        | none => (body, none)
      match l.readLong name attached rest p with
      | .ok p => l.readWords rest p
      | .error h => .error h
    else if w.startsWith "-" && w.length > 1 then
      match l.readShort (w.toList.drop 1) p with
      | .ok p => l.readWords rest p
      | .error h => .error h
    else if p.awaiting then
      match p.pending with
      | some (o, _) => l.readWords rest { p with pending := some (o, [w]) }
      | none => l.readWords rest p
    else
      match l.readPositional w p with
      | .ok p => l.readWords rest p
      | .error h => .error h

/-- Options still unset take their values from the environment. -/
def addEnv (l : Level) (p : Progress) : Except Halt Progress :=
  l.options.foldlM (fun p o =>
    match o.env with
    | some name =>
      match (p.given.lookup o.id), l.env name with
      | none, some v =>
        match checkValue o.display o.kind v with
        | .ok () => .ok { p with given := p.given.put o.id ⟨[v], .env⟩ }
        | .error e => .error (.error e)
      | _, _ => .ok p
    | none => .ok p) p

/-- Options still unset take their defaults. -/
def addDefaults (l : Level) (p : Progress) : Progress :=
  l.options.foldl (fun p o =>
    match o.default, p.given.lookup o.id with
    | some d, none => { p with given := p.given.put o.id ⟨[d], .default⟩ }
    | _, _ => p) p

/-- Finish a level: store the pending option, take values from the environment and defaults,
and check that what is required was given. -/
def finish (l : Level) (hasCommand : Bool) (p : Progress) : Except Halt Matches := do
  let p ← l.resolve p
  let p ← l.addEnv p
  let p := l.addDefaults p
  if !hasCommand && !l.commands.isEmpty then
    if (explicitIds p.given).isEmpty then throw (.helpError (l.helpText false))
    throw (.error (.missingCommand l.sheet.path l.commands l.plainUsage))
  let missing := l.positionals.filter (fun a => a.required && (p.given.lookup a.id).isNone)
  unless missing.isEmpty do
    let required := (l.positionals.filter (·.required)).map (·.id)
    let used := (explicitIds p.given).filter (fun id => !required.contains id) ++
      missing.map (·.id)
    throw (.error (.missingRequired (missing.map Positional.display) (l.usageFor used)))
  return p.given

end Level

namespace Program

/-- The level of the program, before a command. -/
def rootLevel (prog : Program) (env : String → Option String) : Level :=
  ⟨prog.sheet, prog.rootOptions, [],
    prog.commands.map (fun c => (c.name, (c.allOptions prog).map (·.long))), env⟩

/-- The level of a command. -/
def commandLevel (prog : Program) (c : Command) (env : String → Option String) : Level :=
  ⟨c.sheet prog, c.allOptions prog, c.positionals, [], env⟩

/-- The help `help WORDS...` asks for: the words name a command, or none names the program. -/
def helpFor (prog : Program) (env : String → Option String) (words : List String) : Halt :=
  match words with
  | [] => .help (prog.sheet.render env true)
  | w :: rest =>
    match prog.command? w with
    | none => .error (.unknownCommand w [] prog.sheet.usage true)
    | some c =>
      match rest with
      | [] => .help ((c.sheet prog).render env true)
      | v :: _ => .error (.unknownCommand v [] (c.sheet prog).usage c.helpFlag)

end Program

/-- What a command line says to run. -/
inductive Work where
  | query (text : String) (graph : Bool) (stats : Bool) (params : List (String × Json))
      (asJson : Bool)
  | batch (file : String) (flushEvery : Nat)
  | showConfig
deriving Repr

/-- A command line read: the global options, and the work. -/
structure Invocation where
  config : Option String
  url : Option String
  username : Option String
  password : Option String
  work : Work
deriving Repr

/-- The value a global option takes from the program's and the command's readings: the more
explicit, the command's on a tie. -/
def effective (root cmd : Matches) (id : String) : Option String :=
  match root.lookup id, cmd.lookup id with
  | some r, some c => if c.source.rank < r.source.rank then r.values.head? else c.values.head?
  | some r, none => r.values.head?
  | none, some c => c.values.head?
  | none, none => none

/-- The first value of an identity. -/
def firstValue (m : Matches) (id : String) : String := ((m.lookup id).bind (·.values.head?)).getD ""

/-- The work a command's reading asks for. -/
def workOf (name : String) (m : Matches) : Work :=
  if name = "query" then
    .query (firstValue m "query") (m.lookup "graph").isSome (m.lookup "stats").isSome
      (((m.lookup "params").map (·.values)).getD [] |>.filterMap fun v => (parseParam v).toOption)
      (firstValue m "format" == "json")
  else if name = "batch" then
    .batch (firstValue m "file") ((parseCount (firstValue m "flush_every")).toOption.getD 0)
  else .showConfig

/-- Read a command line (without the program's name) in an environment. -/
def Program.read (prog : Program) (env : String → Option String) (words : List String) :
    Except Halt Invocation := do
  let root := prog.rootLevel env
  let (p, ending) ← root.readWords words Progress.start
  match ending with
  | none =>
    let _ ← root.finish false p
    throw (.error (.missingCommand prog.name prog.commandNames prog.sheet.usage))
  | some (name, rest) =>
    if name = "help" then throw (prog.helpFor env rest)
    match prog.command? name with
    | none => throw (.error (.unknownCommand name [] prog.sheet.usage true))
    | some c =>
      let level := prog.commandLevel c env
      let (q, _) ← level.readWords rest Progress.start
      let cmd ← level.finish true q
      let top ← root.finish true p
      return ⟨effective top cmd "config", effective top cmd "url", effective top cmd "username",
        effective top cmd "password", workOf name cmd⟩

end GraphWire.Cli
