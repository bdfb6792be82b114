import GraphWire.Cli.Parse
import GraphWire.Cli.Output
import GraphWire.Config.Loader
import GraphWire.Config.TomlFile
import GraphWire.Client.Build

/-!
# Running the command line

A command line is read, the configuration loaded, and the command run against a client over a
wire; what it prints on standard output and standard error, and its exit status, make its
outcome.

* Help is printed on standard output with status `0`; an error in the command line is printed
  on standard error with status `2`, and so is the help when no word was given.
* The configuration is loaded from the named file, or the default one, with the environment's
  overrides; then `--url`, `--username` and `--password` are applied, and the result is
  validated. A username given without a password keeps the loaded password, if any; a password
  given without a username changes only credentials that were loaded.
* `config` prints the configuration, its password masked, as TOML.
* `query` runs one statement in an atomic transaction and prints its result, then its
  statistics if any.
* `batch` runs the nonblank lines of a file, those starting with `//` left out, as statements of
  one long-running transaction, flushing after every `n` of them if `n` is not zero, and prints
  the number of rows each returned.

Any other failure is printed on standard error with status `1`, as its context followed by the
chain of its causes.
-/

namespace GraphWire.Cli

/-- A failure of a command: what was being done, and the chain of causes, outermost first. -/
structure Failure where
  context : String
  causes : List String
deriving DecidableEq, Repr

namespace Failure

/-- The lines of a cause, each after the first indented. -/
def indented (indent : String) (s : String) : String :=
  ("\n" ++ indent).intercalate (s.splitOn "\n")

/-- A number right-aligned in five columns. -/
def numberColumn (n : Nat) : String :=
  let s := toString n
  String.ofList (List.replicate (5 - s.length) ' ') ++ s

/-- The text of a failure: `Error: ` and its context, then its causes under `Caused by:`,
numbered when there are several. -/
def render (f : Failure) : String :=
  "Error: " ++ f.context ++
    (match f.causes with
      | [] => ""
      | [c] => "\n\nCaused by:\n    " ++ indented "    " c
      | cs => "\n\nCaused by:" ++ String.join (cs.zipIdx.map fun (c, n) =>
          "\n" ++ numberColumn n ++ ": " ++ indented (spaces 7) c)) ++ "\n"

end Failure

/-- What a run of the command line did: its exit status, what it printed on standard output
and on standard error, and the wire as it left it. -/
structure Outcome where
  status : Nat
  stdout : String
  stderr : String
  wire : Wire

/-- What a command printed before it ended: its output, and the failure that ended it, if any. -/
abbrev Printed := String × Option Failure

/-- A failure with its context. -/
def withContext {α ε : Type} (context : String) (chain : ε → List String) :
    Except ε α → Except Failure α
  | .ok a => .ok a
  | .error e => .error ⟨context, chain e⟩

/-- Apply the command line's `--url`, `--username` and `--password` to a configuration. -/
def Invocation.applyFlags (inv : Invocation) (c : ClientConfig) : ClientConfig :=
  let c := match inv.url with
    | some u => { c with baseUrl := u }
    | none => c
  match inv.username, inv.password, c.credentials with
  | some u, p, cr =>
    { c with credentials := some ⟨u, p.getD ((cr.map (·.password)).getD "")⟩ }
  | none, some p, some cr => { c with credentials := some { cr with password := p } }
  | none, _, _ => c

/-- The configuration of a command line: the file's, with the environment's overrides and the
command line's options applied, validated. -/
def loadConfig (host : Host) (inv : Invocation) : Except Failure ClientConfig := do
  let c ← withContext "Failed to load configuration" ConfigError.chain
    (host.loadUnvalidated inv.config)
  let c := inv.applyFlags c
  withContext "Invalid configuration" ConfigError.chain c.validate
  return c

/-- The statement a query runs. -/
def queryStatement (text : String) (graph stats : Bool) (params : List (String × Json)) :
    Statement :=
  (params.foldl (fun s (k, v) => s.setParam k (Value.ofJson v))
    (Statement.new text (if graph then .graph else .row))).setIncludeStats stats

/-- What a query prints of its statement: the result, then the statistics if any. -/
def queryOutput (s : Statement) (asJson : Bool) : Except Failure String :=
  let result := match s.slot with
    | .rows (some r) => some (if asJson then printed (rowsJson r) else rowsTable r)
    | .graph (some g) => some (if asJson then printed (graphJson g) else graphTable g)
    | _ => none
  match result with
  | none => .error ⟨"Server returned no result for the query", []⟩
  | some text =>
    .ok (text ++ "\n" ++ match s.stats with
      | some st => (if asJson then printed (statsJson st) else statsTable st) ++ "\n"
      | none => "")

/-- Run a query. -/
def runQuery (text : String) (graph stats : Bool) (params : List (String × Json))
    (asJson : Bool) : ClientM (Except Failure String) := do
  match ← Client.execute (queryStatement text graph stats params) with
  | .error e => return .error ⟨"Query failed", e.chain⟩
  | .ok r =>
    match (← get).statement? r with
    | some s => return queryOutput s asJson
    | none => return .error ⟨"Server returned no result for the query", []⟩

/-- The lines of a text: the pieces between its line feeds. -/
def textLines (content : String) : List String := (content.toList.splitOn '\n').map String.ofList

/-- The statements of a batch file: its lines trimmed, blank ones and those starting with `//`
left out. -/
def batchQueries (content : String) : List String :=
  ((textLines content).map Text.trim).filter fun l => !l.isEmpty && !l.startsWith "//"

/-- Whether the statement at a position of a batch is followed by a flush. -/
def flushesAfter (flushEvery index : Nat) : Bool := flushEvery > 0 && (index + 1) % flushEvery == 0

/-- Add the statements of a batch to a transaction, flushing as asked; their references. -/
def addBatch (cell flushEvery : Nat) :
    List (Nat × String) → ClientM (Except ClientError (List Nat))
  | [] => return .ok []
  | (index, q) :: rest => do
    let r ← Client.addStatement (Statement.row q)
    match ← Client.run cell (Transaction.add r) with
    | .error e => return .error e
    | .ok () =>
      let flushed ← if flushesAfter flushEvery index then Client.run cell Transaction.flush
        else pure (.ok ())
      match flushed with
      | .error e => return .error e
      | .ok () =>
        match ← addBatch cell flushEvery rest with
        | .error e => return .error e
        | .ok rs => return .ok (r :: rs)

/-- One line of a batch's report: its position, its rows and its query. -/
def batchLine (index rows : Nat) (query : String) : String :=
  let pad (w : Nat) (s : String) := String.ofList (List.replicate (w - s.length) ' ') ++ s
  pad 4 (toString (index + 1)) ++ "  " ++ pad 6 (toString rows) ++ " rows  " ++ query ++ "\n"

/-- Run the statements of a batch in one transaction and report each. -/
def runBatch (queries : List String) (flushEvery : Nat) : ClientM (Except Failure String) := do
  if queries.isEmpty then return .ok ""
  match ← Client.inTransaction (ContextKey.fresh 0) fun cell =>
      addBatch cell flushEvery (queries.zipIdx.map fun (q, i) => (i, q)) with
  | .error e =>
    return .error ⟨if e.isRemote then "Server rejected the batch; transaction rolled back"
      else "Batch failed", e.chain⟩
  | .ok refs =>
    let c ← get
    let lines := refs.zipIdx.map fun (r, i) =>
      let s := c.statement? r
      batchLine i (((s.bind Statement.rowSet?).map RowSet.size).getD 0)
        ((s.map Statement.query).getD "")
    return .ok (String.join lines ++ "Committed " ++ toString refs.length ++ " statements\n")

/-- Run a command with a loaded configuration: what it printed, and how it failed if it did. -/
def runWork (host : Host) (wire : Wire) (c : ClientConfig) : Work → Printed × Wire
  | .showConfig => ((c.redacted.toTomlText, none), wire)
  | .query text graph stats params asJson =>
    match Client.ofConfig c wire with
    | .error e => (("", some ⟨"Failed to create client", e.chain⟩), wire)
    | .ok client =>
      let (res, client) := (runQuery text graph stats params asJson).run client
      match res with
      | .ok out => ((out, none), client.shared.wire)
      | .error f => (("", some f), client.shared.wire)
  | .batch file flushEvery =>
    match Client.ofConfig c wire with
    | .error e => (("", some ⟨"Failed to create client", e.chain⟩), wire)
    | .ok client =>
      match host.read file with
      | .error io => (("", some ⟨"Failed to read " ++ file, [io.message]⟩), wire)
      | .ok content =>
        let (res, client) := (runBatch (batchQueries content) flushEvery).run client
        match res with
        | .ok out => ((out, none), client.shared.wire)
        | .error f => (("", some f), client.shared.wire)

/-- Run the command line: its words after the program's name, on a host, over a wire. -/
def run (host : Host) (wire : Wire) (words : List String) : Outcome :=
  match program.read host.lookup words with
  | .error (.help text) => ⟨0, text, "", wire⟩
  | .error (.helpError text) => ⟨2, "", text, wire⟩
  | .error (.error e) => ⟨2, "", e.render, wire⟩
  | .ok inv =>
    match loadConfig host inv with
    | .error f => ⟨1, "", f.render, wire⟩
    | .ok c =>
      match runWork host wire c inv.work with
      | ((out, none), w) => ⟨0, out, "", w⟩
      | ((out, some f), w) => ⟨1, out, f.render, w⟩

end GraphWire.Cli
