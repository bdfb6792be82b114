import GraphWire.Value.Text
import GraphWire.RowSet
import GraphWire.Graph
import GraphWire.Statement
import GraphWire.Continuation
import GraphWire.Client.Error
import GraphWire.Transaction.Basic
import GraphWire.Wire

/-!
# Reports: results and errors as JSON

Each report is a JSON object with its keys in ascending order. Cells and properties are written
in the tagged form of `Value.toTagged`, so a report keeps every distinction a value makes.

* A row set reports its columns and rows; a graph its nodes and relationships, each in identity
  order, a relationship naming its ends `start` and `end`.
* `Graph.serialized` is the graph's own serial form instead: members keyed by identity as text,
  values untagged, ends named `start_node` and `end_node`.
* Statistics report every counter under its wire name.
* An error reports its class as `error` and its wording as `message`; a client error adds which
  side of the wire it came from and the server errors it carries.
* A transaction reports its mode, phase, endpoint, continuation and expiry, and the queries of
  its queue; a request its method, URL and, for a POST, its body and statement count.
-/

namespace GraphWire

/-- A report of a server error: its code and message. -/
def ServerError.report (e : ServerError) : Json :=
  Json.obj [("code", .string e.code), ("message", .string e.message)]

/-- A report of statistics, every counter under its wire name. -/
def QueryStats.report (s : QueryStats) : Json :=
  let n (x : UInt64) : Json := Json.nat x.toNat
  Json.obj [
    ("contains_updates", .bool s.containsUpdates),
    ("nodes_created", n s.nodesCreated), ("nodes_deleted", n s.nodesDeleted),
    ("properties_set", n s.propertiesSet),
    ("relationships_created", n s.relationshipsCreated),
    ("relationships_deleted", n s.relationshipsDeleted),
    ("labels_added", n s.labelsAdded), ("labels_removed", n s.labelsRemoved),
    ("indexes_added", n s.indexesAdded), ("indexes_removed", n s.indexesRemoved),
    ("constraints_added", n s.constraintsAdded),
    ("constraints_removed", n s.constraintsRemoved)]

/-- Properties in tagged form. -/
def propertiesReport (ps : List (String × Value)) : Json :=
  .object (Value.toTaggedFields ps)

/-- A report of a row set: columns, and rows of tagged cells. -/
def RowSet.report (s : RowSet) : Json :=
  Json.obj [("columns", .array (s.columns.map .string)),
    ("rows", .array (s.rows.map (fun r => .array (Value.toTaggedList r))))]

/-- A report of a node. -/
def Node.report (n : Node) : Json :=
  Json.obj [("id", Json.int n.id.toInt), ("labels", .array (n.labels.map .string)),
    ("properties", propertiesReport n.properties)]

/-- A report of a relationship, its ends named `start` and `end`. -/
def Relationship.report (r : Relationship) : Json :=
  Json.obj [("id", Json.int r.id.toInt), ("type", .string r.type),
    ("start", Json.int r.startNode.toInt), ("end", Json.int r.endNode.toInt),
    ("properties", propertiesReport r.properties)]

namespace Graph

/-- A report of a graph: nodes and relationships in identity order. -/
def report (g : Graph) : Json :=
  Json.obj [("nodes", .array (g.nodes.map Node.report)),
    ("relationships", .array (g.relationships.map Relationship.report))]

/-- The serial form of a node. -/
def serialNode (n : Node) : Json :=
  Json.obj [("id", Json.int n.id.toInt), ("labels", .array (n.labels.map .string)),
    ("properties", .object (Value.toJsonFields n.properties))]

/-- The serial form of a relationship. -/
def serialRelationship (r : Relationship) : Json :=
  Json.obj [("id", Json.int r.id.toInt), ("type", .string r.type),
    ("start_node", Json.int r.startNode.toInt), ("end_node", Json.int r.endNode.toInt),
    ("properties", .object (Value.toJsonFields r.properties))]

/-- The graph's serial form: nodes and relationships keyed by their identity written as text,
so that the keys are in text order. -/
def serialized (g : Graph) : Json :=
  Json.obj [
    ("nodes", Json.obj (g.nodes.map (fun n => (toString n.id.toInt, serialNode n)))),
    ("relationships",
      Json.obj (g.relationships.map (fun r => (toString r.id.toInt, serialRelationship r))))]

end Graph

/-- A report of a statement: query, kind, whether resolved, its result and statistics. With
`detail` it adds the size of its result: rows, or nodes and relationships. -/
def Statement.report (detail : Bool) (s : Statement) : Json :=
  let base := [
    ("query", Json.str s.query), ("kind", Json.str s.kind.name),
    ("resolved", Json.bool s.isResolved),
    ("rows", Json.opt RowSet.report s.rowSet?), ("graph", Json.opt Graph.report s.graph?),
    ("stats", Json.opt QueryStats.report s.stats)]
  let size : Json := match s.slot with
    | .rows (some r) => Json.obj [("rows", Json.nat r.size)]
    | .graph (some g) =>
      Json.obj [("nodes", Json.nat g.nodeCount), ("relationships", Json.nat g.relationshipCount)]
    | _ => .null
  Json.obj (if detail then base ++ [("result", size)] else base)

/-- A report of an instant: RFC 3339 text, seconds since the epoch, and offset. -/
def Time.Instant.report (t : Time.Instant) : Json :=
  Json.obj [("expires", .string t.rfc3339), ("timestamp", Json.int t.timestamp),
    ("offset_seconds", Json.int t.offset)]

/-- A report of a continuation: endpoint, commit URL and expiry. -/
def Continuation.report (c : Continuation) : Json :=
  Json.obj [("endpoint", .string c.endpoint), ("commit_url", .string c.commitUrl),
    ("expires", .string c.expires.rfc3339), ("timestamp", Json.int c.expires.timestamp),
    ("offset_seconds", Json.int c.expires.offset)]

/-- A report of an error: its class and wording. -/
def errorReport (kind message : String) : Json :=
  Json.obj [("error", .string kind), ("message", .string message)]

/-- A report of a protocol error. -/
def ProtocolError.report (e : ProtocolError) : Json := errorReport ("Protocol/" ++ e.kind) e.message

/-- A report of a row access error. -/
def RowAccessError.report (e : RowAccessError) : Json :=
  errorReport ("RowAccess/" ++ e.kind) e.message

/-- A report of a client error, with its side of the wire and its server errors. -/
def ClientError.report (e : ClientError) : Json :=
  Json.obj [("error", .string e.kind), ("message", .string e.message),
    ("fault", .string (match e.fault with | .local => "local" | .remote => "remote")),
    ("server_errors", .array (e.serverErrors.map ServerError.report))]

/-- A report of a transaction, naming its queued statements by their queries. -/
def Transaction.report (statements : Statements) (t : Transaction) : Json :=
  Json.obj [("mode", .string t.mode.text), ("state", .string t.phase.text),
    ("active", .bool t.isActive), ("begun", .bool t.begun), ("endpoint", .string t.endpoint),
    ("expiry", Json.opt (fun i => .string i.rfc3339) t.expiry),
    ("continuation", Json.opt (fun c => .string c.endpoint) t.continuation),
    ("pending", .array ((statements.collect t.queue).map (fun s => .string s.query)))]

/-- A report of a request. -/
def Request.report : Request → Json
  | .post url payload => Json.obj [("method", .string "POST"), ("url", .string url),
      ("payload", payload),
      ("statement_count", Json.opt Json.nat (Request.post url payload).statementCount)]
  | .delete url => Json.obj [("method", .string "DELETE"), ("url", .string url)]

end GraphWire
