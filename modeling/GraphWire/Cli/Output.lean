import GraphWire.Cli.Table
import GraphWire.Value.Text
import GraphWire.RowSet
import GraphWire.Graph
import GraphWire.Envelope.Basic
import GraphWire.Json.Writer

/-!
# What a query prints

A result is printed as boxed tables or as JSON.

* Rows: a table of the columns and the cells, then `N row` or `N rows`; a missing value is an
  empty cell, any other is shown as `Value.display` shows it. A result with no columns prints
  `No columns returned`.
* A graph: a table of its nodes (identity, labels joined by `:`, properties), a table of its
  relationships (identity, type, start, end, properties), then `N nodes, M relationships`.
* Statistics: a table of the counters that are not zero, then whether the query changed the
  data.

As JSON, values are untagged: rows print their columns and rows, a graph its nodes and
relationships keyed by identity in ascending order, and statistics every counter in a fixed
order.
-/

namespace GraphWire.Cli

/-- The text of a cell: empty for a missing value. -/
def cellText : Value → String
  | .null => ""
  | v => v.display

/-- A row set as a table and its size. -/
def rowsTable (s : RowSet) : String :=
  if s.columnCount = 0 then "No columns returned"
  else
    (Table.mk s.columns (s.rows.map (·.map cellText))).render ++ "\n" ++ toString s.size ++
      (if s.size = 1 then " row" else " rows")

/-- A graph as its node table, its relationship table and its size. -/
def graphTable (g : Graph) : String :=
  let nodes := Table.mk ["id", "labels", "properties"] (g.nodes.map fun n =>
    [toString n.id.toInt, ":".intercalate n.labels, (Value.map n.properties).display])
  let relationships := Table.mk ["id", "type", "start", "end", "properties"]
    (g.relationships.map fun r =>
      [toString r.id.toInt, r.type, toString r.startNode.toInt, toString r.endNode.toInt,
        (Value.map r.properties).display])
  nodes.render ++ "\n" ++ relationships.render ++ "\n" ++ toString g.nodeCount ++ " nodes, " ++
    toString g.relationshipCount ++ " relationships"

/-- The counters of statistics with their names, in the order a table lists them. -/
def statsCounters (s : QueryStats) : List (String × UInt64) :=
  [("nodes created", s.nodesCreated), ("nodes deleted", s.nodesDeleted),
    ("relationships created", s.relationshipsCreated),
    ("relationships deleted", s.relationshipsDeleted), ("properties set", s.propertiesSet),
    ("labels added", s.labelsAdded), ("labels removed", s.labelsRemoved),
    ("indexes added", s.indexesAdded), ("indexes removed", s.indexesRemoved),
    ("constraints added", s.constraintsAdded), ("constraints removed", s.constraintsRemoved)]

/-- Statistics as a table of the counters that are not zero and whether the data changed. -/
def statsTable (s : QueryStats) : String :=
  (Table.mk ["statistic", "count"]
    (((statsCounters s).filter (fun c => c.2 > 0)).map (fun c => [c.1, toString c.2.toNat]) ++
      [["contains updates", if s.containsUpdates then "true" else "false"]])).render

/-- A row set as JSON: its columns and its rows of untagged values. -/
def rowsJson (s : RowSet) : Json :=
  .object [("columns", .array (s.columns.map .string)),
    ("rows", .array (s.rows.map fun r => .array (Value.toJsonList r)))]

/-- A node as JSON. -/
def nodeJson (n : Node) : Json :=
  .object [("id", Json.int n.id.toInt), ("labels", .array (n.labels.map .string)),
    ("properties", .object (Value.toJsonFields n.properties))]

/-- A relationship as JSON. -/
def relationshipJson (r : Relationship) : Json :=
  .object [("id", Json.int r.id.toInt), ("type", .string r.type),
    ("start_node", Json.int r.startNode.toInt), ("end_node", Json.int r.endNode.toInt),
    ("properties", .object (Value.toJsonFields r.properties))]

/-- A graph as JSON: nodes and relationships keyed by identity, in ascending identity order. -/
def graphJson (g : Graph) : Json :=
  .object [("nodes", .object (g.nodes.map fun n => (toString n.id.toInt, nodeJson n))),
    ("relationships",
      .object (g.relationships.map fun r => (toString r.id.toInt, relationshipJson r)))]

/-- Statistics as JSON, every counter in a fixed order. -/
def statsJson (s : QueryStats) : Json :=
  let n (x : UInt64) : Json := Json.nat x.toNat
  .object [("contains_updates", .bool s.containsUpdates),
    ("nodes_created", n s.nodesCreated), ("nodes_deleted", n s.nodesDeleted),
    ("properties_set", n s.propertiesSet), ("relationships_created", n s.relationshipsCreated),
    ("relationships_deleted", n s.relationshipsDeleted), ("labels_added", n s.labelsAdded),
    ("labels_removed", n s.labelsRemoved), ("indexes_added", n s.indexesAdded),
    ("indexes_removed", n s.indexesRemoved), ("constraints_added", n s.constraintsAdded),
    ("constraints_removed", n s.constraintsRemoved)]

/-- JSON as the command line prints it: one member per line. -/
def printed (j : Json) : String := Json.prettyIn Decimal.Layout.output j

end GraphWire.Cli
