import GraphWire.Envelope.Basic
import GraphWire.RowSet
import GraphWire.Graph
import GraphWire.Value.Basic

/-! # Results of a fragment

A fragment becomes a row set or a graph. Its row set has the fragment's columns and one row
per data item, in order; an item without a row gives a row of nulls. Its graph holds the nodes
and relationships of every item's sub-graph, taken item by item, nodes before relationships,
each list in its order; an identity already present keeps its first occurrence, so merging a
further fragment into a graph only adds what is new (`Graph.merge`). -/

namespace GraphWire

/-- The values of JSON properties; none at all when absent. -/
def propertiesOf (p : Option (List (String × Json))) : List (String × Value) :=
  (p.getD []).map (fun e => (e.1, Value.ofJson e.2))

/-- A node as the library holds it. -/
def WireNode.toNode (n : WireNode) : Node := ⟨n.id, n.labels, propertiesOf n.properties⟩

/-- A relationship as the library holds it. -/
def WireRelationship.toRelationship (r : WireRelationship) : Relationship :=
  ⟨r.id, r.type, r.startNode, r.endNode, propertiesOf r.properties⟩

/-- The row set of a fragment. -/
def RowSet.ofFragment (f : Fragment) : RowSet :=
  RowSet.ofRows f.columns (f.data.map (fun item => (item.row.getD []).map Value.ofJson))

namespace Graph

/-- Add the nodes, then the relationships, of a sub-graph, keeping what is present. -/
def addSubGraph (g : Graph) (sg : SubGraph) : Graph :=
  let g := sg.nodes.foldl (fun g n => (g.insertNode n.toNode).1) g
  sg.relationships.foldl (fun g r => (g.insertRelationship r.toRelationship).1) g

/-- Add the sub-graph of a data item, if it has one. -/
def addItem (g : Graph) (item : DataItem) : Graph :=
  match item.graph with
  | some sg => g.addSubGraph sg
  | none => g

/-- Add the sub-graphs of a fragment's data items, in order. -/
def merge (g : Graph) (f : Fragment) : Graph := f.data.foldl addItem g

/-- The graph of a fragment. -/
def ofFragment (f : Fragment) : Graph := empty.merge f

end Graph

end GraphWire
