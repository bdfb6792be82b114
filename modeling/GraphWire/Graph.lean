import GraphWire.Value.Basic

/-! # Graphs of nodes and relationships

A graph holds nodes and relationships by identity, each list in strictly ascending identity
order, which the graph carries as a proof (`Graph.nodes_sorted`), so it has one entry per
identity. An insertion under an identity already present is refused and changes nothing, so the
first occurrence of an identity wins (`Graph.insertNode`, `Graph.insertRelationship`). -/

namespace GraphWire

/-- A node: identity, labels in server order, properties by name. -/
structure Node where
  id : Int64
  labels : List String
  properties : List (String × Value)
deriving Inhabited, Repr

/-- A relationship: identity, type, the nodes it starts and ends at, properties by name. -/
structure Relationship where
  id : Int64
  type : String
  startNode : Int64
  endNode : Int64
  properties : List (String × Value)
deriving Inhabited, Repr

namespace Node

/-- Whether the node carries a label. -/
def hasLabel (n : Node) (label : String) : Bool := n.labels.contains label

/-- A property of the node. -/
def property? (n : Node) (name : String) : Option Value := n.properties.lookup name

end Node

namespace Relationship

/-- A property of the relationship. -/
def property? (r : Relationship) (name : String) : Option Value := r.properties.lookup name

/-- Whether the relationship starts or ends at a node. -/
def touches (r : Relationship) (node : Int64) : Bool := r.startNode == node || r.endNode == node

end Relationship

/-- Put an element into an identity-ordered list, unless its identity is present; whether it
went in. -/
def Graph.insertById {α : Type} (key : α → Int64) (a : α) : List α → List α × Bool
  | [] => ([a], true)
  | b :: rest =>
    if key a < key b then (a :: b :: rest, true)
    else if key a == key b then (b :: rest, false)
    else
      let r := insertById key a rest
      (b :: r.1, r.2)

namespace Graph

section InsertById

variable {α : Type} (key : α → Int64)

theorem mem_insertById {a x : α} {l : List α} (h : x ∈ (insertById key a l).1) :
    x = a ∨ x ∈ l := by
  induction l with
  | nil => simpa [insertById] using h
  | cons b rest ih =>
    simp only [insertById] at h
    split at h
    · simpa using h
    · split at h
      · exact .inr h
      · rcases List.mem_cons.1 h with rfl | h
        · exact .inr List.mem_cons_self
        · exact (ih h).imp_right (List.mem_cons_of_mem b)

/-- Insertion keeps a list strictly ascending by key. -/
theorem pairwise_insertById (a : α) {l : List α} (h : l.Pairwise (fun x y => key x < key y)) :
    (insertById key a l).1.Pairwise (fun x y => key x < key y) := by
  induction l with
  | nil => simp [insertById]
  | cons b rest ih =>
    have hb := List.pairwise_cons.1 h
    simp only [insertById]
    split
    · next hab =>
      refine List.Pairwise.cons (fun x hx => ?_) h
      rcases List.mem_cons.1 hx with rfl | hx
      · exact hab
      · exact Int64.lt_trans hab (hb.1 x hx)
    · split
      · exact h
      · next hab hne =>
        -- neither below nor equal: the new key lies above `b`'s
        have hba : key b < key a := by
          simp only [beq_iff_eq] at hne
          rw [Int64.lt_iff_toInt_lt] at hab ⊢
          have := mt Int64.toInt_inj.1 hne
          omega
        refine List.Pairwise.cons (fun x hx => ?_) (ih hb.2)
        rcases mem_insertById key hx with rfl | hx
        · exact hba
        · exact hb.1 x hx

end InsertById

end Graph

/-- Nodes and relationships, each in strictly ascending identity order. -/
structure Graph where
  nodes : List Node
  relationships : List Relationship
  nodes_sorted : nodes.Pairwise (fun a b => a.id < b.id)
  relationships_sorted : relationships.Pairwise (fun a b => a.id < b.id)
deriving Repr

namespace Graph

/-- The graph with nothing in it. -/
def empty : Graph := ⟨[], [], .nil, .nil⟩

instance : Inhabited Graph := ⟨empty⟩

/-- Add a node unless its identity is present; whether it went in. -/
def insertNode (g : Graph) (n : Node) : Graph × Bool :=
  let r := insertById Node.id n g.nodes
  (⟨r.1, g.relationships, pairwise_insertById Node.id n g.nodes_sorted, g.relationships_sorted⟩,
    r.2)

/-- Add a relationship unless its identity is present; whether it went in. -/
def insertRelationship (g : Graph) (r : Relationship) : Graph × Bool :=
  let i := insertById Relationship.id r g.relationships
  (⟨g.nodes, i.1, g.nodes_sorted,
    pairwise_insertById Relationship.id r g.relationships_sorted⟩, i.2)

/-- The node of an identity. -/
def node? (g : Graph) (id : Int64) : Option Node := g.nodes.find? (·.id == id)

/-- The relationship of an identity. -/
def relationship? (g : Graph) (id : Int64) : Option Relationship :=
  g.relationships.find? (·.id == id)

/-- The relationships that start or end at a node, in identity order. -/
def relationshipsOf (g : Graph) (node : Int64) : List Relationship :=
  g.relationships.filter (·.touches node)

/-- The number of nodes. -/
def nodeCount (g : Graph) : Nat := g.nodes.length

/-- The number of relationships. -/
def relationshipCount (g : Graph) : Nat := g.relationships.length

/-- Whether the graph has neither nodes nor relationships. -/
def isEmpty (g : Graph) : Bool := g.nodes.isEmpty && g.relationships.isEmpty

@[simp] theorem nodes_empty : empty.nodes = [] := rfl
@[simp] theorem relationships_empty : empty.relationships = [] := rfl

end Graph

end GraphWire
