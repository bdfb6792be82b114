import GraphWire.Envelope.Results
import GraphWire.Envelope.Error
import GraphWire.Value.Basic

/-! # Statements

A statement is a query with named parameters, the kind of result it asks for (rows or a graph),
whether it asks for statistics, and a result slot that is written once. `Statement.resolve` fills
the slot from a fragment: the row set for a row statement, the graph for a graph statement, and
the fragment's statistics if the statement asked for them and the fragment has them. A second
resolution is refused and changes nothing. -/

namespace GraphWire

/-- The kind of result a statement asks for. -/
inductive ResultKind where
  | row
  | graph
deriving DecidableEq, Repr, Inhabited

/-- The name of a result kind on the wire. -/
def ResultKind.name : ResultKind → String
  | .row => "row"
  | .graph => "graph"

/-- A result slot: empty, or holding the result of its kind. -/
inductive Slot where
  | rows (r : Option RowSet)
  | graph (g : Option Graph)

namespace Slot

/-- The kind a slot holds. -/
def kind : Slot → ResultKind
  | .rows _ => .row
  | .graph _ => .graph

/-- Whether the slot holds its result. -/
def isFilled : Slot → Bool
  | .rows r => r.isSome
  | .graph g => g.isSome

/-- The empty slot of a kind. -/
def empty : ResultKind → Slot
  | .row => .rows none
  | .graph => .graph none

end Slot

/-- A statement: query text, parameters by name in name order, whether statistics are asked
for, its result slot, and the statistics received. -/
structure Statement where
  query : String
  parameters : List (String × Value)
  includeStats : Bool
  slot : Slot
  stats : Option QueryStats

namespace Statement

/-- A statement of a kind, with no parameters. -/
def new (query : String) (kind : ResultKind) : Statement := ⟨query, [], false, Slot.empty kind, none⟩

/-- A row statement. -/
def row (query : String) : Statement := new query .row

/-- A graph statement. -/
def graph (query : String) : Statement := new query .graph

/-- The statement with a parameter set; a parameter of the same name is replaced. -/
def setParam (s : Statement) (name : String) (v : Value) : Statement :=
  { s with parameters := Value.insertEntry name v s.parameters }

/-- The statement asking for statistics or not. -/
def setIncludeStats (s : Statement) (b : Bool) : Statement := { s with includeStats := b }

/-- The kind of result the statement asks for. -/
def kind (s : Statement) : ResultKind := s.slot.kind

/-- Whether the result has been received. -/
def isResolved (s : Statement) : Bool := s.slot.isFilled

/-- The row set received, for a row statement. -/
def rowSet? (s : Statement) : Option RowSet :=
  match s.slot with
  | .rows r => r
  | .graph _ => none

/-- The graph received, for a graph statement. -/
def graph? (s : Statement) : Option Graph :=
  match s.slot with
  | .graph g => g
  | .rows _ => none

/-- Fill the result slot from a fragment, with its statistics if asked for; refused when the
slot is already filled. -/
def resolve (s : Statement) (f : Fragment) : Except ProtocolError Statement :=
  if s.isResolved then .error .resultAlreadySet
  else
    let slot := match s.slot with
      | .rows _ => Slot.rows (some (RowSet.ofFragment f))
      | .graph _ => Slot.graph (some (Graph.ofFragment f))
    let stats := if s.includeStats then f.stats else none
    .ok { s with slot := slot, stats := stats }

/-- The request entry of a statement. -/
def payload (s : Statement) : Json :=
  .object [
    ("includeStats", .bool s.includeStats),
    ("parameters", .object (s.parameters.map (fun p => (p.1, p.2.toJson)))),
    ("resultDataContents", .array [.string s.kind.name]),
    ("statement", .string s.query)]

@[simp] theorem kind_new (q : String) (k : ResultKind) : (new q k).kind = k := by
  cases k <;> rfl

end Statement

/-- The request body that sends statements in order. -/
def requestPayload (statements : List Statement) : Json :=
  .object [("statements", .array (statements.map Statement.payload))]

end GraphWire
