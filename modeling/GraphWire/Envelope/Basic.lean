import GraphWire.Json.Basic

/-! # Response envelopes

The body of every answer of the transaction endpoint: the URL to commit the open transaction
at, when it expires, one result fragment per statement sent, and the errors the server
reported. A fragment holds column names, data items (a row, a sub-graph, or both) and, when
asked for, execution statistics. Nodes and relationships keep their properties as JSON until
they are materialized. -/

namespace GraphWire

/-- An error reported by the server: a status code and a message. -/
structure ServerError where
  code : String
  message : String
deriving DecidableEq, Repr, Inhabited

/-- The text of a server error, `[code] message`. -/
def ServerError.display (e : ServerError) : String := "[" ++ e.code ++ "] " ++ e.message

/-- Counters of what a statement changed. -/
structure QueryStats where
  containsUpdates : Bool
  nodesCreated : UInt64
  nodesDeleted : UInt64
  propertiesSet : UInt64
  relationshipsCreated : UInt64
  relationshipsDeleted : UInt64
  labelsAdded : UInt64
  labelsRemoved : UInt64
  indexesAdded : UInt64
  indexesRemoved : UInt64
  constraintsAdded : UInt64
  constraintsRemoved : UInt64
deriving DecidableEq, Repr, Inhabited

/-- A node as the server sends it. -/
structure WireNode where
  id : Int64
  labels : List String
  properties : Option (List (String × Json))
deriving Inhabited

/-- A relationship as the server sends it. -/
structure WireRelationship where
  id : Int64
  type : String
  startNode : Int64
  endNode : Int64
  properties : Option (List (String × Json))
deriving Inhabited

/-- The nodes and relationships of one data item. -/
structure SubGraph where
  nodes : List WireNode
  relationships : List WireRelationship
deriving Inhabited

/-- One data item of a fragment: a row of cells, a sub-graph, or both. -/
structure DataItem where
  row : Option (List Json)
  graph : Option SubGraph
deriving Inhabited

/-- The result of one statement. -/
structure Fragment where
  columns : List String
  data : List DataItem
  stats : Option QueryStats
deriving Inhabited

/-- What the server says about the open transaction. -/
structure TransactionInfo where
  expires : Option String
deriving Inhabited

/-- A response body. -/
structure Envelope where
  commit : Option String
  transaction : Option TransactionInfo
  results : List Fragment
  errors : List ServerError
deriving Inhabited

/-- The envelope of an empty body. -/
def Envelope.empty : Envelope := ⟨none, none, [], []⟩

/-- The expiry text of an envelope. -/
def Envelope.expires? (e : Envelope) : Option String := e.transaction >>= (·.expires)

end GraphWire
