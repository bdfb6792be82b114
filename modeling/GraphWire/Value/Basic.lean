import GraphWire.Json.Basic
import GraphWire.Decimal.Binary64

/-! # Values

The dynamic values that travel as statement parameters, result cells and properties. A map
keeps its entries in ascending key order with one entry per key, as in a JSON object.

A JSON number becomes an integer exactly when it is an integer literal within 64-bit signed
range; every other number becomes a float (`Value.ofJson`). Writing a value back as JSON
(`Value.toJson`) leaves out the tags, so a finite value read back from its JSON is itself. -/

namespace GraphWire

/-- A parameter, cell or property value. -/
inductive Value where
  | null
  | bool (b : Bool)
  | int (i : Int64)
  | float (f : Float)
  | string (s : String)
  | list (items : List Value)
  | map (entries : List (String × Value))
deriving Inhabited, Repr

namespace Value

/-- Whether an integer fits in 64-bit signed range. -/
def fitsInt64 (i : Int) : Bool := -(Nat.pow 2 63 : Int) ≤ i && i < (Nat.pow 2 63 : Int)

mutual

/-- The value of a JSON document: an integer within 64-bit signed range stays an integer, every
other number becomes the nearest float. -/
def ofJson : Json → Value
  | .null => .null
  | .bool b => .bool b
  | .number (.int i) => if fitsInt64 i then .int (Int64.ofInt i) else .float (Binary64.ofInt i)
  | .number (.float f) => .float f
  | .string s => .string s
  | .array items => .list (ofJsonList items)
  | .object fs => .map (ofJsonFields fs)

/-- The values of JSON array items. -/
def ofJsonList : List Json → List Value
  | [] => []
  | j :: rest => ofJson j :: ofJsonList rest

/-- The entries of a JSON object. -/
def ofJsonFields : List (String × Json) → List (String × Value)
  | [] => []
  | (k, j) :: rest => (k, ofJson j) :: ofJsonFields rest

end

mutual

/-- The JSON document of a value, without tags. -/
def toJson : Value → Json
  | .null => .null
  | .bool b => .bool b
  | .int i => .number (.int i.toInt)
  | .float f => .number (.float f)
  | .string s => .string s
  | .list items => .array (toJsonList items)
  | .map es => .object (toJsonFields es)

/-- The JSON documents of list items. -/
def toJsonList : List Value → List Json
  | [] => []
  | v :: rest => toJson v :: toJsonList rest

/-- The JSON members of map entries. -/
def toJsonFields : List (String × Value) → List (String × Json)
  | [] => []
  | (k, v) :: rest => (k, toJson v) :: toJsonFields rest

end

/-- The short name of a value's kind. -/
def typeName : Value → String
  | .null => "null"
  | .bool _ => "boolean"
  | .int _ => "integer"
  | .float _ => "float"
  | .string _ => "string"
  | .list _ => "list"
  | .map _ => "map"

/-- Whether the value is null. -/
def isNull : Value → Bool
  | .null => true
  | _ => false

/-- The boolean held. -/
def asBool? : Value → Option Bool
  | .bool b => some b
  | _ => none

/-- The integer held. -/
def asInt? : Value → Option Int64
  | .int i => some i
  | _ => none

/-- The float held; an integer widens to the nearest float. -/
def asFloat? : Value → Option Float
  | .float f => some f
  | .int i => some (Binary64.ofInt i.toInt)
  | _ => none

/-- The string held. -/
def asString? : Value → Option String
  | .string s => some s
  | _ => none

/-- The items of a list. -/
def asList? : Value → Option (List Value)
  | .list xs => some xs
  | _ => none

/-- The entries of a map. -/
def asMap? : Value → Option (List (String × Value))
  | .map es => some es
  | _ => none

/-- Put an entry into a key-sorted entry list; an entry with the same key is replaced. -/
def insertEntry (k : String) (v : Value) : List (String × Value) → List (String × Value)
  | [] => [(k, v)]
  | (k', v') :: rest =>
    if k < k' then (k, v) :: (k', v') :: rest
    else if k = k' then (k, v) :: rest
    else (k', v') :: insertEntry k v rest

/-- The map with the given entries; of two entries with one key the later wins. -/
def mapOf (entries : List (String × Value)) : Value :=
  .map (entries.foldl (fun acc e => insertEntry e.1 e.2 acc) [])

@[simp] theorem typeName_int (i : Int64) : (Value.int i).typeName = "integer" := rfl
@[simp] theorem isNull_iff (v : Value) : v.isNull = true ↔ v = .null := by
  cases v <;> simp [isNull]

end Value

end GraphWire
