import GraphWire.Value.Basic
import GraphWire.Decimal.Layout

/-! # Texts of a value

`Value.display` is the plain text of a value for people: strings without quotes, floats
positionally with their shortest digits, lists as `[a, b]` and maps as `{k: v}`.
`Value.toTagged` is a JSON form that keeps every distinction of the value: integers and floats
are tagged (`{"int": 1}`, `{"float": 1.0}`) and a map is wrapped (`{"map": {…}}`), so that a map
is never mistaken for a tag. -/

namespace GraphWire

namespace Value

mutual

/-- The plain text of a value. -/
def display : Value → String
  | .null => "null"
  | .bool b => if b then "true" else "false"
  | .int i => toString i.toInt
  | .float f => Decimal.Layout.plain.render f
  | .string s => s
  | .list xs => "[" ++ displayItems xs ++ "]"
  | .map es => "\x7b" ++ displayEntries es ++ "\x7d"

/-- List items, separated by a comma and a space. -/
def displayItems : List Value → String
  | [] => ""
  | [x] => display x
  | x :: rest => display x ++ ", " ++ displayItems rest

/-- Map entries as `key: value`, separated by a comma and a space. -/
def displayEntries : List (String × Value) → String
  | [] => ""
  | [(k, v)] => k ++ ": " ++ display v
  | (k, v) :: rest => k ++ ": " ++ display v ++ ", " ++ displayEntries rest

end

/-- A float in tagged form: a JSON number when finite, else its plain text. -/
def floatTag (f : Float) : Json :=
  if f.isFinite then .number (.float f) else .string (Decimal.Layout.plain.render f)

mutual

/-- The tagged JSON form of a value. -/
def toTagged : Value → Json
  | .null => .null
  | .bool b => .bool b
  | .int i => .object [("int", .number (.int i.toInt))]
  | .float f => .object [("float", floatTag f)]
  | .string s => .string s
  | .list xs => .array (toTaggedList xs)
  | .map es => .object [("map", .object (toTaggedFields es))]

/-- The tagged forms of list items. -/
def toTaggedList : List Value → List Json
  | [] => []
  | v :: rest => toTagged v :: toTaggedList rest

/-- The tagged forms of map entries. -/
def toTaggedFields : List (String × Value) → List (String × Json)
  | [] => []
  | (k, v) :: rest => (k, toTagged v) :: toTaggedFields rest

end

end Value

end GraphWire
