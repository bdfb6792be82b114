import GraphWire.Toml.Error

/-!
# TOML values

A TOML value, each member kept with the byte range it was read from so that an error about it
can point at it. Integers are kept whole, whatever their size: whether one fits the integer a
reader wants is the reader's question; so is an integer whose text stands for no number, and a
float beyond the largest binary64. Date-times keep their text.

A table records how it came to be, since that decides what may be added to it later:

* `inline`: written `{ … }`; nothing may be added to it afterwards;
* `implicit`: made on the way to a deeper key, by a header (`[a.b]` makes `a`) or by a dotted
  key (`a.b = 1` makes `a`), and not yet defined by a header of its own;
* `dotted`: made by a dotted key.

An array records whether it is an array of tables made by `[[…]]` headers.
-/

namespace GraphWire.Toml

/-- How a table came to be. -/
structure TableForm where
  inline : Bool
  implicit : Bool
  dotted : Bool
deriving DecidableEq, Repr

/-- A table written by a header, or the root. -/
def TableForm.defined : TableForm := ⟨false, false, false⟩

/-- A table written `{ … }`. -/
def TableForm.written : TableForm := ⟨true, false, false⟩

/-- A TOML value. -/
inductive Value where
  | string (s : String)
  /-- An integer, or `none` for a text that passed as one but stands for no number: a radix
  prefix without digits, or digits with letters among them. -/
  | integer (i : Option Int)
  /-- A float, or `none` for one too large for binary64. -/
  | float (f : Option Float)
  | boolean (b : Bool)
  | datetime (text : String)
  | array (items : List (Value × Span)) (ofTables : Bool)
  | table (entries : List (String × Value × Span)) (form : TableForm)
deriving Inhabited

/-- The entries of a table, in the order they were added. -/
abbrev Entries := List (String × Value × Span)

/-- The name of a value's type, as faults about it say. -/
def Value.typeName : Value → String
  | .string _ => "string"
  | .integer _ => "integer"
  | .float _ => "float"
  | .boolean _ => "boolean"
  | .datetime _ => "datetime"
  | .array _ _ => "array"
  | .table _ form => if form.inline then "inline table" else "table"

end GraphWire.Toml
