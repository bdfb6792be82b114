/-! # JSON documents

A JSON document as the reader produces it. An integer literal that fits in 64 bits (unsigned,
or negative and signed) stays exact; every other number is a binary64 float. An object keeps
one entry per key, in ascending key order, and a later entry for a key replaces an earlier
one, so two documents with the same members are one value. -/

namespace GraphWire

/-- A JSON number: an exact integer for a literal without fraction or exponent that fits in
64 bits, and a binary64 float for every other literal. -/
inductive Number where
  | int (i : Int)
  | float (f : Float)
deriving Inhabited, Repr

/-- A JSON document. -/
inductive Json where
  | null
  | bool (b : Bool)
  | number (n : Number)
  | string (s : String)
  | array (items : List Json)
  | object (fields : List (String × Json))
deriving Inhabited, Repr

namespace Json

/-- Put an entry into a key-sorted field list; an entry with the same key is replaced. -/
def insertField (k : String) (v : Json) : List (String × Json) → List (String × Json)
  | [] => [(k, v)]
  | (k', v') :: rest =>
    if k < k' then (k, v) :: (k', v') :: rest
    else if k = k' then (k, v) :: rest
    else (k', v') :: insertField k v rest

/-- The object with the given entries; of two entries with one key the later wins. -/
def obj (entries : List (String × Json)) : Json :=
  .object (entries.foldl (fun acc e => insertField e.1 e.2 acc) [])

/-- The member of an object under a key. -/
def field? : Json → String → Option Json
  | .object fs, k => fs.lookup k
  | _, _ => none

/-- An exact integer. -/
def int (i : Int) : Json := .number (.int i)

/-- An exact natural number. -/
def nat (n : Nat) : Json := .number (.int n)

/-- A float. -/
def float (f : Float) : Json := .number (.float f)

/-- A string. -/
def str (s : String) : Json := .string s

/-- `none` as null. -/
def opt {α : Type} (f : α → Json) : Option α → Json
  | some a => f a
  | none => .null

@[simp] theorem field?_object (fs : List (String × Json)) (k : String) :
    (Json.object fs).field? k = fs.lookup k := rfl

end Json

end GraphWire
