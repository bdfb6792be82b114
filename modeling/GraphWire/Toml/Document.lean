import GraphWire.Toml.Decode

/-!
# TOML documents

`Toml.read` turns TOML text into its root table, each value kept with the byte range it was
read from so that a later error about a value can point at it. Reading goes in two passes: the
text is first read as statements (`Statement.read`), which finds every fault of syntax; the
statements are then walked in order, their keys and scalars decoded and their values put into
tables, which finds every fault of meaning. The first fault found wins.

Headers choose the table that the following pairs go into:

* `[a.b]` defines table `b` in `a`. The tables on the way to it are made when missing, as
  *implicit* tables; a table may be defined by a header once, and only if nothing but headers
  has made it so far.
* `[[a.b]]` adds a table to the array of tables `b` in `a`; the following pairs go into the
  last table of that array.
* A dotted key `a.b = 1` makes the tables on the way implicit and *dotted*; a dotted table
  may not be defined by a header later, and a table defined by a header may not be extended by
  a dotted key.
* An inline table `{ … }` is closed: nothing may be added to it afterwards, by any key.

The table of a header is put into place when the next header starts, or at the end of the
document; so a fault of putting it there, such as an array of tables whose name is taken,
comes after the faults of its pairs.
-/

namespace GraphWire.Toml

/-- A decoded key: its name and the byte range it was written at. -/
abbrev Key := String × Span

/-- A table being filled: its entries and how it came to be. -/
structure Table where
  entries : Entries
  form : TableForm

/-- The table as a value. -/
def Table.value (t : Table) : Value := .table t.entries t.form

/-- The value of a key in some entries. -/
def entryOf (es : Entries) (k : String) : Option (Value × Span) :=
  (es.find? (fun e => e.1 = k)).map (·.2)

/-- Entries with a key set to a value: in place if the key is there, else at the end. -/
def putEntry (es : Entries) (k : String) (v : Value × Span) : Entries :=
  if es.any (fun e => e.1 = k) then es.map (fun e => if e.1 = k then (k, v) else e)
  else es ++ [(k, v)]

/-- Entries without a key. -/
def dropEntry (es : Entries) (k : String) : Entries := es.filter (fun e => e.1 ≠ k)

/-- The fault of a key given twice. -/
def duplicateKey (k : Key) : Fault := Fault.make "duplicate key" none k.2

/-- The fault of a key that goes through a value which is no table that may be extended. -/
def cannotExtend (typeName : String) (k : Key) : Fault :=
  Fault.make ("cannot extend value of type " ++ typeName ++ " with a dotted key") none k.2

/-- Apply a step to the table a path of keys leads to from a table, and put the tables on the
way back together. A missing table is made, implicit and `dotted` as told; an array of tables
leads to its last table. A value that is no table, an inline table, or (for a dotted key) a
table defined by a header cannot be gone through. -/
def descend {α : Type} (dotted : Bool) (f : Table → Except Fault (Table × α)) :
    List Key → Table → Except Fault (Table × α)
  | [], t => f t
  | k :: path, t =>
    match entryOf t.entries k.1 with
    | none => do
      let (child, a) ← descend dotted f path ⟨[], ⟨false, true, dotted⟩⟩
      return (⟨putEntry t.entries k.1 (child.value, k.2), t.form⟩, a)
    | some (v, span) =>
      match v with
      | .table es form =>
        if form.inline then .error (cannotExtend "inline table" k)
        else if dotted && !form.implicit then .error (duplicateKey k)
        else do
          let (child, a) ← descend dotted f path ⟨es, form⟩
          return (⟨putEntry t.entries k.1 (child.value, span), t.form⟩, a)
      | .array items true =>
        match items.getLast? with
        | some (.table es form, itemSpan) => do
          let (child, a) ← descend dotted f path ⟨es, form⟩
          let items := items.dropLast ++ [(child.value, itemSpan)]
          return (⟨putEntry t.entries k.1 (.array items true, span), t.form⟩, a)
        | some (other, _) => .error (cannotExtend other.typeName k)
        | none => .error (cannotExtend "array" k)
      | other => .error (cannotExtend other.typeName k)

/-- Add a pair, its key split into the tables on the way and its last part, to a table. A key
already there is a duplicate; so is a plain key put into a dotted table, or a dotted key put
into a table that is not dotted. -/
def Table.capture (t : Table) (path : List Key) (key : Key) (v : Value × Span) :
    Except Fault Table :=
  (descend true (fun u =>
    if u.form.dotted == path.isEmpty then .error (duplicateKey key)
    else match entryOf u.entries key.1 with
      | some _ => .error (duplicateKey key)
      | none => .ok (⟨putEntry u.entries key.1 v, u.form⟩, ())) path t).map (·.1)

/-- A key split into the tables on the way and its last part. -/
def splitKey (keys : List Key) : Option (List Key × Key) :=
  keys.getLast?.map (fun k => (keys.dropLast, k))

/-- The most parts a key may have. -/
def keyLimit : Nat := 80

/-- Decode the parts of a key; a key of more than `keyLimit` parts is refused, by a fault
about no place of the text. -/
def decodeKey (key : List Written) : Except Fault (List Key) := do
  let keys ← key.mapM (fun w => do return (← w.key, w.span))
  if keys.length > keyLimit then throw ⟨"recursion limit", none⟩
  return keys

/-- Decode a value: its scalars, and its inline tables' pairs put into place, in order.
`fuel` bounds the nesting. -/
def Syntax.decode : Nat → Syntax → Except Fault (Value × Span)
  | 0, _ => .error (Fault.at "value nested too deeply" none 0)
  | _ + 1, .scalar w => do return (← w.scalar, w.span)
  | fuel + 1, .array start stop items => do
    let values ← items.mapM (Syntax.decode fuel)
    return (.array values false, (start, stop))
  | fuel + 1, .inline start stop pairs => do
    let t ← pairs.foldlM (fun (t : Table) (p : List Written × Syntax) => do
      let keys ← decodeKey p.1
      let v ← Syntax.decode fuel p.2
      match splitKey keys with
      | some (path, key) => t.capture path key v
      | none => pure t) ⟨[], .written⟩
    return (t.value, (start, stop))

/-- Where the pairs being read go. -/
inductive Place where
  /-- The root table, before any header. -/
  | root
  /-- The table of a header `[…]`: the tables on the way, its key and the header's range. -/
  | table (path : List Key) (key : Key) (span : Span)
  /-- A new table of an array of tables `[[…]]`. -/
  | arrayItem (path : List Key) (key : Key) (span : Span)

/-- A document being read: the root table without the table being filled, that table, and
where it goes. -/
structure Sheet where
  root : Entries
  current : Table
  place : Place

/-- The document before its first statement. -/
def Sheet.initial : Sheet := ⟨[], ⟨[], .defined⟩, .root⟩

/-- The root table with the table being filled put into place. -/
def Sheet.finish (s : Sheet) : Except Fault Entries :=
  match s.place with
  | .root => .ok s.current.entries
  | .table path key span => do
    let (t, _) ← descend false (fun p =>
      match entryOf p.entries key.1 with
      | some _ => .error (duplicateKey key)
      | none => .ok (⟨putEntry p.entries key.1 (s.current.value, span), p.form⟩, ()))
      path ⟨s.root, .defined⟩
    return t.entries
  | .arrayItem path key span => do
    let item := (s.current.value, span)
    let (t, _) ← descend false (fun p =>
      match entryOf p.entries key.1 with
      | none => .ok (⟨putEntry p.entries key.1 (.array [item] true, span), p.form⟩, ())
      | some (.array items true, arraySpan) =>
        .ok (⟨putEntry p.entries key.1 (.array (items ++ [item]) true, arraySpan), p.form⟩, ())
      | some _ => .error (duplicateKey key))
      path ⟨s.root, .defined⟩
    return t.entries

/-- Start the table of a header `[…]`: a table made implicitly by other headers is taken out
to be filled; a table that is there in any other way is a duplicate. -/
def Sheet.startTable (root : Entries) (path : List Key) (key : Key) (span : Span) :
    Except Fault Sheet := do
  let (t, taken) ← descend false (fun p =>
    match entryOf p.entries key.1 with
    | none => .ok (p, [])
    | some (.table es form, _) =>
      if form.implicit && !form.dotted then .ok (⟨dropEntry p.entries key.1, p.form⟩, es)
      else .error (duplicateKey key)
    | some _ => .error (duplicateKey key))
    path ⟨root, .defined⟩
  return ⟨t.entries, ⟨taken, .defined⟩, .table path key span⟩

/-- Take one statement into a document. -/
def Sheet.step (fuel : Nat) (s : Sheet) : Statement → Except Fault Sheet
  | .pair key value => do
    let keys ← decodeKey key
    let v ← Syntax.decode fuel value
    match splitKey keys with
    | some (path, last) => return { s with current := ← s.current.capture path last v }
    | none => return s
  | .header isArray key span => do
    let root ← s.finish
    let keys ← decodeKey key
    match splitKey keys with
    | some (path, last) =>
      if isArray then return ⟨root, ⟨[], .defined⟩, .arrayItem path last span⟩
      else Sheet.startTable root path last span
    | none => return ⟨root, ⟨[], .defined⟩, .root⟩

/-- Read a TOML document: its root table, or its first fault. -/
def read (text : String) : Except Fault Entries := do
  let statements ← Statement.read text
  let sheet ← statements.foldlM (Sheet.step (text.length + 1)) Sheet.initial
  sheet.finish

end GraphWire.Toml
