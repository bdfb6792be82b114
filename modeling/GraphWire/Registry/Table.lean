import GraphWire.Json.Schema

/-!
# Binding tables

A registry keeps at most one long-running transaction per caller context. Its table maps a
context key to an entry: the identity of the transaction bound and the cell that holds it.

A binding is the handle a holder keeps to undo its own entry later. Undoing it (`Table.unbind`)
removes the entry of its key only while that entry still carries its identity, so a stale
holder can never evict a newer binding under the same key. `Table.remove` is the unconditional
removal of whatever a key holds.
-/

namespace GraphWire

/-- A key naming a caller's context: a request, a session, a task. -/
structure ContextKey where
  text : String
deriving DecidableEq, Repr, Inhabited

namespace ContextKey

/-- The key as a debug view shows it: `ContextKey("k")`. -/
def debugText (k : ContextKey) : String := "ContextKey(" ++ Json.debugString k.text ++ ")"

/-- A hexadecimal digit. -/
def hexDigit (n : Nat) : Char := if n < 10 then Char.ofNat (48 + n) else Char.ofNat (87 + n)

/-- `n` as exactly `width` hexadecimal digits, keeping the low ones. -/
def hexWidth (width n : Nat) : List Char :=
  (List.range width).reverse.map (fun i => hexDigit (n / Nat.pow 16 i % 16))

/-- A key that no caller chooses: a version 4 UUID made from a seed, so that two seeds give two
keys. -/
def fresh (seed : Nat) : ContextKey :=
  let h := hexWidth 32 seed
  let part (a b : Nat) := String.ofList ((h.drop a).take (b - a))
  ⟨part 0 8 ++ "-" ++ part 8 12 ++ "-4" ++ part 13 16 ++ "-8" ++ part 17 20 ++ "-" ++
    part 20 32⟩

end ContextKey

/-- The handle to one entry of a table: its key and the identity bound under it. -/
structure Binding where
  key : ContextKey
  id : Nat
deriving DecidableEq, Repr, Inhabited

/-- The identity of a bound transaction and the cell that holds it. -/
structure Entry where
  id : Nat
  cell : Nat
deriving DecidableEq, Repr, Inhabited

/-- The binding as a debug view shows it; `showId` writes the identity. -/
def Binding.debugText (showId : Nat → String) (b : Binding) : String :=
  "RegistryBinding \x7b key: " ++ b.key.debugText ++ ", id: TransactionId(" ++ showId b.id ++ ") \x7d"

/-- Entries by context key, one per key. -/
structure Table where
  entries : List (ContextKey × Entry)
deriving Inhabited

namespace Table

/-- The table with no entries. -/
def empty : Table := ⟨[]⟩

/-- The entry of a key. -/
def find? (t : Table) (k : ContextKey) : Option Entry := t.entries.lookup k

/-- Whether a key has an entry. -/
def contains (t : Table) (k : ContextKey) : Bool := (t.find? k).isSome

/-- The number of entries. -/
def size (t : Table) : Nat := t.entries.length

/-- The table with an entry put under a key, replacing the key's entry if it has one. -/
def put (t : Table) (k : ContextKey) (e : Entry) : Table :=
  if t.contains k then ⟨t.entries.map (fun p => if p.1 = k then (k, e) else p)⟩
  else ⟨t.entries ++ [(k, e)]⟩

/-- Remove a key's entry, whatever it holds; whether there was one. -/
def remove (t : Table) (k : ContextKey) : Table × Bool :=
  (⟨t.entries.filter (fun p => p.1 != k)⟩, t.contains k)

/-- Remove a key's entry only if it carries the given identity; whether it did. -/
def unbind (t : Table) (k : ContextKey) (id : Nat) : Table × Bool :=
  match t.find? k with
  | some e => if e.id = id then t.remove k else (t, false)
  | none => (t, false)

/-- Undo a binding: its key's entry goes if it still carries the binding's identity. -/
def release (t : Table) (b : Binding) : Table := (t.unbind b.key b.id).1

@[simp] theorem size_empty : empty.size = 0 := rfl

end Table

end GraphWire
