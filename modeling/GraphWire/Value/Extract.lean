import GraphWire.Value.Basic

/-! # Reading values as Lean types, and making values from them

`FromValue α` says how a value is read as an `α` and how the expected kind is named when it
cannot be. An integer is read as a float by widening, and as a 32-bit integer only within range.
Reading as `Option α` takes null to `none` and keeps the kind name of `α`.
`ToValue α` is the other direction. -/

namespace GraphWire

/-- How a value is read as an `α`. -/
class FromValue (α : Type) where
  /-- The name of the kind expected, used when a value does not fit. -/
  expected : String
  /-- The `α` a value stands for, if any. -/
  fromValue? : Value → Option α

/-- How an `α` becomes a value. -/
class ToValue (α : Type) where
  toValue : α → Value

namespace Value

/-- Whether an integer fits in 32-bit signed range. -/
def fitsInt32 (i : Int) : Bool := -(Nat.pow 2 31 : Int) ≤ i && i < (Nat.pow 2 31 : Int)

/-- The 32-bit integer held, if within range. -/
def asInt32? (v : Value) : Option Int32 :=
  match v with
  | .int i => if fitsInt32 i.toInt then some (Int32.ofInt i.toInt) else none
  | _ => none

end Value

instance : FromValue Value := ⟨"any", some⟩
instance : FromValue Bool := ⟨"boolean", Value.asBool?⟩
instance : FromValue Int64 := ⟨"integer", Value.asInt?⟩
instance : FromValue Int32 := ⟨"32-bit integer", Value.asInt32?⟩
instance : FromValue Float := ⟨"float", Value.asFloat?⟩
instance : FromValue String := ⟨"string", Value.asString?⟩
instance : FromValue (List Value) := ⟨"list", Value.asList?⟩
instance : FromValue (List (String × Value)) := ⟨"map", Value.asMap?⟩

instance {α : Type} [FromValue α] : FromValue (Option α) where
  expected := FromValue.expected α
  fromValue? v := if v.isNull then some none else (FromValue.fromValue? v).map some

instance : ToValue Value := ⟨id⟩
instance : ToValue Bool := ⟨.bool⟩
instance : ToValue Int64 := ⟨.int⟩
instance : ToValue Int32 := ⟨fun i => .int i.toInt64⟩
instance : ToValue UInt32 := ⟨fun i => .int (Int64.ofNat i.toNat)⟩
instance : ToValue Float := ⟨.float⟩
instance : ToValue String := ⟨.string⟩

instance {α : Type} [ToValue α] : ToValue (List α) := ⟨fun xs => .list (xs.map ToValue.toValue)⟩

instance {α : Type} [ToValue α] : ToValue (Option α) where
  toValue
    | some a => ToValue.toValue a
    | none => .null

instance {α : Type} [ToValue α] : ToValue (List (String × α)) where
  toValue es := Value.mapOf (es.map (fun e => (e.1, ToValue.toValue e.2)))

@[simp] theorem fromValue?_option_null {α : Type} [FromValue α] :
    (FromValue.fromValue? Value.null : Option (Option α)) = some none := rfl

end GraphWire
