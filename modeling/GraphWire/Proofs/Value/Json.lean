import GraphWire.Statement

/-!
# Values and JSON documents

Reading a JSON document as a value (`Value.ofJson`) and writing a value as a document
(`Value.toJson`) are inverse on their domains. Every value comes back from its document: an
integer is written as the integer literal and read back as an integer, a float as a float
literal and read back as that float, whatever its digits. A document comes back from its value
when each of its integers lies in 64-bit signed range; the one number that does not come back
is an integer literal above that range, which a value holds as the nearest float.

The split of numbers is exact: a number becomes the integer `k` exactly when it is the integer
literal of `k`, and every other number becomes a float, never null. A statement's parameters
travel as the document of a map, so the server reads back the map the statement holds.

The documents of this library keep non-finite floats as floats and write them as `null` only
when they are laid out as text, so the first inverse holds of every value.
-/

namespace GraphWire

namespace Json

mutual

/-- The integer literals of a document, in document order. -/
def integers : Json → List Int
  | .number (.int i) => [i]
  | .array items => integersList items
  | .object fs => integersFields fs
  | _ => []

/-- The integer literals of array items. -/
def integersList : List Json → List Int
  | [] => []
  | j :: rest => integers j ++ integersList rest

/-- The integer literals of object members. -/
def integersFields : List (String × Json) → List Int
  | [] => []
  | (_, j) :: rest => integers j ++ integersFields rest

end

end Json

namespace Value

/-- The range check of integers is 64-bit signed range. -/
theorem fitsInt64_iff (i : Int) :
    fitsInt64 i = true ↔ Int64.minValue.toInt ≤ i ∧ i ≤ Int64.maxValue.toInt := by
  have hpow : ((Nat.pow 2 63 : Nat) : Int) = 9223372036854775808 := rfl
  have hmin : Int64.minValue.toInt = -9223372036854775808 := rfl
  have hmax : Int64.maxValue.toInt = 9223372036854775807 := rfl
  simp only [fitsInt64, hpow, hmin, hmax, Bool.and_eq_true, decide_eq_true_eq]
  omega

theorem fitsInt64_toInt (k : Int64) : fitsInt64 k.toInt = true :=
  (fitsInt64_iff _).2 ⟨Int64.le_iff_toInt_le.1 (Int64.minValue_le k),
    Int64.le_iff_toInt_le.1 (Int64.le_maxValue k)⟩

theorem toInt_ofInt_of_fitsInt64 {i : Int} (h : fitsInt64 i = true) :
    (Int64.ofInt i).toInt = i := by
  have hmin : Int64.minValue.toInt = -9223372036854775808 := rfl
  have hmax : Int64.maxValue.toInt = 9223372036854775807 := rfl
  obtain ⟨h₁, h₂⟩ := (fitsInt64_iff i).1 h
  exact Int64.toInt_ofInt_of_le (by omega) (by omega)

@[simp] theorem ofJson_int (i : Int) :
    ofJson (.number (.int i)) =
      if fitsInt64 i then .int (Int64.ofInt i) else .float (Binary64.ofInt i) := by
  rw [ofJson]

@[simp] theorem ofJson_float (f : Float) : ofJson (.number (.float f)) = .float f := by
  rw [ofJson]

/-! ## From values to documents and back -/

mutual

/-- Every value is read back from its document. -/
theorem ofJson_toJson : ∀ v : Value, ofJson v.toJson = v
  | .null => by rw [toJson, ofJson]
  | .bool _ => by rw [toJson, ofJson]
  | .int k => by rw [toJson, ofJson_int, if_pos (fitsInt64_toInt k), Int64.ofInt_toInt]
  | .float _ => by rw [toJson, ofJson_float]
  | .string _ => by rw [toJson, ofJson]
  | .list items => by rw [toJson, ofJson, ofJsonList_toJsonList items]
  | .map es => by rw [toJson, ofJson, ofJsonFields_toJsonFields es]

theorem ofJsonList_toJsonList : ∀ vs : List Value, ofJsonList (toJsonList vs) = vs
  | [] => by rw [toJsonList, ofJsonList]
  | v :: rest => by
    rw [toJsonList, ofJsonList, ofJson_toJson v, ofJsonList_toJsonList rest]

theorem ofJsonFields_toJsonFields :
    ∀ es : List (String × Value), ofJsonFields (toJsonFields es) = es
  | [] => by rw [toJsonFields, ofJsonFields]
  | (k, v) :: rest => by
    rw [toJsonFields, ofJsonFields, ofJson_toJson v, ofJsonFields_toJsonFields rest]

end

/-! ## From documents to values and back -/

mutual

/-- A document whose integers are all in 64-bit signed range is written back from its value. -/
theorem toJson_ofJson : ∀ j : Json, (∀ i ∈ j.integers, fitsInt64 i = true) →
    (ofJson j).toJson = j
  | .null, _ => by rw [ofJson, toJson]
  | .bool _, _ => by rw [ofJson, toJson]
  | .number (.int i), h => by
    have hi : fitsInt64 i = true := h i (by simp [Json.integers])
    rw [ofJson_int, if_pos hi, toJson, toInt_ofInt_of_fitsInt64 hi]
  | .number (.float _), _ => by rw [ofJson_float, toJson]
  | .string _, _ => by rw [ofJson, toJson]
  | .array items, h => by
    rw [ofJson, toJson, toJsonList_ofJsonList items (by simpa [Json.integers] using h)]
  | .object fs, h => by
    rw [ofJson, toJson, toJsonFields_ofJsonFields fs (by simpa [Json.integers] using h)]

theorem toJsonList_ofJsonList : ∀ js : List Json,
    (∀ i ∈ Json.integersList js, fitsInt64 i = true) → toJsonList (ofJsonList js) = js
  | [], _ => by rw [ofJsonList, toJsonList]
  | j :: rest, h => by
    simp only [Json.integersList, List.mem_append] at h
    rw [ofJsonList, toJsonList, toJson_ofJson j (fun i hi => h i (.inl hi)),
      toJsonList_ofJsonList rest (fun i hi => h i (.inr hi))]

theorem toJsonFields_ofJsonFields : ∀ fs : List (String × Json),
    (∀ i ∈ Json.integersFields fs, fitsInt64 i = true) → toJsonFields (ofJsonFields fs) = fs
  | [], _ => by rw [ofJsonFields, toJsonFields]
  | (k, j) :: rest, h => by
    simp only [Json.integersFields, List.mem_append] at h
    rw [ofJsonFields, toJsonFields, toJson_ofJson j (fun i hi => h i (.inl hi)),
      toJsonFields_ofJsonFields rest (fun i hi => h i (.inr hi))]

end

/-! ## Numbers -/

/-- A number is read as the integer `k` exactly when it is the integer literal of `k`. -/
theorem ofJson_number_eq_int_iff (n : Number) (k : Int64) :
    ofJson (.number n) = .int k ↔ n = .int k.toInt := by
  constructor
  · intro h
    cases n with
    | float f => simp at h
    | int i =>
      by_cases hi : fitsInt64 i = true
      · simp only [ofJson_int, hi, if_true, Value.int.injEq] at h
        rw [← h, toInt_ofInt_of_fitsInt64 hi]
      · simp [hi] at h
  · rintro rfl
    rw [ofJson_int, if_pos (fitsInt64_toInt k), Int64.ofInt_toInt]

theorem ofJson_number_ne_null (n : Number) : ofJson (.number n) ≠ .null := by
  cases n with
  | int i => by_cases hi : fitsInt64 i = true <;> simp [hi]
  | float f => simp

/-! ## Parameters -/

theorem map_toJson_eq_toJsonFields (es : List (String × Value)) :
    es.map (fun p => (p.1, p.2.toJson)) = toJsonFields es := by
  induction es with
  | nil => rfl
  | cons e rest ih => rw [List.map_cons, ih, toJsonFields]

/-- The parameters member of a statement's request entry is read back as the statement's map. -/
theorem ofJson_payload_parameters (s : Statement) :
    (s.payload.field? "parameters").map ofJson = some (.map s.parameters) := by
  have : s.payload.field? "parameters" =
      some (.object (s.parameters.map (fun p => (p.1, p.2.toJson)))) := rfl
  rw [this, Option.map_some, ofJson, map_toJson_eq_toJsonFields, ofJsonFields_toJsonFields]

/-- Values and JSON documents are in bijection on their domains. Every value is read back from
its document; a document is written back from its value when all its integers lie in 64-bit
signed range. A number is read as the integer `k` exactly when it is the integer literal of
`k`; a float literal, integral or not, is read as that float, an integer literal out of range
as the nearest float, and no number as null. The parameters a statement sends are read back
as its map. -/
theorem value_json_bijection :
    (∀ v : Value, ofJson v.toJson = v) ∧
    (∀ j : Json, (∀ i ∈ j.integers, Int64.minValue.toInt ≤ i ∧ i ≤ Int64.maxValue.toInt) →
      (ofJson j).toJson = j) ∧
    (∀ (n : Number) (k : Int64), ofJson (.number n) = .int k ↔ n = .int k.toInt) ∧
    (∀ f : Float, ofJson (.number (.float f)) = .float f) ∧
    (∀ i : Int, ¬ (Int64.minValue.toInt ≤ i ∧ i ≤ Int64.maxValue.toInt) →
      ofJson (.number (.int i)) = .float (Binary64.ofInt i)) ∧
    (∀ n : Number, ofJson (.number n) ≠ .null) ∧
    ∀ s : Statement, (s.payload.field? "parameters").map ofJson = some (.map s.parameters) := by
  refine ⟨ofJson_toJson, fun j h => toJson_ofJson j fun i hi => (fitsInt64_iff i).2 (h i hi),
    ofJson_number_eq_int_iff, ofJson_float, fun i hi => ?_, ofJson_number_ne_null,
    ofJson_payload_parameters⟩
  rw [ofJson_int, if_neg (mt (fitsInt64_iff i).1 hi)]

/-- A document with integers at both ends of the signed range, a float literal `1.0` and a
negative zero comes back from its value, while `2^63` is read as a float. -/
theorem value_json_bijection_bounds :
    let j : Json := .array [.number (.int (-9223372036854775808)),
      .object [("max", .number (.int 9223372036854775807)), ("one", .number (.float 1.0))],
      .number (.float (-0.0))]
    (ofJson j).toJson = j ∧
      ofJson (.number (.int 9223372036854775808)) = .float (Binary64.ofInt 9223372036854775808) :=
  ⟨value_json_bijection.2.1 _ (by simp [Json.integers, Json.integersList, Json.integersFields,
      Int64.toInt_maxValue]),
    value_json_bijection.2.2.2.2.1 _ (by simp [Int64.toInt_maxValue])⟩

end Value

end GraphWire
