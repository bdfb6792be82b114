import GraphWire.Json.Schema

/-!
# Reading records field by field

What the record reader promises its callers, for records read from objects:

* a failure is never dropped: a member whose field rejects its value makes the record fail
  (`Shape.collect_error_of_member`), and so does an item of a sequence or a non-null optional
  document whose decoder fails (`Decoder.seq_error_of_mem`, `Decoder.option_error`);
* a record read without failure has, in the slot of each field, the very member that names the
  field (`Shape.collect_slot`), so a field's value is its decoder applied to that member
  (`Shape.slot_of_collect`).

Each step of `Shape.fillMembers` either fails or goes on with the remaining members
(`Shape.fillMembers_cons`); both facts follow from that by induction over the members.
-/

namespace GraphWire.Json

/-- A computation that went through went through each of its steps. -/
theorem bind_eq_ok_iff {ε α β : Type} {x : Except ε α} {f : α → Except ε β} {b : β} :
    x >>= f = .ok b ↔ ∃ a, x = .ok a ∧ f a = .ok b := by
  cases x with
  | error e =>
    constructor
    · intro h
      cases h
    · rintro ⟨_, h, _⟩
      cases h
  | ok a =>
    constructor
    · intro h
      exact ⟨a, rfl, h⟩
    · rintro ⟨_, h, hf⟩
      cases h
      exact hf

theorem Shape.fieldIndex?_lt {s : Shape} {k : String} {i : Nat} (h : s.fieldIndex? k = some i) :
    i < s.fields.length :=
  (List.findIdx?_eq_some_iff_getElem.1 h).1

theorem Field.check_of {β : Type} (name : String) (d : Decoder β) (required : Bool)
    (aliases : List String) (v : Json) :
    (Field.of name d required aliases).check v = (d v).map fun _ => () := rfl

namespace Shape

/-! ## One member at a time -/

/-- A member either fails the record or leaves the rest of the members to read, with slots
of the same number. -/
theorem fillMembers_cons (s : Shape) (k : String) (v : Json) (rest : List (String × Json))
    (slots : List (Option Json)) :
    (∃ e, s.fillMembers ((k, v) :: rest) slots = .error e) ∨
      ∃ slots', slots'.length = slots.length ∧
        s.fillMembers ((k, v) :: rest) slots = s.fillMembers rest slots' := by
  simp only [fillMembers]
  split
  · exact .inr ⟨slots, rfl, rfl⟩
  · split
    · exact .inl ⟨_, rfl⟩
    · split
      · exact .inr ⟨_, List.length_set, rfl⟩
      · exact .inl ⟨_, rfl⟩
    · exact .inr ⟨slots, rfl, rfl⟩

/-- A member that names a field whose check refuses it fails the members, wherever it
stands. -/
theorem fillMembers_error_of_mem {s : Shape} {fs : List (String × Json)} {k : String}
    {v : Json} {i : Nat} {f : Field} {e : DecodeError} (hkv : (k, v) ∈ fs)
    (hi : s.fieldIndex? k = some i) (hf : s.fields[i]? = some f) (he : f.check v = .error e)
    (slots : List (Option Json)) : ∃ e', s.fillMembers fs slots = .error e' := by
  induction fs generalizing slots with
  | nil => cases hkv
  | cons m rest ih =>
    obtain ⟨k', v'⟩ := m
    rcases List.mem_cons.1 hkv with heq | hrest
    · -- the refused member comes first: a repeated field or the failed check
      obtain ⟨rfl, rfl⟩ := Prod.mk.inj heq
      simp only [fillMembers, hi, hf]
      split
      · exact ⟨_, rfl⟩
      · next f' hf' _ =>
        cases hf'
        rw [he]
        exact ⟨e, rfl⟩
      · next hf' => cases hf'
    · rcases fillMembers_cons s k' v' rest slots with hfail | ⟨slots', -, hnext⟩
      · exact hfail
      · rw [hnext]
        exact ih hrest slots'

/-- A record read from an object fails when one of its members is refused by the decoder of
the field it names. -/
theorem collect_error_of_member {s : Shape} {fs : List (String × Json)} {k : String}
    {v : Json} {i : Nat} {β : Type} {name : String} {d : Decoder β} {required : Bool}
    {aliases : List String} (hi : s.fieldIndex? k = some i)
    (hf : s.fields[i]? = some (Field.of name d required aliases)) (hkv : (k, v) ∈ fs)
    (he : ∃ e, d v = .error e) : ∃ e, s.collect (.object fs) = .error e := by
  obtain ⟨e, he⟩ := he
  have hcheck : (Field.of name d required aliases).check v = .error e := by
    rw [Field.check_of, he]
    rfl
  obtain ⟨e', hfill⟩ :=
    fillMembers_error_of_mem hkv hi hf hcheck (s.fields.map fun _ => none)
  exact ⟨e', by simp only [collect, hfill]; rfl⟩

/-- What a record decoder builds from its slots is never reached when the slots fail. -/
theorem bind_collect_error {α : Type} {s : Shape} {j : Json}
    {build : List (Option Json) → Except DecodeError α} (h : ∃ e, s.collect j = .error e) :
    ∃ e, (s.collect j >>= build) = .error e := by
  obtain ⟨e, he⟩ := h
  exact ⟨e, by rw [he]; rfl⟩

/-! ## The slots of a record read without failure -/

/-- A slot once filled stays as it is: filling it again is a repeated field. -/
theorem fillMembers_keeps {s : Shape} {fs : List (String × Json)}
    {slots r : List (Option Json)} {i : Nat} {v : Json} (h : s.fillMembers fs slots = .ok r)
    (hv : slots[i]? = some (some v)) : r[i]? = some (some v) := by
  induction fs generalizing slots with
  | nil => simp only [fillMembers, Except.ok.injEq] at h; rw [← h, hv]
  | cons m rest ih =>
    obtain ⟨k, w⟩ := m
    simp only [fillMembers] at h
    split at h
    · exact ih h hv
    · next i' _ =>
      split at h
      · cases h
      · next hnot =>
        split at h
        · refine ih h ?_
          -- the slot set now is another one, or else it was empty
          by_cases hii : i' = i
          · subst hii
            exact (hnot v hv).elim
          · rw [setSlot, List.getElem?_set_ne hii, hv]
        · cases h
      · exact ih h hv

/-- In members read without failure, each member's value is in the slot of the field it
names. -/
theorem fillMembers_slot {s : Shape} {fs : List (String × Json)}
    {slots r : List (Option Json)} {k : String} {v : Json} {i : Nat}
    (h : s.fillMembers fs slots = .ok r) (hkv : (k, v) ∈ fs) (hi : s.fieldIndex? k = some i)
    (hlen : i < slots.length) : r[i]? = some (some v) := by
  induction fs generalizing slots with
  | nil => cases hkv
  | cons m rest ih =>
    obtain ⟨k', w⟩ := m
    have hfield : ∃ f, s.fields[i]? = some f :=
      ⟨_, List.getElem?_eq_getElem (fieldIndex?_lt hi)⟩
    rcases List.mem_cons.1 hkv with heq | hrest
    · obtain ⟨rfl, rfl⟩ := Prod.mk.inj heq
      obtain ⟨f, hf⟩ := hfield
      simp only [fillMembers, hi, hf] at h
      split at h
      · cases h
      · split at h
        · refine fillMembers_keeps h ?_
          rw [setSlot, List.getElem?_set_self hlen]
        · cases h
      · next hf' => cases hf'
    · -- the member stands further on; the head only fills slots
      rcases fillMembers_cons s k' w rest slots with ⟨e, he⟩ | ⟨slots', hlen', hnext⟩
      · rw [he] at h
        cases h
      · rw [hnext] at h
        exact ih h hrest (hlen' ▸ hlen)

/-- A record read from an object without failure holds each member in the slot of the field
it names. -/
theorem collect_slot {s : Shape} {fs : List (String × Json)} {r : List (Option Json)}
    {k : String} {v : Json} {i : Nat} (h : s.collect (.object fs) = .ok r) (hkv : (k, v) ∈ fs)
    (hi : s.fieldIndex? k = some i) : r[i]? = some (some v) := by
  simp only [collect] at h
  rcases hfill : s.fillMembers fs (s.fields.map fun _ => none) with e | slots
  · rw [hfill] at h
    cases h
  · rw [hfill] at h
    have h' : (s.checkMissing slots >>= fun _ => pure slots) = Except.ok r := h
    rcases hmiss : s.checkMissing slots with e | u
    · rw [hmiss] at h'
      cases h'
    · rw [hmiss] at h'
      cases h'
      exact fillMembers_slot hfill hkv hi (by simpa using fieldIndex?_lt hi)

/-- A field of a record read from an object without failure is its decoder applied to the
member that names it. -/
theorem slot_of_collect {s : Shape} {fs : List (String × Json)} {slots : List (Option Json)}
    {k : String} {x : Json} {i : Nat} {α : Type} {d : Decoder α} {default a : α}
    (h : s.collect (.object fs) = .ok slots) (hkx : (k, x) ∈ fs) (hi : s.fieldIndex? k = some i)
    (ha : slot slots i d default = .ok a) : d x = .ok a := by
  have hslot : slots[i]? = some (some x) := collect_slot h hkx hi
  simpa only [slot, hslot] using ha

end Shape

namespace Decoder

/-- A sequence fails when one of its items does. -/
theorem seq_error_of_mem {α : Type} {d : Decoder α} {items : List Json} {x : Json}
    (hx : x ∈ items) (he : ∃ e, d x = .error e) : ∃ e, seq d (.array items) = .error e := by
  show ∃ e, items.mapM d = .error e
  induction items with
  | nil => cases hx
  | cons y rest ih =>
    rw [List.mapM_cons]
    rcases List.mem_cons.1 hx with rfl | hrest
    · obtain ⟨e, he⟩ := he
      exact ⟨e, by rw [he]; rfl⟩
    · rcases hy : d y with e | b
      · exact ⟨e, rfl⟩
      · obtain ⟨e, he'⟩ := ih hrest
        exact ⟨e, by rw [he']; rfl⟩

/-- A document that may be null fails when it is not null and its decoder fails. -/
theorem option_error {α : Type} {d : Decoder α} {j : Json} (hj : j ≠ .null)
    (he : ∃ e, d j = .error e) : ∃ e, option d j = .error e := by
  obtain ⟨e, he⟩ := he
  refine ⟨e, ?_⟩
  cases j with
  | null => exact absurd rfl hj
  | _ => simp only [option, he]; rfl

end Decoder

end GraphWire.Json
