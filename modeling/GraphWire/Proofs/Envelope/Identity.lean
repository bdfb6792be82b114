import GraphWire.Envelope.Decode
import GraphWire.Proofs.Value.Json
import GraphWire.Proofs.Json.Schema

/-!
# Identities of nodes and relationships

The server sends the identity of a node, and the identity and the two ends of a relationship,
as a JSON integer or as a string that holds one. `Identity.decode` accepts exactly two kinds of
document (`Identity.decode_eq_ok_iff`): the integer literal of an identity, and a string whose
content, blanks around it trimmed, is a decimal numeral of it (`IsDecimal`: an optional sign,
then decimal digits, of a value in 64-bit signed range). Every other document is refused: a
float literal even when integral (`1.0`, and `-0`, which reads as a float), an integer above
the range, a string that is empty or not a numeral, null, a boolean, an array or an object.

A refusal is not local to its record. Each record of the envelope is read field by field, and
a field that fails fails its record, the sequence holding the record, and so on up to the
envelope, so a refused identity anywhere in the results makes the whole body a malformed
envelope. When a node or relationship is read, its identity fields hold what the identity
decoder gave for their members.
-/

namespace GraphWire

/-- `s` is a decimal numeral of `n`: an optional sign, then one or more decimal digits whose
value, with the sign, is `n`. -/
def IsDecimal (s : String) (n : Int) : Prop :=
  ∃ sign digits, s.toList = sign ++ digits ∧ (sign = [] ∨ sign = ['+'] ∨ sign = ['-']) ∧
    digits ≠ [] ∧ (∀ c ∈ digits, c.isDigit) ∧
    n = if sign = ['-'] then -(Nat.ofDigitChars 10 digits 0 : Int)
      else (Nat.ofDigitChars 10 digits 0 : Int)

/-! ## Decimal numerals -/

theorem digitsValue_eq_ofDigitChars (digits : List Char) :
    digitsValue digits = Nat.ofDigitChars 10 digits 0 := by
  unfold digitsValue Nat.ofDigitChars
  congr 1
  funext acc c
  rw [Nat.mul_comm]

theorem splitSign_of_isDigit {c : Char} (h : c.isDigit = true) (r : List Char) :
    splitSign (c :: r) = (false, c :: r) := by
  unfold splitSign
  split
  · simp_all [Char.isDigit]
  · simp_all [Char.isDigit]
  · rfl

/-- What `splitSign` takes off is one of the three signs, and only a minus counts as one. -/
theorem splitSign_spec (cs : List Char) :
    ∃ sign, cs = sign ++ (splitSign cs).2 ∧ (sign = [] ∨ sign = ['+'] ∨ sign = ['-']) ∧
      ((splitSign cs).1 = true ↔ sign = ['-']) := by
  unfold splitSign
  split
  · exact ⟨['+'], rfl, by simp⟩
  · exact ⟨['-'], rfl, by simp⟩
  · exact ⟨[], rfl, by simp⟩

/-- The text parser reads exactly the decimal numerals of 64-bit integers. -/
theorem parseInt64?_eq_some_iff (s : String) (n : Int64) :
    parseInt64? s = some n ↔ IsDecimal s n.toInt := by
  constructor
  · intro h
    obtain ⟨sign, hs, hsign, hneg⟩ := splitSign_spec s.toList
    rcases hsp : splitSign s.toList with ⟨neg, digits⟩
    rw [hsp] at hs hneg
    simp only [parseInt64?, hsp] at h
    by_cases hdig : (digits.isEmpty || !digits.all Char.isDigit) = true
    · rw [if_pos hdig] at h
      cases h
    rw [if_neg hdig] at h
    simp only [Bool.or_eq_true, List.isEmpty_iff, Bool.not_eq_true', not_or, List.all_eq_false,
      not_exists, not_and, Classical.not_not] at hdig
    generalize hi : (if neg = true then -(digitsValue digits : Int) else digitsValue digits) = i
      at h
    by_cases hfit : Value.fitsInt64 i = true
    · rw [if_pos hfit, Option.some.injEq] at h
      subst h
      refine ⟨sign, digits, hs, hsign, hdig.1, fun c hc => hdig.2 c hc, ?_⟩
      rw [Value.toInt_ofInt_of_fitsInt64 hfit, ← hi, digitsValue_eq_ofDigitChars]
      by_cases hm : sign = ['-'] <;> simp_all
    · rw [if_neg hfit] at h
      cases h
  · rintro ⟨sign, digits, hs, hsign, hne, hdig, hval⟩
    -- the sign splits off as written: a digit cannot be taken for one
    have hsp : splitSign s.toList = (decide (sign = ['-']), digits) := by
      rw [hs]
      rcases hsign with rfl | rfl | rfl
      · obtain ⟨c, r, rfl⟩ := List.exists_cons_of_ne_nil hne
        exact splitSign_of_isDigit (hdig c List.mem_cons_self) r
      · rfl
      · rfl
    have hdigits : (digits.isEmpty || !digits.all Char.isDigit) = false := by
      simp [List.all_eq_true.2 hdig, hne]
    have hi : (if decide (sign = ['-']) = true then -(digitsValue digits : Int)
        else (digitsValue digits : Int)) = n.toInt := by
      rw [digitsValue_eq_ofDigitChars, hval]
      by_cases hm : sign = ['-'] <;> simp [hm]
    simp only [parseInt64?, hsp, hdigits, Bool.false_eq_true, if_false]
    rw [hi, if_pos (Value.fitsInt64_toInt n), Int64.ofInt_toInt]

/-- The decimal text of an integer is a decimal numeral of it. -/
theorem isDecimal_toString (i : Int) : IsDecimal (toString i) i := by
  have hdig : ∀ m, ∀ c ∈ Nat.toDigits 10 m, c.isDigit := fun m c hc =>
    Nat.isDigit_of_mem_toDigits (by decide) (by decide) hc
  cases i with
  | ofNat m =>
    refine ⟨[], Nat.toDigits 10 m, Nat.toList_repr, by simp, Nat.toDigits_ne_nil, hdig m, ?_⟩
    simp
  | negSucc m =>
    refine ⟨['-'], Nat.toDigits 10 (m + 1), ?_, by simp, Nat.toDigits_ne_nil, hdig (m + 1), ?_⟩
    · show ("-" ++ (m + 1).repr).toList = _
      rw [String.toList_append, Nat.toList_repr]
      rfl
    · simp [Int.negSucc_eq]

/-! ## Blanks around a numeral -/

theorem isBlank_of_isDigit {c : Char} (h : c.isDigit = true) : Text.isBlank c = false := by
  have := Char.isDigit_iff_toNat.1 h
  simp only [Text.isBlank, Bool.or_eq_false_iff, Bool.and_eq_false_iff, decide_eq_false_iff_not,
    beq_eq_false_iff_ne]
  simp at this
  omega

/-- No character of a decimal numeral is blank. -/
theorem isBlank_of_isDecimal {s : String} {n : Int} (h : IsDecimal s n) :
    ∀ c ∈ s.toList, Text.isBlank c = false := by
  obtain ⟨sign, digits, hs, hsign, -, hdig, -⟩ := h
  intro c hc
  rw [hs, List.mem_append] at hc
  rcases hc with hc | hc
  · rcases hsign with rfl | rfl | rfl <;> simp at hc <;> subst hc <;> decide
  · exact isBlank_of_isDigit (hdig c hc)

theorem dropWhile_append_of_all {p : Char → Bool} {w l : List Char} (hw : ∀ c ∈ w, p c)
    (hl : ∀ c ∈ l.head?, p c = false) : (w ++ l).dropWhile p = l := by
  induction w with
  | nil =>
    cases l with
    | nil => rfl
    | cons c r => exact List.dropWhile_cons_of_neg (by simp_all)
  | cons c w ih =>
    rw [List.cons_append, List.dropWhile_cons_of_pos (hw c List.mem_cons_self)]
    exact ih fun c hc => hw c (List.mem_cons_of_mem _ hc)

/-- Trimming takes off blanks around a text that neither starts nor ends with one. -/
theorem trim_blank_around {w₁ t w₂ : String} (h₁ : ∀ c ∈ w₁.toList, Text.isBlank c)
    (h₂ : ∀ c ∈ w₂.toList, Text.isBlank c) (hne : t.toList ≠ [])
    (ht : ∀ c ∈ t.toList, Text.isBlank c = false) :
    Text.trim (w₁ ++ t ++ w₂) = t := by
  -- the first and the last character of `t` stop the two scans
  have hhead : ∀ c ∈ (t.toList ++ w₂.toList).head?, Text.isBlank c = false := fun c hc => by
    obtain ⟨d, r, hdr⟩ := List.exists_cons_of_ne_nil hne
    rw [hdr] at ht
    simp only [hdr, List.cons_append, List.head?_cons, Option.mem_def, Option.some.injEq] at hc
    exact hc ▸ ht d List.mem_cons_self
  have hlast : ∀ c ∈ t.toList.reverse.head?, Text.isBlank c = false := fun c hc =>
    ht c (List.mem_reverse.1 (List.mem_of_mem_head? hc))
  have hstart : (w₁ ++ t ++ w₂).toList.dropWhile Text.isBlank = t.toList ++ w₂.toList := by
    rw [String.toList_append, String.toList_append, List.append_assoc]
    exact dropWhile_append_of_all h₁ hhead
  have hend : (t.toList ++ w₂.toList).reverse.dropWhile Text.isBlank = t.toList.reverse := by
    rw [List.reverse_append]
    exact dropWhile_append_of_all (fun c hc => h₂ c (List.mem_reverse.1 hc)) hlast
  simp only [Text.trim, Text.trimStart, Text.trimEnd, hstart, String.toList_ofList, hend,
    List.reverse_reverse, String.ofList_toList]

/-- The decimal text of an identity, with any blanks around it, is read as that identity. -/
theorem parseInt64?_trim_toString (n : Int64) {w₁ w₂ : String}
    (h₁ : ∀ c ∈ w₁.toList, Text.isBlank c) (h₂ : ∀ c ∈ w₂.toList, Text.isBlank c) :
    parseInt64? (Text.trim (w₁ ++ toString n ++ w₂)) = some n := by
  have hdec : IsDecimal (toString n) n.toInt := isDecimal_toString n.toInt
  have hne : (toString n).toList ≠ [] := by
    obtain ⟨sign, digits, hs, -, hd, -⟩ := hdec
    rw [hs]
    simp [hd]
  rw [trim_blank_around h₁ h₂ hne (isBlank_of_isDecimal hdec), parseInt64?_eq_some_iff]
  exact hdec

/-! ## The identity decoder -/

namespace Identity

theorem decode_int (i : Int) :
    decode (.number (.int i)) =
      if Value.fitsInt64 i then .ok (Int64.ofInt i) else .error noMatch := rfl

theorem decode_string (s : String) : decode (.string s) = ofString s := rfl

theorem ofString_eq_ok_iff (s : String) (n : Int64) :
    ofString s = .ok n ↔ ofText? s = some n := by
  unfold ofString
  cases ofText? s <;> simp

/-- An identity is decoded from the integer literal of it, or from a string whose trimmed
content is a decimal numeral of it, and from nothing else. -/
theorem decode_eq_ok_iff (x : Json) (n : Int64) :
    decode x = .ok n ↔
      x = .number (.int n.toInt) ∨ ∃ s, x = .string s ∧ IsDecimal (Text.trim s) n.toInt := by
  -- every kind of document but integers and strings is refused alike
  have hother : ∀ y : Json, decode y = .error noMatch →
      (decode y = .ok n ↔ False) := fun y hy => by rw [hy]; simp
  cases x with
  | number num =>
    cases num with
    | int i =>
      rw [decode_int]
      by_cases hi : Value.fitsInt64 i = true
      · simp only [hi, if_true, Except.ok.injEq, Json.number.injEq, Number.int.injEq,
          reduceCtorEq, false_and, exists_false, or_false]
        constructor
        · rintro rfl
          exact (Value.toInt_ofInt_of_fitsInt64 hi).symm
        · rintro rfl
          exact Int64.ofInt_toInt n
      · -- out of range: no identity has this value
        simp only [hi, Bool.false_eq_true, if_false, reduceCtorEq, false_iff,
          Json.number.injEq, Number.int.injEq, false_and, exists_false, or_false]
        rintro rfl
        exact hi (Value.fitsInt64_toInt n)
    | float f => simp [hother (.number (.float f)) rfl]
  | string s =>
    simp only [decode_string, ofString_eq_ok_iff, ofText?, Json.string.injEq, reduceCtorEq,
      false_or, exists_eq_left']
    exact parseInt64?_eq_some_iff _ n
  | null => simp [hother .null rfl]
  | bool b => simp [hother (.bool b) rfl]
  | array items => simp [hother (.array items) rfl]
  | object fs => simp [hother (.object fs) rfl]

/-- The integer literal of an identity and its decimal text, blanks around it or not, are
decoded to that identity. -/
theorem decode_literal_and_text (n : Int64) {w₁ w₂ : String}
    (h₁ : ∀ c ∈ w₁.toList, Text.isBlank c) (h₂ : ∀ c ∈ w₂.toList, Text.isBlank c) :
    decode (.number (.int n.toInt)) = .ok n ∧
      decode (.string (w₁ ++ toString n ++ w₂)) = .ok n := by
  refine ⟨(decode_eq_ok_iff _ n).2 (.inl rfl), ?_⟩
  rw [decode_string, ofString_eq_ok_iff, ofText?, parseInt64?_trim_toString n h₁ h₂]

end Identity

/-! ## Where identities stand in a response -/

namespace Json

/-- The items of the array under a key of an object; none when the member is absent or is not
an array. -/
def itemsAt (j : Json) (k : String) : List Json :=
  match j.field? k with
  | some (.array items) => items
  | _ => []

theorem field?_eq_some {j : Json} {k : String} {v : Json} (h : j.field? k = some v) :
    ∃ fs, j = .object fs ∧ (k, v) ∈ fs := by
  cases j with
  | object fs =>
    obtain ⟨l₁, l₂, rfl, -⟩ := List.lookup_eq_some_iff.1 h
    exact ⟨_, rfl, List.mem_append_right _ List.mem_cons_self⟩
  | _ => cases h

theorem mem_itemsAt {j : Json} {k : String} {y : Json} (h : y ∈ j.itemsAt k) :
    ∃ fs items, j = .object fs ∧ (k, .array items) ∈ fs ∧ y ∈ items := by
  unfold itemsAt at h
  split at h
  · next items hk =>
    obtain ⟨fs, rfl, hmem⟩ := field?_eq_some hk
    exact ⟨fs, items, rfl, hmem, h⟩
  · cases h

end Json

/-- The documents at the identity positions of a response document: the `id` of every node and
the `id`, `startNode` and `endNode` of every relationship, in the sub-graph of each data item
of each result. -/
def identitySites (j : Json) : List Json :=
  (j.itemsAt "results").flatMap fun fr => (fr.itemsAt "data").flatMap fun item =>
    match item.field? "graph" with
    | some sg =>
      (sg.itemsAt "nodes").filterMap (·.field? "id") ++
        (sg.itemsAt "relationships").flatMap fun r =>
          ["id", "startNode", "endNode"].filterMap r.field?
    | none => []

/-! ## A refused identity fails its envelope

Each lemma is one level of the envelope: the field that holds the failing document, and the
decoder that fails with it. -/

open Json

theorem WireNode.decode_error_of_id {fs : List (String × Json)} {x : Json}
    (hx : ("id", x) ∈ fs) (he : ∃ e, Identity.decode x = .error e) :
    ∃ e, WireNode.decode (.object fs) = .error e :=
  Shape.bind_collect_error (Shape.collect_error_of_member (i := 0) (by decide) rfl hx he)

theorem WireRelationship.decode_error_of_identity {fs : List (String × Json)} {k : String}
    {x : Json} (hk : k ∈ ["id", "startNode", "endNode"]) (hx : (k, x) ∈ fs)
    (he : ∃ e, Identity.decode x = .error e) :
    ∃ e, WireRelationship.decode (.object fs) = .error e := by
  simp only [List.mem_cons, List.not_mem_nil, or_false] at hk
  rcases hk with rfl | rfl | rfl
  · exact Shape.bind_collect_error (Shape.collect_error_of_member (i := 0) (by decide) rfl hx he)
  · exact Shape.bind_collect_error (Shape.collect_error_of_member (i := 2) (by decide) rfl hx he)
  · exact Shape.bind_collect_error (Shape.collect_error_of_member (i := 3) (by decide) rfl hx he)

theorem SubGraph.decode_error_of_node {fs : List (String × Json)} {ns : List Json} {n : Json}
    (hm : ("nodes", .array ns) ∈ fs) (hn : n ∈ ns) (he : ∃ e, WireNode.decode n = .error e) :
    ∃ e, SubGraph.decode (.object fs) = .error e :=
  Shape.bind_collect_error
    (Shape.collect_error_of_member (i := 0) (by decide) rfl hm (Decoder.seq_error_of_mem hn he))

theorem SubGraph.decode_error_of_relationship {fs : List (String × Json)} {rs : List Json}
    {r : Json} (hm : ("relationships", .array rs) ∈ fs) (hr : r ∈ rs)
    (he : ∃ e, WireRelationship.decode r = .error e) :
    ∃ e, SubGraph.decode (.object fs) = .error e :=
  Shape.bind_collect_error
    (Shape.collect_error_of_member (i := 1) (by decide) rfl hm (Decoder.seq_error_of_mem hr he))

theorem DataItem.decode_error_of_graph {fs : List (String × Json)} {sg : Json}
    (hm : ("graph", sg) ∈ fs) (hsg : sg ≠ .null) (he : ∃ e, SubGraph.decode sg = .error e) :
    ∃ e, DataItem.decode (.object fs) = .error e :=
  Shape.bind_collect_error
    (Shape.collect_error_of_member (i := 1) (by decide) rfl hm (Decoder.option_error hsg he))

theorem Fragment.decode_error_of_item {fs : List (String × Json)} {items : List Json}
    {item : Json} (hm : ("data", .array items) ∈ fs) (hi : item ∈ items)
    (he : ∃ e, DataItem.decode item = .error e) :
    ∃ e, Fragment.decode (.object fs) = .error e :=
  Shape.bind_collect_error
    (Shape.collect_error_of_member (i := 1) (by decide) rfl hm (Decoder.seq_error_of_mem hi he))

theorem Envelope.decode_error_of_fragment {fs : List (String × Json)} {frs : List Json}
    {fr : Json} (hm : ("results", .array frs) ∈ fs) (hf : fr ∈ frs)
    (he : ∃ e, Fragment.decode fr = .error e) :
    ∃ e, Envelope.decode (.object fs) = .error e :=
  Shape.bind_collect_error
    (Shape.collect_error_of_member (i := 2) (by decide) rfl hm (Decoder.seq_error_of_mem hf he))

/-- A document refused at an identity position fails the decoding of the whole envelope. -/
theorem Envelope.decode_error_of_identitySites {j x : Json} (hx : x ∈ identitySites j)
    (he : ∃ e, Identity.decode x = .error e) : ∃ e, Envelope.decode j = .error e := by
  simp only [identitySites, List.mem_flatMap] at hx
  obtain ⟨fr, hfr, item, hitem, hx⟩ := hx
  obtain ⟨efs, frs, rfl, hres, hfr⟩ := mem_itemsAt hfr
  obtain ⟨ffs, items, rfl, hdata, hitem⟩ := mem_itemsAt hitem
  split at hx
  · next sg hsg =>
    obtain ⟨dfs, rfl, hgraph⟩ := field?_eq_some hsg
    -- a sub-graph with an identity in it is an object, so not null
    have hnull : sg ≠ .null := by
      rintro rfl
      exact List.not_mem_nil (show x ∈ ([] : List Json) from hx)
    have hsub : ∃ e, SubGraph.decode sg = .error e := by
      rcases List.mem_append.1 hx with hn | hr
      · obtain ⟨n, hn, hnid⟩ := List.mem_filterMap.1 hn
        obtain ⟨nfs, rfl, hid⟩ := field?_eq_some hnid
        obtain ⟨gfs, ns, rfl, hnodes, hmem⟩ := mem_itemsAt hn
        exact SubGraph.decode_error_of_node hnodes hmem (WireNode.decode_error_of_id hid he)
      · obtain ⟨r, hr, hrx⟩ := List.mem_flatMap.1 hr
        obtain ⟨k, hk, hrk⟩ := List.mem_filterMap.1 hrx
        obtain ⟨rfs, rfl, hkx⟩ := field?_eq_some hrk
        obtain ⟨gfs, rs, rfl, hrels, hmem⟩ := mem_itemsAt hr
        exact SubGraph.decode_error_of_relationship hrels hmem
          (WireRelationship.decode_error_of_identity hk hkx he)
    exact Envelope.decode_error_of_fragment hres hfr
      (Fragment.decode_error_of_item hdata hitem (DataItem.decode_error_of_graph hgraph hnull hsub))
  · cases hx

/-! ## Bodies

A body that holds blanks only is the empty envelope and no JSON document: the reader stops at
its first character, since no document starts with a blank. So every body that reads as a
document is decoded, and fails as an envelope when its document does. -/

namespace Json

theorem rest_advance (s : Scan) (cs : List Char) :
    (s.advance cs).rest = s.rest.drop cs.length := by
  simp only [Scan.advance]

theorem rest_skipGap (s : Scan) : s.skipGap.rest = s.rest.dropWhile Scan.isGap := by
  rw [Scan.skipGap, rest_advance]
  calc s.rest.drop (s.rest.takeWhile Scan.isGap).length
      = (s.rest.takeWhile Scan.isGap ++ s.rest.dropWhile Scan.isGap).drop
          (s.rest.takeWhile Scan.isGap).length := by rw [List.takeWhile_append_dropWhile]
    _ = s.rest.dropWhile Scan.isGap := List.drop_left

/-- No value starts at a blank. -/
theorem readValue_error_of_blank {fuel depth : Nat} {s : Scan}
    (h : ∀ c ∈ s.rest, Text.isBlank c = true) : ∃ e, readValue fuel depth s = .error e := by
  cases fuel with
  | zero => exact ⟨_, by rw [readValue]⟩
  | succ fuel =>
    have hblank : ∀ c, s.skipGap.peek = some c → Text.isBlank c = true := fun c hc => by
      rw [Scan.peek, rest_skipGap] at hc
      exact h c ((List.dropWhile_sublist _).subset (List.mem_of_mem_head? hc))
    rw [readValue]
    dsimp only
    split
    case h_1 => exact ⟨_, rfl⟩
    case h_9 c _ _ _ _ _ _ _ hc =>
      have hd : c.isDigit = false := by
        cases hd : c.isDigit
        · rfl
        · exact absurd (hblank c hc) (by rw [isBlank_of_isDigit hd]; decide)
      rw [if_neg (by simp [hd])]
      exact ⟨_, rfl⟩
    -- the characters that open a word, a number, a string or a container are not blank
    all_goals exact absurd (hblank _ ‹_›) (by decide)

theorem read_error_of_isBlankText {text : String} (h : Text.isBlankText text = true) :
    ∃ e, read text = .error e := by
  obtain ⟨e, he⟩ := @readValue_error_of_blank (3 * (Scan.start text).rest.length + 8) 128
    (Scan.start text) (fun c hc => List.all_eq_true.1 h c hc)
  exact ⟨e, by simp only [read, he]; rfl⟩

end Json

/-- A body that reads as a document the envelope decoder refuses is a malformed envelope. -/
theorem Envelope.ofBody_error_of_decode {body : String} {j : Json} (hread : Json.read body = .ok j)
    (he : ∃ e, Envelope.decode j = .error e) :
    ∃ e, Envelope.ofBody body = .error (.malformedEnvelope e) := by
  have hblank : Text.isBlankText body = false := by
    cases hb : Text.isBlankText body
    · rfl
    · obtain ⟨e, he'⟩ := Json.read_error_of_isBlankText hb
      rw [hread] at he'
      cases he'
  obtain ⟨e, he⟩ := he
  unfold Envelope.ofBody Envelope.read
  rw [if_neg (by simp [hblank]), hread]
  cases j with
  | object fs => exact ⟨.schema e, by dsimp only; rw [he]; rfl⟩
  | _ => exact ⟨_, rfl⟩

/-- A body whose document holds a refused identity anywhere in its results is a malformed
envelope. -/
theorem Envelope.ofBody_error_of_refused {body : String}
    (h : ((Json.read body).toOption.any fun j =>
      (identitySites j).any fun x => !(Identity.decode x).toBool) = true) :
    ∃ e, Envelope.ofBody body = .error (.malformedEnvelope e) := by
  rcases hread : Json.read body with e | j
  · rw [hread] at h
    cases h
  · rw [hread] at h
    simp only [Except.toOption, Option.any_some, List.any_eq_true, Bool.not_eq_eq_eq_not,
      Bool.not_true] at h
    obtain ⟨x, hx, hrej⟩ := h
    have hx' : ∃ e, Identity.decode x = .error e := by
      cases hd : Identity.decode x with
      | error e => exact ⟨e, rfl⟩
      | ok n =>
        rw [hd] at hrej
        cases hrej
    exact ofBody_error_of_decode hread (Envelope.decode_error_of_identitySites hx hx')

/-! ## What a node or relationship read holds -/

/-- The identity of a node read from the wire is what the identity decoder gives for its `id`
member. -/
theorem WireNode.decode_id {fs : List (String × Json)} {x : Json} {w : WireNode}
    (h : WireNode.decode (.object fs) = .ok w) (hx : ("id", x) ∈ fs) :
    Identity.decode x = .ok w.id := by
  obtain ⟨slots, hc, h⟩ := bind_eq_ok_iff.1 h
  obtain ⟨a, ha, h⟩ := bind_eq_ok_iff.1 h
  obtain ⟨b, -, h⟩ := bind_eq_ok_iff.1 h
  obtain ⟨c, -, h⟩ := bind_eq_ok_iff.1 h
  cases h
  exact Shape.slot_of_collect hc hx (by decide) ha

/-- The identity and the two ends of a relationship read from the wire are what the identity
decoder gives for its `id`, `startNode` and `endNode` members. -/
theorem WireRelationship.decode_identities {fs : List (String × Json)} {r : WireRelationship}
    (h : WireRelationship.decode (.object fs) = .ok r) :
    (∀ x, ("id", x) ∈ fs → Identity.decode x = .ok r.id) ∧
    (∀ x, ("startNode", x) ∈ fs → Identity.decode x = .ok r.startNode) ∧
    (∀ x, ("endNode", x) ∈ fs → Identity.decode x = .ok r.endNode) := by
  obtain ⟨slots, hc, h⟩ := bind_eq_ok_iff.1 h
  obtain ⟨a, ha, h⟩ := bind_eq_ok_iff.1 h
  obtain ⟨b, -, h⟩ := bind_eq_ok_iff.1 h
  obtain ⟨c, hc', h⟩ := bind_eq_ok_iff.1 h
  obtain ⟨d, hd, h⟩ := bind_eq_ok_iff.1 h
  obtain ⟨p, -, h⟩ := bind_eq_ok_iff.1 h
  cases h
  exact ⟨fun x hx => Shape.slot_of_collect hc hx (by decide) ha,
    fun x hx => Shape.slot_of_collect hc hx (by decide) hc',
    fun x hx => Shape.slot_of_collect hc hx (by decide) hd⟩

/-! ## Identities -/

theorem exists_of_toOption_map {ε α β : Type} {x : Except ε α} {f : α → β} {b : β}
    (h : x.toOption.map f = some b) : ∃ a, x = .ok a ∧ f a = b := by
  cases x with
  | error e => cases h
  | ok a => exact ⟨a, rfl, Option.some.inj h⟩

/-- An identity, of a node or of a relationship or either of its ends, is decoded from the
integer literal of it or from a string whose content, blanks around it trimmed, is a decimal
numeral of it, and from no other document. A node or relationship read holds the identities so
decoded from its members; a body whose document holds a refused identity anywhere in its
results is a malformed envelope; and the literal and the decimal text of an identity, with any
blanks around the text, both give that identity. -/
theorem identity_decoding :
    (∀ (x : Json) (n : Int64), Identity.decode x = .ok n ↔
      x = .number (.int n.toInt) ∨ ∃ s, x = .string s ∧ IsDecimal (Text.trim s) n.toInt) ∧
    (∀ (fs : List (String × Json)) (w : WireNode), WireNode.decode (.object fs) = .ok w →
      ∀ x, ("id", x) ∈ fs → Identity.decode x = .ok w.id) ∧
    (∀ (fs : List (String × Json)) (r : WireRelationship),
      WireRelationship.decode (.object fs) = .ok r →
      (∀ x, ("id", x) ∈ fs → Identity.decode x = .ok r.id) ∧
      (∀ x, ("startNode", x) ∈ fs → Identity.decode x = .ok r.startNode) ∧
      (∀ x, ("endNode", x) ∈ fs → Identity.decode x = .ok r.endNode)) ∧
    (∀ body : String, ((Json.read body).toOption.any fun j =>
        (identitySites j).any fun x => !(Identity.decode x).toBool) = true →
      ∃ e, Envelope.ofBody body = .error (.malformedEnvelope e)) ∧
    ∀ (n : Int64) (w₁ w₂ : String), (∀ c ∈ w₁.toList, Text.isBlank c) →
      (∀ c ∈ w₂.toList, Text.isBlank c) →
      Identity.decode (.number (.int n.toInt)) = .ok n ∧
        Identity.decode (.string (w₁ ++ toString n ++ w₂)) = .ok n :=
  ⟨Identity.decode_eq_ok_iff, fun _ _ h _ hx => WireNode.decode_id h hx,
    fun _ _ h => WireRelationship.decode_identities h,
    fun _ h => Envelope.ofBody_error_of_refused h,
    fun n _ _ h₁ h₂ => Identity.decode_literal_and_text n h₁ h₂⟩

/-- A node whose identity is the text `" 17 "`, a relationship whose ends are the text `"+17"`
and the literal `18`, a body whose only node has the identity `-0`, and the least identity as
text between blanks. -/
theorem identity_decoding_examples :
    let node : List (String × Json) := [("id", .string " 17 ")]
    let rel : List (String × Json) :=
      [("endNode", .number (.int 18)), ("id", .string "3"), ("startNode", .string "+17")]
    let body := "\x7b\"results\":[\x7b\"data\":[\x7b\"graph\":" ++
      "\x7b\"nodes\":[\x7b\"id\":-0\x7d]\x7d\x7d]\x7d]\x7d"
    (∃ w, WireNode.decode (.object node) = .ok w ∧ w.id = 17 ∧
      Identity.decode (.string " 17 ") = .ok w.id) ∧
    (∃ r, WireRelationship.decode (.object rel) = .ok r ∧ r.startNode = 17 ∧ r.endNode = 18 ∧
      Identity.decode (.string "+17") = .ok r.startNode ∧
      Identity.decode (.number (.int 18)) = .ok r.endNode) ∧
    (∃ e, Envelope.ofBody body = .error (.malformedEnvelope e)) ∧
    Identity.decode (.string (" \t" ++ toString (-9223372036854775808 : Int64) ++ "\n")) =
      .ok (-9223372036854775808) := by
  intro node rel body
  -- one evaluation of every decidable fact the instances need
  have h : (WireNode.decode (.object node)).toOption.map WireNode.id = some 17 ∧
      (WireRelationship.decode (.object rel)).toOption.map
        (fun r => (r.startNode, r.endNode)) = some (17, 18) ∧
      ((Json.read body).toOption.any fun j =>
        (identitySites j).any fun x => !(Identity.decode x).toBool) = true ∧
      " \t".toList.all Text.isBlank = true ∧ "\n".toList.all Text.isBlank = true := by
    decide +kernel
  obtain ⟨hnode, hrel, hbody, h₁, h₂⟩ := h
  obtain ⟨w, hw, hid⟩ := exists_of_toOption_map hnode
  obtain ⟨r, hr, hends⟩ := exists_of_toOption_map hrel
  simp only [Prod.mk.injEq] at hends
  have hr' := identity_decoding.2.2.1 rel r hr
  refine ⟨⟨w, hw, hid, identity_decoding.2.1 node w hw _ List.mem_cons_self⟩,
    ⟨r, hr, hends.1, hends.2, hr'.2.1 _ (by simp [rel]), hr'.2.2 _ List.mem_cons_self⟩,
    identity_decoding.2.2.2.1 body hbody, ?_⟩
  exact (identity_decoding.2.2.2.2 _ _ _ (List.all_eq_true.1 h₁) (List.all_eq_true.1 h₂)).2

end GraphWire
