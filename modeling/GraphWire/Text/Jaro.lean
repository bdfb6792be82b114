/-!
# Jaro similarity

The Jaro similarity of two texts counts the characters they share within a window and how many
of those are out of order. With `m` characters matched in texts of lengths `la` and `lb`, and
`t` transpositions, it is `(m / la + m / lb + (m - t) / m) / 3`; two empty texts are equal
(similarity 1) and an empty text is unlike any other (similarity 0).

A character of the first text matches the first unmatched equal character of the second whose
position differs by less than half the longer length (at least by nothing). The transpositions
are half the number of positions at which the matched characters of the two texts, read in
order, differ.

The similarity is computed in binary64 arithmetic, term by term from the left, and the
threshold of similar texts is the binary64 number nearest `0.7`. The rounding decides the cases
at the threshold: a similarity of exactly seven tenths, such as that of `cntiq` and `config`,
computes to just above it, and those texts count as similar.
-/

namespace GraphWire.Text

/-- The positions of `b` matched, one by one, by the characters of `a`: the flags of the matched
positions of `a` and of `b`. -/
def jaroFlags (a b : List Char) (window : Nat) : List Bool × List Bool :=
  let step := fun (acc : List Bool × List Bool × Nat) (c : Char) =>
    let (af, bf, i) := acc
    let lo := i - window
    let hi := min b.length (i + window + 1)
    let free := fun (j : Nat) => decide (lo ≤ j) && b[j]? == some c && !(bf.getD j false)
    match (List.range hi).find? free with
    | some j => (af ++ [true], bf.set j true, i + 1)
    | none => (af ++ [false], bf, i + 1)
  let (af, bf, _) := a.foldl step ([], List.replicate b.length false, 0)
  (af, bf)

/-- The characters at flagged positions. -/
def flagged (cs : List Char) (flags : List Bool) : List Char :=
  (cs.zip flags).filterMap (fun p => if p.2 then some p.1 else none)

/-- The number of matched characters and of transpositions. -/
def jaroCounts (a b : List Char) : Nat × Nat :=
  let (af, bf) := jaroFlags a b (max a.length b.length / 2 - 1)
  let ma := flagged a af
  let mb := flagged b bf
  (ma.length, ((ma.zip mb).filter (fun p => p.1 != p.2)).length / 2)

/-- The Jaro similarity of two texts, in binary64 arithmetic. -/
def jaro (a b : String) : Float :=
  let la := a.length
  let lb := b.length
  if la = 0 ∧ lb = 0 then 1
  else if la = 0 ∨ lb = 0 then 0
  else
    let (m, t) := jaroCounts a.toList b.toList
    if m = 0 then 0
    else (m.toFloat / la.toFloat + m.toFloat / lb.toFloat + (m - t).toFloat / m.toFloat) / 3

/-- The similarity above which a candidate is offered: the binary64 number nearest `0.7`. -/
def threshold : Float := 0.7

/-- The candidates more similar to a text than the threshold, least similar first; among equally
similar ones, in the order given. -/
def similar (v : String) (candidates : List String) : List String :=
  let scored := candidates.filterMap fun c =>
    let s := jaro v c
    if threshold < s then some (s, c) else none
  (scored.mergeSort (fun p q => !(q.1 < p.1))).map (·.2)

/-- The candidate most similar to a text, if one is similar enough. -/
def mostSimilar (v : String) (candidates : List String) : Option String :=
  (similar v candidates).getLast?

end GraphWire.Text
