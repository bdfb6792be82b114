import GraphWire.Envelope.Results

/-!
# Merging fragments into a graph

Seen through its lookups (`Graph.node?`, `Graph.relationship?`) a graph is a pair of finite
maps from identities, and since its lists are strictly ascending the lookups determine it
(`Graph.ext_lookup`). Merging a fragment is a left-biased union of maps: an identity the graph
holds keeps its entry, never replaced nor merged, and any other identity gets the first node
(relationship) of that identity among the fragment's sub-graphs, taken item by item and each
list in order (`Graph.node?_merge`, `Graph.relationship?_merge`). Nodes and relationships are
kept apart, so each map only sees its own occurrences.

From the union law: a run of merges over fragments is one merge of their concatenated data
(`Graph.foldl_merge`); the graph built from fragments holds one entry per identity that occurs,
the conversion of its first occurrence; and merging a fragment whose identities are all present
changes nothing (`Graph.merge_of_present`), so a fragment merged twice counts once.
-/

namespace GraphWire

namespace Fragment

/-- The nodes of a fragment's sub-graphs as they arrive: item by item, each list in order. -/
def wireNodes (f : Fragment) : List WireNode :=
  f.data.flatMap fun item => (item.graph.map SubGraph.nodes).getD []

/-- The relationships of a fragment's sub-graphs as they arrive. -/
def wireRelationships (f : Fragment) : List WireRelationship :=
  f.data.flatMap fun item => (item.graph.map SubGraph.relationships).getD []

end Fragment

namespace Graph

/-! ## Lookups in a sorted list -/

section Lookup

variable {α : Type} (key : α → Int64)

theorem find?_eq_none_of_lt {l : List α} {k : Int64} (h : ∀ x ∈ l, k < key x) :
    l.find? (key · == k) = none := by
  refine List.find?_eq_none.2 fun x hx hk => ?_
  have := h x hx
  simp only [beq_iff_eq] at hk
  exact Int64.lt_irrefl (hk ▸ this)

/-- Insertion into a sorted list, seen through lookups: what the list holds wins, and the
inserted element fills its identity only when it is new. -/
theorem find?_insertById (a : α) {l : List α} (h : l.Pairwise (fun x y => key x < key y))
    (k : Int64) :
    (insertById key a l).1.find? (key · == k) =
      (l.find? (key · == k)).or (if key a = k then some a else none) := by
  induction l with
  | nil => by_cases hk : key a = k <;> simp [insertById, hk]
  | cons b rest ih =>
    have hb := List.pairwise_cons.1 h
    simp only [insertById]
    split
    · next hab =>
      by_cases hk : key a = k
      · -- everything after the new head lies above `k`
        have hnone : (b :: rest).find? (key · == k) = none :=
          find?_eq_none_of_lt key fun x hx => by
            rcases List.mem_cons.1 hx with rfl | hx
            · exact hk ▸ hab
            · exact hk ▸ Int64.lt_trans hab (hb.1 x hx)
        simp [hk, hnone]
      · simp [List.find?_cons, hk]
    · split
      · next hab =>
        simp only [beq_iff_eq] at hab
        by_cases hk : key a = k
        · simp [← hab, hk]
        · simp [hk]
      · by_cases hbk : key b = k
        · simp [hbk]
        · simp [hbk, ih hb.2]

/-- In a sorted list, the lookup of an element's key finds exactly that element. -/
theorem find?_key_eq_some_iff {l : List α} (h : l.Pairwise (fun x y => key x < key y)) {x : α} :
    l.find? (key · == key x) = some x ↔ x ∈ l := by
  refine ⟨List.mem_of_find?_eq_some, fun hx => ?_⟩
  induction l with
  | nil => cases hx
  | cons b rest ih =>
    have hb := List.pairwise_cons.1 h
    rcases List.mem_cons.1 hx with rfl | hx
    · simp
    · -- `x` sits above `b`, so the lookup passes `b` by
      have hne : ¬ key b = key x := fun he => Int64.lt_irrefl (he ▸ hb.1 x hx)
      simp [hne, ih hb.2 hx]

/-- Two sorted lists with the same lookups are equal. -/
theorem eq_of_find?_eq {l₁ l₂ : List α} (h₁ : l₁.Pairwise (fun x y => key x < key y))
    (h₂ : l₂.Pairwise (fun x y => key x < key y))
    (h : ∀ k, l₁.find? (key · == k) = l₂.find? (key · == k)) : l₁ = l₂ := by
  have hmem : ∀ x, x ∈ l₁ ↔ x ∈ l₂ := fun x => by
    rw [← find?_key_eq_some_iff key h₁, ← find?_key_eq_some_iff key h₂, h]
  have hnodup : ∀ {l : List α}, l.Pairwise (fun x y => key x < key y) → l.Nodup :=
    fun hl => show List.Pairwise (· ≠ ·) _ from
      hl.imp fun hlt he => by subst he; exact Int64.lt_irrefl hlt
  refine List.Perm.eq_of_pairwise (fun a b _ _ hab hba => ?_) h₁ h₂
    ((List.perm_ext_iff_of_nodup (hnodup h₁) (hnodup h₂)).2 hmem)
  exact absurd (Int64.lt_trans hab hba) Int64.lt_irrefl

end Lookup

/-! ## The graph as two maps -/

/-- A graph is determined by its lookups. -/
theorem ext_lookup {g h : Graph} (hn : ∀ k, g.node? k = h.node? k)
    (hr : ∀ k, g.relationship? k = h.relationship? k) : g = h := by
  obtain ⟨ns, rs, hns, hrs⟩ := g
  obtain ⟨ns', rs', hns', hrs'⟩ := h
  have := eq_of_find?_eq Node.id hns hns' hn
  have := eq_of_find?_eq Relationship.id hrs hrs' hr
  subst_vars
  rfl

theorem isSome_node?_iff (g : Graph) (k : Int64) :
    (g.node? k).isSome ↔ k ∈ g.nodes.map Node.id := by
  simp [node?, List.find?_isSome]

theorem isSome_relationship?_iff (g : Graph) (k : Int64) :
    (g.relationship? k).isSome ↔ k ∈ g.relationships.map Relationship.id := by
  simp [relationship?, List.find?_isSome]

@[simp] theorem node?_empty (k : Int64) : empty.node? k = none := rfl
@[simp] theorem relationship?_empty (k : Int64) : empty.relationship? k = none := rfl

@[simp] theorem node?_insertNode (g : Graph) (n : Node) (k : Int64) :
    (g.insertNode n).1.node? k = (g.node? k).or (if n.id = k then some n else none) :=
  find?_insertById Node.id n g.nodes_sorted k

@[simp] theorem relationship?_insertNode (g : Graph) (n : Node) (k : Int64) :
    (g.insertNode n).1.relationship? k = g.relationship? k := rfl

@[simp] theorem node?_insertRelationship (g : Graph) (r : Relationship) (k : Int64) :
    (g.insertRelationship r).1.node? k = g.node? k := rfl

@[simp] theorem relationship?_insertRelationship (g : Graph) (r : Relationship) (k : Int64) :
    (g.insertRelationship r).1.relationship? k =
      (g.relationship? k).or (if r.id = k then some r else none) :=
  find?_insertById Relationship.id r g.relationships_sorted k

/-! ## Adding sub-graphs -/

/-- The first element of an identity, converted: conversion keeps identities, so it does not
matter whether the lookup comes before or after it. -/
theorem or_find?_cons {β γ : Type} (key : β → Int64) (conv : β → γ) (o : Option γ) (x : β)
    (xs : List β) (k : Int64) :
    (o.or (if key x = k then some (conv x) else none)).or ((xs.find? (key · == k)).map conv) =
      o.or (((x :: xs).find? (key · == k)).map conv) := by
  by_cases hk : key x = k <;> simp [hk]

theorem node?_foldl_insertNode (ns : List WireNode) (g : Graph) (k : Int64) :
    (ns.foldl (fun g n => (g.insertNode n.toNode).1) g).node? k =
      (g.node? k).or ((ns.find? (·.id == k)).map WireNode.toNode) := by
  induction ns generalizing g with
  | nil => simp
  | cons n ns ih =>
    rw [List.foldl_cons, ih, node?_insertNode]
    exact or_find?_cons WireNode.id WireNode.toNode _ n ns k

theorem relationship?_foldl_insertNode (ns : List WireNode) (g : Graph) (k : Int64) :
    (ns.foldl (fun g n => (g.insertNode n.toNode).1) g).relationship? k = g.relationship? k := by
  induction ns generalizing g with
  | nil => rfl
  | cons n ns ih => rw [List.foldl_cons, ih, relationship?_insertNode]

theorem node?_foldl_insertRelationship (rs : List WireRelationship) (g : Graph) (k : Int64) :
    (rs.foldl (fun g r => (g.insertRelationship r.toRelationship).1) g).node? k = g.node? k := by
  induction rs generalizing g with
  | nil => rfl
  | cons r rs ih => rw [List.foldl_cons, ih, node?_insertRelationship]

theorem relationship?_foldl_insertRelationship (rs : List WireRelationship) (g : Graph)
    (k : Int64) :
    (rs.foldl (fun g r => (g.insertRelationship r.toRelationship).1) g).relationship? k =
      (g.relationship? k).or ((rs.find? (·.id == k)).map WireRelationship.toRelationship) := by
  induction rs generalizing g with
  | nil => simp
  | cons r rs ih =>
    rw [List.foldl_cons, ih, relationship?_insertRelationship]
    exact or_find?_cons WireRelationship.id WireRelationship.toRelationship _ r rs k

theorem node?_addItem (g : Graph) (item : DataItem) (k : Int64) :
    (g.addItem item).node? k =
      (g.node? k).or ((((item.graph.map SubGraph.nodes).getD []).find? (·.id == k)).map
        WireNode.toNode) := by
  rcases hg : item.graph with _ | sg
  · simp [addItem, hg]
  · simp only [addItem, hg, addSubGraph, Option.map_some, Option.getD_some]
    rw [node?_foldl_insertRelationship, node?_foldl_insertNode]

theorem relationship?_addItem (g : Graph) (item : DataItem) (k : Int64) :
    (g.addItem item).relationship? k =
      (g.relationship? k).or ((((item.graph.map SubGraph.relationships).getD []).find?
        (·.id == k)).map WireRelationship.toRelationship) := by
  rcases hg : item.graph with _ | sg
  · simp [addItem, hg]
  · simp only [addItem, hg, addSubGraph, Option.map_some, Option.getD_some]
    rw [relationship?_foldl_insertRelationship, relationship?_foldl_insertNode]

/-! ## Merging fragments -/

/-- The law of adding one data item gives the law of merging a fragment. -/
theorem lookup_merge_of_addItem {β γ : Type} (look : Graph → Int64 → Option γ)
    (sel : DataItem → List β) (key : β → Int64) (conv : β → γ)
    (hstep : ∀ g item k, look (g.addItem item) k =
      (look g k).or (((sel item).find? (key · == k)).map conv))
    (g : Graph) (f : Fragment) (k : Int64) :
    look (g.merge f) k = (look g k).or (((f.data.flatMap sel).find? (key · == k)).map conv) := by
  obtain ⟨cols, items, stats⟩ := f
  simp only [merge]
  -- the induction runs over the data items, the graph growing item by item
  induction items generalizing g with
  | nil => simp
  | cons item items ih =>
    rw [List.foldl_cons, ih, hstep, List.flatMap_cons, List.find?_append, Option.map_or,
      Option.or_assoc]

/-- Merging is a left-biased union of node maps: the graph's entry wins, else the first node
of that identity among the fragment's sub-graphs. -/
theorem node?_merge (g : Graph) (f : Fragment) (k : Int64) :
    (g.merge f).node? k =
      (g.node? k).or ((f.wireNodes.find? (·.id == k)).map WireNode.toNode) :=
  lookup_merge_of_addItem node? _ WireNode.id WireNode.toNode node?_addItem g f k

/-- The same union law for relationships. -/
theorem relationship?_merge (g : Graph) (f : Fragment) (k : Int64) :
    (g.merge f).relationship? k =
      (g.relationship? k).or
        ((f.wireRelationships.find? (·.id == k)).map WireRelationship.toRelationship) :=
  lookup_merge_of_addItem relationship? _ WireRelationship.id WireRelationship.toRelationship
    relationship?_addItem g f k

/-- Merging fragments one after another is merging their data as one fragment. -/
theorem foldl_merge (fs : List Fragment) (g : Graph) (cols : List String)
    (stats : Option QueryStats) :
    fs.foldl merge g = g.merge ⟨cols, fs.flatMap Fragment.data, stats⟩ := by
  induction fs generalizing g with
  | nil => rfl
  | cons f fs ih => simp [ih, merge, List.foldl_append]

theorem wireNodes_concat (fs : List Fragment) (cols : List String) (stats : Option QueryStats) :
    Fragment.wireNodes ⟨cols, fs.flatMap Fragment.data, stats⟩ = fs.flatMap Fragment.wireNodes :=
  List.flatMap_assoc

theorem wireRelationships_concat (fs : List Fragment) (cols : List String)
    (stats : Option QueryStats) :
    Fragment.wireRelationships ⟨cols, fs.flatMap Fragment.data, stats⟩ =
      fs.flatMap Fragment.wireRelationships :=
  List.flatMap_assoc

theorem isSome_find?_key {β : Type} (key : β → Int64) {l : List β} {x : β} (hx : x ∈ l) :
    (l.find? (key · == key x)).isSome :=
  List.find?_isSome.2 ⟨x, hx, by simp⟩

/-- A left-biased union adds nothing when the map on the left holds every key of the list. -/
theorem or_find?_of_present {β γ : Type} (key : β → Int64) (conv : β → γ)
    (m : Int64 → Option γ) {l : List β} (h : ∀ x ∈ l, (m (key x)).isSome) (k : Int64) :
    (m k).or ((l.find? (key · == k)).map conv) = m k := by
  rcases hk : m k with _ | y
  · -- a key the map lacks occurs nowhere in the list
    have : l.find? (key · == k) = none :=
      List.find?_eq_none.2 fun x hx he => by
        have := h x hx
        simp_all
    simp [this]
  · rfl

/-- A left-biased union holds every key of the list. -/
theorem isSome_or_find? {β γ : Type} (key : β → Int64) (conv : β → γ) (o : Option γ)
    {l : List β} {x : β} (hx : x ∈ l) : (o.or ((l.find? (key · == key x)).map conv)).isSome := by
  have := isSome_find?_key key hx
  cases o <;> simp_all

/-- A fragment whose identities the graph all holds adds nothing. -/
theorem merge_of_present {g : Graph} {f : Fragment}
    (hn : ∀ w ∈ f.wireNodes, (g.node? w.id).isSome)
    (hr : ∀ w ∈ f.wireRelationships, (g.relationship? w.id).isSome) : g.merge f = g := by
  refine ext_lookup (fun k => ?_) (fun k => ?_)
  · rw [node?_merge, or_find?_of_present WireNode.id WireNode.toNode g.node? hn]
  · rw [relationship?_merge,
      or_find?_of_present WireRelationship.id WireRelationship.toRelationship g.relationship? hr]

/-- A node of the fragment is found in the merged graph. -/
theorem isSome_node?_merge {g : Graph} {f : Fragment} {w : WireNode} (hw : w ∈ f.wireNodes) :
    ((g.merge f).node? w.id).isSome := by
  rw [node?_merge]
  exact isSome_or_find? WireNode.id WireNode.toNode _ hw

theorem isSome_relationship?_merge {g : Graph} {f : Fragment} {w : WireRelationship}
    (hw : w ∈ f.wireRelationships) : ((g.merge f).relationship? w.id).isSome := by
  rw [relationship?_merge]
  exact isSome_or_find? WireRelationship.id WireRelationship.toRelationship _ hw

/-- Merging a fragment a second time changes nothing. -/
theorem merge_merge_self (g : Graph) (f : Fragment) : (g.merge f).merge f = g.merge f :=
  merge_of_present (fun _ hw => isSome_node?_merge hw) (fun _ hw => isSome_relationship?_merge hw)

/-! ## The graph of a run of fragments -/

/-- The graph of the first fragment with the others merged in is the graph of their
concatenated data. -/
theorem foldl_merge_ofFragment (f : Fragment) (fs : List Fragment) (cols : List String)
    (stats : Option QueryStats) :
    fs.foldl merge (ofFragment f) = ofFragment ⟨cols, (f :: fs).flatMap Fragment.data, stats⟩ :=
  foldl_merge (f :: fs) empty cols stats

theorem node?_foldl_merge (f : Fragment) (fs : List Fragment) (k : Int64) :
    (fs.foldl merge (ofFragment f)).node? k =
      (((f :: fs).flatMap Fragment.wireNodes).find? (·.id == k)).map WireNode.toNode := by
  rw [foldl_merge_ofFragment f fs [] none, ofFragment, node?_merge, node?_empty, Option.none_or,
    wireNodes_concat]

theorem relationship?_foldl_merge (f : Fragment) (fs : List Fragment) (k : Int64) :
    (fs.foldl merge (ofFragment f)).relationship? k =
      (((f :: fs).flatMap Fragment.wireRelationships).find? (·.id == k)).map
        WireRelationship.toRelationship := by
  rw [foldl_merge_ofFragment f fs [] none, ofFragment, relationship?_merge, relationship?_empty,
    Option.none_or, wireRelationships_concat]

/-- Merging is a left-biased union of the graph's maps with the first occurrences of the
fragment's identities. Hence the graph of a run of fragments, the first built and the others
merged in, holds one node and one relationship per identity occurring in them, each the
conversion of its first occurrence and in strictly ascending identity order; it is the graph of
their concatenated data; and merging any of them again leaves it as it is. -/
theorem merge_keeps_first_occurrence :
    (∀ (g : Graph) (f : Fragment) (k : Int64),
      (g.merge f).node? k =
          (g.node? k).or ((f.wireNodes.find? (·.id == k)).map WireNode.toNode) ∧
        (g.merge f).relationship? k =
          (g.relationship? k).or
            ((f.wireRelationships.find? (·.id == k)).map WireRelationship.toRelationship)) ∧
    ∀ (f : Fragment) (fs : List Fragment),
      let g := fs.foldl merge (ofFragment f)
      let ns := (f :: fs).flatMap Fragment.wireNodes
      let rs := (f :: fs).flatMap Fragment.wireRelationships
      (∀ k, g.node? k = (ns.find? (·.id == k)).map WireNode.toNode) ∧
      (∀ k, g.relationship? k = (rs.find? (·.id == k)).map WireRelationship.toRelationship) ∧
      (∀ k, k ∈ g.nodes.map Node.id ↔ k ∈ ns.map WireNode.id) ∧
      (∀ k, k ∈ g.relationships.map Relationship.id ↔ k ∈ rs.map WireRelationship.id) ∧
      (g.nodes.map Node.id).Pairwise (· < ·) ∧
      (g.relationships.map Relationship.id).Pairwise (· < ·) ∧
      (∀ cols stats, g = ofFragment ⟨cols, (f :: fs).flatMap Fragment.data, stats⟩) ∧
      ∀ f' ∈ f :: fs, g.merge f' = g := by
  refine ⟨fun g f k => ⟨node?_merge g f k, relationship?_merge g f k⟩, fun f fs => ?_⟩
  intro g ns rs
  have hn : ∀ k, g.node? k = (ns.find? (·.id == k)).map WireNode.toNode := node?_foldl_merge f fs
  have hr : ∀ k, g.relationship? k =
      (rs.find? (·.id == k)).map WireRelationship.toRelationship := relationship?_foldl_merge f fs
  refine ⟨hn, hr, fun k => ?_, fun k => ?_, List.pairwise_map.2 g.nodes_sorted,
    List.pairwise_map.2 g.relationships_sorted, foldl_merge_ofFragment f fs, fun f' hf => ?_⟩
  · rw [← isSome_node?_iff, hn]
    simp [List.find?_isSome]
  · rw [← isSome_relationship?_iff, hr]
    simp [List.find?_isSome]
  · -- every identity of a fragment of the run is already in the graph
    refine merge_of_present (fun w hw => ?_) (fun w hw => ?_)
    · rw [hn, Option.isSome_map]
      exact isSome_find?_key WireNode.id (List.mem_flatMap.2 ⟨f', hf, hw⟩)
    · rw [hr, Option.isSome_map]
      exact isSome_find?_key WireRelationship.id (List.mem_flatMap.2 ⟨f', hf, hw⟩)

/-- Two fragments that both send node 1, the second with other properties and a node 2:
merging the second again into the graph they build changes nothing. -/
theorem merge_keeps_first_occurrence_remerge :
    let ada : WireNode := ⟨1, ["Person"], some [("name", .string "Ada")]⟩
    let augusta : WireNode := ⟨1, ["Person"], some [("name", .string "Augusta")]⟩
    let charles : WireNode := ⟨2, ["Person"], none⟩
    let f₁ : Fragment := ⟨["p"], [⟨none, some ⟨[ada], []⟩⟩], none⟩
    let f₂ : Fragment := ⟨["p"], [⟨none, some ⟨[augusta, charles], []⟩⟩, ⟨none, none⟩], none⟩
    f₂ ∈ [f₁, f₂] ∧
      ([f₂].foldl merge (ofFragment f₁)).merge f₂ = [f₂].foldl merge (ofFragment f₁) :=
  ⟨List.mem_cons_of_mem _ List.mem_cons_self,
    (merge_keeps_first_occurrence.2 _ _).2.2.2.2.2.2.2 _
      (List.mem_cons_of_mem _ List.mem_cons_self)⟩

end Graph

end GraphWire
