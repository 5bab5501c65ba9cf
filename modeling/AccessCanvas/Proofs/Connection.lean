import Mathlib.Data.List.Forall2
import AccessCanvas.Proofs.Shadowing

/-!
What a canvas connects. Main statement: a search sees the edges only as pairs of ids, and more pairs
or both directions never make it answer less.
-/

namespace AccessCanvas

open Relation (ReflTransGen)

namespace Edge

def ends (edge : Edge) : ArtifactId × ArtifactId :=
  (edge.source, edge.target)

def reversed (edge : Edge) : Edge :=
  { edge with source := edge.target, target := edge.source }

variable {edge : Edge} {orientation : Orientation} {origin target : ArtifactId}

theorem leads_iff_ends : edge.Leads orientation origin target ↔
    edge.ends = (origin, target) ∨ (orientation = .undirected ∧ edge.ends = (target, origin)) := by
  simp only [Leads, ends, Prod.mk.injEq]
  constructor
  · rintro (ahead | ⟨both, back, front⟩)
    · exact Or.inl ahead
    · exact Or.inr ⟨both, front, back⟩
  · rintro (ahead | ⟨both, front, back⟩)
    · exact Or.inl ahead
    · exact Or.inr ⟨both, back, front⟩

theorem leads_reversed_iff :
    edge.reversed.Leads .undirected origin target ↔ edge.Leads .undirected origin target := by
  simp only [Leads, reversed, true_and]
  constructor
  · rintro (⟨back, front⟩ | ⟨front, back⟩)
    · exact Or.inr ⟨back, front⟩
    · exact Or.inl ⟨front, back⟩
  · rintro (⟨front, back⟩ | ⟨back, front⟩)
    · exact Or.inr ⟨front, back⟩
    · exact Or.inl ⟨back, front⟩

theorem Leads.undirected (leads : edge.Leads orientation origin target) :
    edge.Leads .undirected origin target := by
  rcases leads with ahead | ⟨-, back⟩
  · exact Or.inl ahead
  · exact Or.inr ⟨rfl, back⟩

end Edge

/-- One of the edges leads from the origin to the target, whether they are known or not. -/
def Linked (edges : List Edge) (orientation : Orientation) (origin target : ArtifactId) : Prop :=
  ∃ edge ∈ edges, edge.Leads orientation origin target

section Linked

variable {edges : List Edge} {orientation : Orientation} {origin target : ArtifactId}

theorem leads_iff_linked {ids : List ArtifactId} : Leads ids edges orientation origin target ↔
    (origin ∈ ids ∧ target ∈ ids) ∧ Linked edges orientation origin target := by
  constructor
  · rintro ⟨edge, member, ⟨source, destination⟩, leads⟩
    refine ⟨?_, edge, member, leads⟩
    rcases leads with ⟨rfl, rfl⟩ | ⟨-, rfl, rfl⟩
    · exact ⟨source, destination⟩
    · exact ⟨destination, source⟩
  · rintro ⟨⟨first, last⟩, edge, member, leads⟩
    refine ⟨edge, member, ?_, leads⟩
    rcases leads with ⟨rfl, rfl⟩ | ⟨-, rfl, rfl⟩
    · exact ⟨first, last⟩
    · exact ⟨last, first⟩

theorem Linked.mono {more : List Edge} (ends : edges.map Edge.ends ⊆ more.map Edge.ends)
    (linked : Linked edges orientation origin target) : Linked more orientation origin target := by
  obtain ⟨edge, member, leads⟩ := linked
  obtain ⟨other, belongs, same⟩ := List.mem_map.mp (ends (List.mem_map_of_mem member))
  refine ⟨other, belongs, ?_⟩
  rw [Edge.leads_iff_ends] at leads ⊢
  rwa [same]

theorem Linked.undirected (linked : Linked edges orientation origin target) :
    Linked edges .undirected origin target := by
  obtain ⟨edge, member, leads⟩ := linked
  exact ⟨edge, member, leads.undirected⟩

theorem linked_iff_of_turned {turned : List Edge}
    (either : List.Forall₂ (fun edge other => other = edge ∨ other = edge.reversed) edges turned) :
    Linked turned .undirected origin target ↔ Linked edges .undirected origin target := by
  induction either with
  | nil => rfl
  | @cons edge other edges turned same _ ih =>
      have head : other.Leads .undirected origin target ↔ edge.Leads .undirected origin target := by
        rcases same with rfl | rfl
        · rfl
        · exact Edge.leads_reversed_iff
      simp only [Linked, List.exists_mem_cons_iff, head] at ih ⊢
      rw [ih]

end Linked

theorem Query.Reaches.of_linked {query : Query} {nodes : List Node} {edges others : List Edge}
    {narrow wide : Orientation} {id : ArtifactId}
    (links : ∀ {origin target}, Linked edges narrow origin target → Linked others wide origin target)
    (reaches : query.Reaches ⟨nodes, edges⟩ narrow id) : query.Reaches ⟨nodes, others⟩ wide id := by
  obtain ⟨position, seed, last, accepted, path⟩ := reaches
  refine ⟨position, seed, last, accepted, ReflTransGen.mono (fun origin target leads => ?_) _ _ path⟩
  rw [leads_iff_linked] at leads ⊢
  exact ⟨leads.1, links leads.2⟩

namespace Explorer

variable {explorer : Explorer} {nodes : List Node} {raw : String} {edges others : List Edge}

theorem search_subset {narrow wide : Orientation}
    (links : ∀ {origin target}, Linked edges narrow origin target → Linked others wide origin target) :
    search { explorer with orientation := narrow } ⟨nodes, edges⟩ raw ⊆
      search { explorer with orientation := wide } ⟨nodes, others⟩ raw := by
  intro id found
  rw [mem_search_iff] at found ⊢
  exact found.of_linked links

end Explorer

namespace Policy

variable {policy : Policy} {nodes : List Node} {raw : String}

theorem shown_eq_of_search {edges others : List Edge}
    (answers : ∀ id, id ∈ policy.explorer.search ⟨nodes, edges⟩ raw ↔
      id ∈ policy.explorer.search ⟨nodes, others⟩ raw) :
    policy.shown ⟨nodes, edges⟩ raw = policy.shown ⟨nodes, others⟩ raw := by
  cases long : policy.answers raw with
  | false => rw [shown_of_short long, shown_of_short long]
  | true =>
      rw [shown_eq_filter long, shown_eq_filter long]
      simp only [answers]

def SameOn (policy : Policy) (nodes : List Node) (raw : String) (edges others : List Edge) : Prop :=
  (∀ id, id ∈ policy.explorer.search ⟨nodes, edges⟩ raw ↔
      id ∈ policy.explorer.search ⟨nodes, others⟩ raw) ∧
    policy.shown ⟨nodes, edges⟩ raw = policy.shown ⟨nodes, others⟩ raw ∧
    policy.filter ⟨nodes, edges⟩ raw = policy.filter ⟨nodes, others⟩ raw

theorem sameOn_of_linked {edges others : List Edge}
    (ahead : ∀ {origin target}, Linked edges policy.explorer.orientation origin target →
      Linked others policy.explorer.orientation origin target)
    (back : ∀ {origin target}, Linked others policy.explorer.orientation origin target →
      Linked edges policy.explorer.orientation origin target) :
    policy.SameOn nodes raw edges others := by
  have answers : ∀ id, id ∈ policy.explorer.search ⟨nodes, edges⟩ raw ↔
      id ∈ policy.explorer.search ⟨nodes, others⟩ raw := fun id =>
    ⟨fun found => Explorer.search_subset ahead found, fun found => Explorer.search_subset back found⟩
  have shown := shown_eq_of_search answers
  refine ⟨answers, shown, ?_⟩
  rw [filter, filter, shown]

/-- Only the pairs of ids that edges join matter, and not even their order when edges are followed
both ways; more pairs, or both ways, answer at least as much. -/
theorem search_connection (policy : Policy) (nodes : List Node) (raw : String) :
    (∀ edges others : List Edge,
      (∀ ends, ends ∈ edges.map Edge.ends ↔ ends ∈ others.map Edge.ends) →
        policy.SameOn nodes raw edges others) ∧
    (∀ edges turned : List Edge,
      List.Forall₂ (fun edge other => other = edge ∨ other = edge.reversed) edges turned →
        (policy.withOrientation .undirected).SameOn nodes raw edges turned) ∧
    (∀ edges more : List Edge, edges.map Edge.ends ⊆ more.map Edge.ends →
      policy.explorer.search ⟨nodes, edges⟩ raw ⊆ policy.explorer.search ⟨nodes, more⟩ raw) ∧
    ∀ edges : List Edge,
      (policy.withOrientation .directed).explorer.search ⟨nodes, edges⟩ raw ⊆
        (policy.withOrientation .undirected).explorer.search ⟨nodes, edges⟩ raw := by
  refine ⟨fun edges others same => ?_, fun edges turned either => ?_, fun edges more ends => ?_,
    fun edges => ?_⟩
  · exact sameOn_of_linked (Linked.mono fun ends => (same ends).mp)
      (Linked.mono fun ends => (same ends).mpr)
  · exact sameOn_of_linked (linked_iff_of_turned either).mpr (linked_iff_of_turned either).mp
  · exact Explorer.search_subset (Linked.mono ends)
  · exact Explorer.search_subset Linked.undirected

end Policy

open Sample in
/-- An edge drawn twice and one turned round change nothing for an undirected search of a chain. -/
theorem Policy.search_connection_chain :
    let edges := chainWithIsland.edges
    let repeated : List Edge := [⟨"b", "c", .justInTime⟩, ⟨"a", "b", .standard⟩, ⟨"b", "c", .standard⟩]
    let turned : List Edge := [⟨"b", "a", .standard⟩, ⟨"b", "c", .standard⟩]
    (∀ ends, ends ∈ edges.map Edge.ends ↔ ends ∈ repeated.map Edge.ends) ∧
      SameOn {} chainWithIsland.nodes "name=a" edges repeated ∧
      List.Forall₂ (fun edge other => other = edge ∨ other = edge.reversed) edges turned ∧
      SameOn {} chainWithIsland.nodes "name=a" edges turned ∧
      [].map Edge.ends ⊆ edges.map Edge.ends ∧
      Explorer.search {} ⟨chainWithIsland.nodes, []⟩ "name=a" ⊆
        Explorer.search {} ⟨chainWithIsland.nodes, edges⟩ "name=a" := by
  intro edges repeated turned
  have same : ∀ ends, ends ∈ edges.map Edge.ends ↔ ends ∈ repeated.map Edge.ends := by
    simp [edges, repeated, chainWithIsland, Edge.ends]
  have either : List.Forall₂ (fun edge other => other = edge ∨ other = edge.reversed) edges turned :=
    .cons (Or.inr rfl) (.cons (Or.inl rfl) .nil)
  obtain ⟨pairs, directions, more, -⟩ := search_connection {} chainWithIsland.nodes "name=a"
  exact ⟨same, pairs edges repeated same, either, directions edges turned either,
    List.nil_subset _, more [] edges (List.nil_subset _)⟩

end AccessCanvas
