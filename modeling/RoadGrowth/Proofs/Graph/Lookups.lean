import RoadGrowth.Proofs.Graph.Nearest

/-!
# Numbers are places

Every number that a graph keeps, in a bucket, in a list of a node or as an end of a
segment, is that of a node or segment it has, and so is every answer of a search. A
look-up by such a number never fails.
-/

namespace RoadGrowth.Graph

/-- Every number that a graph keeps or answers with is a place. -/
structure Closed (graph : Graph) : Prop where
  start_lt : ∀ segment ∈ graph.segments, segment.start < graph.nodes.size
  finish_lt : ∀ segment ∈ graph.segments, segment.finish < graph.nodes.size
  linked_lt : ∀ node ∈ graph.nodes, ∀ number,
    number ∈ node.inbound ∨ number ∈ node.outbound → number < graph.segments.size
  bucket_lt : ∀ index, graph.index = some index → ∀ (cell : index.terrain.Cell) (id : Nat),
    id ∈ index.bucket cell → id < graph.nodes.size
  nearest_lt : ∀ position radius found,
    graph.nearest position radius = some found → found < graph.nodes.size

variable {graph : Graph}

/-- A fold that keeps the best hit so far or takes the next one answers with one of the hits. -/
theorem mem_of_foldl_hits {step : Option Hit → Hit → Option Hit}
    (picks : ∀ best hit, step best hit = best ∨ step best hit = some hit) {hits : List Hit}
    {best : Hit} (found : hits.foldl step none = some best) : best ∈ hits := by
  induction hits using List.reverseRecOn with
  | nil => cases found
  | append_singleton hits hit ih =>
    rw [List.foldl_append, List.foldl_cons, List.foldl_nil] at found
    rcases picks (hits.foldl step none) hit with same | next
    · exact List.mem_append_left _ (ih (same ▸ found))
    · rw [next] at found
      cases found
      exact List.mem_append_right _ List.mem_cons_self

theorem Hit.orNearer_picks (radius : Float32) (best : Option Hit) (hit : Hit) :
    Hit.orNearer radius best hit = best ∨ Hit.orNearer radius best hit = some hit := by
  unfold Hit.orNearer
  split
  · exact .inl rfl
  · cases best with
    | none => exact .inr rfl
    | some other =>
      dsimp only
      split
      · exact .inr rfl
      · exact .inl rfl

theorem Hit.orLater_picks (radius : Float32) (best : Option Hit) (hit : Hit) :
    Hit.orLater radius best hit = best ∨ Hit.orLater radius best hit = some hit := by
  unfold Hit.orLater
  split
  · cases best with
    | none => exact .inr rfl
    | some other =>
      dsimp only
      split
      · exact .inr rfl
      · exact .inl rfl
  · exact .inl rfl

theorem node_lt_of_mem_hits (consistent : graph.Consistent) {position : Point} {hit : Hit}
    (member : hit ∈ graph.hitsOfAll position) : hit.node < graph.nodes.size := by
  obtain ⟨id, node, known, rfl⟩ := mem_hitsOfAll.mp member
  change node.id < _
  rw [consistent.nodeId known]
  exact lt_size_of_known known

/-- A search answers with a node of the graph, whichever nodes it looks at. -/
theorem Consistent.nearest_lt (consistent : graph.Consistent) {position : Point}
    {radius : Float32} {found : Nat} (near : graph.nearest position radius = some found) :
    found < graph.nodes.size := by
  have ofAll : graph.nearestOfAll position radius = some found → found < graph.nodes.size := by
    intro near
    rw [nearestOfAll_eq] at near
    obtain ⟨hit, chosen, rfl⟩ := Option.map_eq_some_iff.mp near
    exact node_lt_of_mem_hits consistent (mem_of_foldl_hits (Hit.orLater_picks radius) chosen)
  unfold nearest at near
  split at near
  · split at near
    · rw [nearestAround_eq] at near
      obtain ⟨hit, chosen, rfl⟩ := Option.map_eq_some_iff.mp near
      exact node_lt_of_mem_hits consistent
        (hitsAround_subset (mem_of_foldl_hits (Hit.orNearer_picks radius) chosen))
    · exact ofAll near
  · exact ofAll near

theorem Reachable.closed (reachable : graph.Reachable) : graph.Closed where
  start_lt := reachable.consistent.start_lt
  finish_lt := reachable.consistent.finish_lt
  linked_lt node member number linked := by
    have consistent := reachable.consistent
    obtain ⟨id, known⟩ := Array.mem_iff_getElem?.mp member
    have listed : ∃ property, number ∈ graph.segmentsWhere property := by
      rcases linked with inbound | outbound
      · rw [Array.mem_def, consistent.inbound known] at inbound
        exact ⟨_, inbound⟩
      · rw [Array.mem_def, consistent.outbound known] at outbound
        exact ⟨_, outbound⟩
    obtain ⟨property, listed⟩ := listed
    obtain ⟨segment, segmentKnown, -⟩ := (mem_segmentsWhere consistent).mp listed
    exact (Array.getElem?_eq_some_iff.mp segmentKnown).1
  bucket_lt index known cell id member := by
    obtain ⟨node, nodeKnown, -⟩ := (reachable.holds_nodes index known).mem_bucket.mp member
    exact lt_size_of_known nodeKnown
  nearest_lt position radius found near := reachable.consistent.nearest_lt near

end RoadGrowth.Graph
