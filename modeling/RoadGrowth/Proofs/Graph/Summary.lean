import Mathlib.Data.Finset.Image
import Mathlib.Data.List.Induction
import Mathlib.Data.Sym.Sym2.Order
import RoadGrowth.Graph.Summary
import RoadGrowth.Proofs.Graph.Links
import RoadGrowth.Proofs.Outcome
import RoadGrowth.Proofs.Plane.Rectangles

/-!
# Summaries are exact

What a summary accumulates is what the graph contains, in whatever order its parts are
visited. Each segment is of one class. A segment is retraced exactly if it is not the first
to join its two nodes, so as many are retraced as there are segments beyond the distinct
pairs of ends. A dead end is a node that a single segment touches. The bounds are the
smallest rectangle around all nodes.
-/

namespace RoadGrowth

open Numeric

/-! ## Repetitions -/

/-- Count a pair if it was seen before, and otherwise see it. -/
def noteSeen (state : Std.HashSet (Nat × Nat) × Nat) (pair : Nat × Nat) :
    Std.HashSet (Nat × Nat) × Nat :=
  if state.1.contains pair then (state.1, state.2 + 1) else (state.1.insert pair, state.2)

/-- What has been noted of a list: the pairs seen are those in it, and each entry is the first of
its pair or was counted. -/
structure Noted (pairs : List (Nat × Nat)) (state : Std.HashSet (Nat × Nat) × Nat) : Prop where
  mem_seen : ∀ pair, pair ∈ state.1 ↔ pair ∈ pairs
  count : state.2 + pairs.toFinset.card = pairs.length

theorem Noted.append {pairs : List (Nat × Nat)} {state : Std.HashSet (Nat × Nat) × Nat}
    (noted : Noted pairs state) (pair : Nat × Nat) :
    Noted (pairs ++ [pair]) (noteSeen state pair) := by
  have grown : (pairs ++ [pair]).toFinset = insert pair pairs.toFinset := by
    ext other
    simp
  have count := noted.count
  unfold noteSeen
  split
  · rename_i known
    have member : pair ∈ pairs := (noted.mem_seen pair).mp (Std.HashSet.mem_iff_contains.mpr known)
    constructor
    · intro other
      rw [noted.mem_seen, List.mem_append, List.mem_singleton]
      exact ⟨.inl, fun either => either.elim id fun same => same ▸ member⟩
    · rw [grown, Finset.insert_eq_self.mpr (List.mem_toFinset.mpr member), List.length_append,
        List.length_singleton]
      dsimp only
      omega
  · rename_i unknown
    have absent : pair ∉ pairs := fun member =>
      unknown (Std.HashSet.mem_iff_contains.mp ((noted.mem_seen pair).mpr member))
    constructor
    · intro other
      rw [Std.HashSet.mem_insert, noted.mem_seen, List.mem_append, List.mem_singleton, beq_iff_eq,
        or_comm, eq_comm]
    · rw [grown, Finset.card_insert_of_notMem (mt List.mem_toFinset.mp absent), List.length_append,
        List.length_singleton]
      dsimp only
      omega

theorem noted_foldl (pairs : List (Nat × Nat)) : Noted pairs (pairs.foldl noteSeen (∅, 0)) := by
  induction pairs using List.reverseRecOn with
  | nil => exact ⟨by simp, rfl⟩
  | append_singleton pairs pair ih =>
    rw [List.foldl_append]
    exact ih.append pair

/-- Every entry is the first of its pair or a repetition. -/
theorem repetitions_add_card (pairs : List (Nat × Nat)) :
    repetitions pairs + pairs.toFinset.card = pairs.length :=
  (noted_foldl pairs).count

namespace Segment

/-- The two ends of a segment, without an order. -/
def ends (segment : Segment) : Sym2 Nat := s(segment.start, segment.finish)

/-- A segment starts or ends at a node. -/
def touches (segment : Segment) (id : Nat) : Bool := segment.start = id || segment.finish = id

/-- The lower number first is one way to write the two ends. -/
theorem card_joined (segments : List Segment) :
    (segments.map joined).toFinset.card = (segments.map ends).toFinset.card := by
  let sorted : Sym2 Nat → Nat × Nat := fun ends => (ends.inf, ends.sup)
  have injective : Function.Injective sorted := fun left right same =>
    Sym2.inf_eq_inf_and_sup_eq_sup.mp (Prod.mk.inj same)
  have image : (segments.map joined).toFinset =
      (segments.map ends).toFinset.image sorted := by
    ext pair
    simp [sorted, joined, ends]
  rw [image, Finset.card_image_of_injective _ injective]

end Segment

namespace Graph

variable {graph : Graph}

/-! ## Classes and lengths -/

/-- Every segment is of one class. -/
theorem sum_countClass (graph : Graph) : graph.countClass .highway + graph.countClass .road +
    graph.countClass .street = graph.segments.size := by
  simp only [countClass, ← Array.countP_toList, ← Array.length_toList]
  induction graph.segments.toList with
  | nil => rfl
  | cons segment rest ih =>
    simp only [List.countP_cons, List.length_cons, decide_eq_true_eq]
    cases segment.roadClass <;> simp only [reduceCtorEq, if_true, if_false] <;> omega

theorem segmentLength_eq {segment : Segment} {start finish : Node}
    (startKnown : graph.nodes[segment.start]? = some start)
    (finishKnown : graph.nodes[segment.finish]? = some finish) :
    graph.segmentLength segment = .ok (start.position.distance finish.position) := by
  rw [segmentLength, endpoints, node, node, startKnown, finishKnown]
  rfl

/-- Every segment has a length, since its ends are nodes. -/
theorem exists_lengths (consistent : graph.Consistent) :
    ∃ lengths, graph.lengths = .ok lengths := by
  refine exists_mapM fun segment listed => ?_
  have member : segment ∈ graph.segments := Array.mem_toList_iff.mp listed
  have startKnown := Array.getElem?_eq_getElem (consistent.start_lt segment member)
  have finishKnown := Array.getElem?_eq_getElem (consistent.finish_lt segment member)
  exact ⟨_, bind_eq_ok.mpr ⟨_, segmentLength_eq startKnown finishKnown, rfl⟩⟩

/-! ## Dead ends -/

theorem map_id_nodes (consistent : graph.Consistent) :
    graph.nodes.toList.map Node.id = List.range graph.nodes.size := by
  refine List.ext_getElem (by simp) fun id inNodes _ => ?_
  rw [List.length_map, Array.length_toList] at inNodes
  rw [List.getElem_map, List.getElem_range, Array.getElem_toList]
  exact consistent.nodeId (Array.getElem?_eq_getElem inNodes)

theorem countP_deadEnds (consistent : graph.Consistent) :
    (graph.nodes.countP fun node => node.degree = 1) =
      (List.range graph.nodes.size).countP fun id =>
        graph.segments.countP (·.touches id) = 1 := by
  rw [← map_id_nodes consistent, List.countP_map, ← Array.countP_toList]
  refine List.countP_congr fun node member => ?_
  obtain ⟨id, known⟩ := Array.mem_iff_getElem?.mp (Array.mem_toList_iff.mp member)
  rw [Function.comp_apply, consistent.nodeId known, degree_eq consistent known]
  rfl

/-- The summary of a reachable graph is always found. Its counts of the three classes add up to the
segments. As many segments are retraced as there are beyond the distinct pairs of ends, and the dead
ends are the nodes that a single segment touches. If no node is undefined, the bounds are the
smallest rectangle around all nodes, and are empty only without any. -/
theorem summary_exact (reachable : graph.Reachable) :
    ∃ summary, graph.summary = .ok summary ∧
      summary.nodes = graph.nodes.size ∧ summary.segments = graph.segments.size ∧
      (∀ roadClass, summary.count roadClass =
        graph.segments.countP fun segment => segment.roadClass = roadClass) ∧
      summary.highways + summary.roads + summary.streets = graph.segments.size ∧
      summary.retraced + (graph.segments.toList.map Segment.ends).toFinset.card =
        graph.segments.size ∧
      (summary.deadEnds = (List.range graph.nodes.size).countP fun id =>
        graph.segments.countP (·.touches id) = 1) ∧
      ((∀ node ∈ graph.nodes, node.position.isUndefined = false) →
        (summary.bounds.isEmpty ↔ graph.nodes.size = 0) ∧
        (graph.nodes.size ≠ 0 →
          summary.bounds.IsSmallest (graph.nodes.toList.map Node.position))) := by
  have consistent := reachable.consistent
  obtain ⟨lengths, measured⟩ := exists_lengths consistent
  have repeated := repetitions_add_card (graph.segments.toList.map Segment.joined)
  rw [Segment.card_joined, List.length_map, Array.length_toList] at repeated
  refine ⟨_, bind_eq_ok.mpr ⟨lengths, measured, rfl⟩, rfl, rfl, fun roadClass => ?_,
    graph.sum_countClass, repeated, countP_deadEnds consistent, fun defined => ?_⟩
  · cases roadClass <;> rfl
  · have defined : ∀ point ∈ graph.nodes.toList.map Node.position, point.isUndefined = false :=
      List.forall_mem_map.mpr fun node listed => defined node (Array.mem_toList_iff.mp listed)
    exact ⟨by simp [Rectangle.isEmpty_ofPoints_iff defined], fun some =>
      Rectangle.isSmallest_ofPoints (by simpa using some) defined⟩

/-- A street that goes round at a node of its own, and a highway with a street back along it: one
of three segments is retraced, and the node with the round street is the only dead end. -/
theorem summary_exact_of_way_back :
    ∃ (graph : Graph) (summary : Summary), graph.Reachable ∧ graph.summary = .ok summary ∧
      graph.segments.map (fun segment => (segment.start, segment.finish)) =
        #[(1, 1), (0, 2), (2, 0)] ∧
      summary.highways = 1 ∧ summary.count .street = 2 ∧ summary.retraced = 1 ∧
      summary.deadEnds = 1 ∧ summary.bounds.isEmpty = false ∧
      summary.bounds.IsSmallest [.origin, ⟨0.5, 0.5⟩, ⟨0.125, 0.0⟩] := by
  let after (graph : Graph) (candidate : Candidate) : Graph :=
    (graph.plan candidate).elim graph graph.carryOut
  let apart := ((empty {}).addNode .origin).addNode ⟨0.5, 0.5⟩
  let round := after apart ⟨1, ⟨0.5, 0.5⟩, ⟨0.5, 0.5⟩, 0.25, .street⟩
  let ahead := after round ⟨0, .origin, ⟨0.125, 0.0⟩, 0.25, .highway⟩
  let graph := after ahead ⟨2, ⟨0.125, 0.0⟩, .origin, 0.25, .street⟩
  have grows : ∀ {graph : Graph} {node : Node} (candidate : Candidate), graph.Reachable →
      graph.nodes[candidate.start]? = some node → node.position = candidate.startPosition →
      (after graph candidate).Reachable := by
    rintro graph node ⟨start, position, target, rotation, roadClass⟩ reachable known rfl
    exact .grown reachable (grow_of_start known)
  have second : apart.nodes[1]? = some ⟨1, ⟨0.5, 0.5⟩, #[], #[]⟩ := rfl
  have first : round.nodes[0]? = some ⟨0, .origin, #[], #[]⟩ := by decide +kernel
  have third : ahead.nodes[2]? = some ⟨2, ⟨0.125, 0.0⟩, #[1], #[]⟩ := by decide +kernel
  have reachable : graph.Reachable :=
    grows _ (grows _ (grows _ (.added (.added (.empty {} usualSnapDistance) _) _) second rfl)
      first rfl) third rfl
  have positions : graph.nodes.toList.map Node.position = [.origin, ⟨0.5, 0.5⟩, ⟨0.125, 0.0⟩] := by
    decide +kernel
  obtain ⟨summary, found, -, -, counts, -, retraced, deadEnds, bounds⟩ := summary_exact reachable
  obtain ⟨empty, smallest⟩ := bounds (by decide +kernel)
  have pairs : (graph.segments.toList.map Segment.ends).toFinset.card = 2 := by decide +kernel
  have segments : graph.segments.size = 3 := by decide +kernel
  rw [pairs, segments] at retraced
  refine ⟨graph, summary, reachable, found, by decide +kernel, (counts .highway).trans ?_,
    (counts .street).trans ?_, by omega, deadEnds.trans ?_, ?_, positions ▸ smallest ?_⟩
  · decide +kernel
  · decide +kernel
  · decide +kernel
  · rw [Bool.eq_false_iff, ne_eq, empty]
    decide +kernel
  · decide +kernel

end Graph

end RoadGrowth
