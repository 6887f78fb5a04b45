import Mathlib.Algebra.Order.Floor.Div
import RoadGrowth.Proofs.Network.Phases

/-!
# Spread indices

Indices that are spread over a length are as far apart as the length divided by their
number, rounded down or rounded up, and the last of them is as far from the end. There
are never more of them than the length, so each is above the one before. The street grids
of a network start from nodes that are spread over those of the highways.
-/

namespace RoadGrowth

/-- Evenly spaced indices, computed in words. -/
def evenlySpacedWords (length count : UInt64) : List UInt64 :=
  let count := min count length
  (List.range count.toNat).map fun place => UInt64.ofNat place * length / count

/-- Indices that are spread over a length as evenly as it can be done in whole numbers. -/
structure SpreadOver (length count : Nat) (indices : List Nat) : Prop where
  size_eq : indices.length = min count length
  rising : indices.Pairwise (· < ·)
  first : ∀ index, indices.head? = some index → index = 0
  below : ∀ index ∈ indices, index < length
  /-- The end of the length counts as one more index. -/
  gaps : (indices ++ [length]).IsChain fun here next =>
    next = here + length / min count length ∨ next = here + length ⌈/⌉ min count length

variable {length count : Nat}

/-! ## Quotients -/

theorem ceilDiv_of_mod_pos (positive : 0 < count) (rest : 0 < length % count) :
    length ⌈/⌉ count = length / count + 1 := by
  have inside := Nat.mod_lt length positive
  have parts := Nat.div_add_mod length count
  have sum : length + count - 1 = (length % count - 1) + count * (length / count + 1) := by
    rw [Nat.mul_succ]
    omega
  rw [Nat.ceilDiv_eq_add_pred_div, sum, Nat.add_mul_div_left _ _ positive,
    Nat.div_eq_of_lt (by omega), Nat.zero_add]

/-- From a multiple to the next one a quotient grows by the quotient of the length, rounded down or
up. -/
theorem quotient_succ (place : Nat) (positive : 0 < count) :
    (place + 1) * length / count = place * length / count + length / count ∨
      (place + 1) * length / count = place * length / count + length ⌈/⌉ count := by
  rw [Nat.succ_mul, Nat.add_div positive]
  split
  · rename_i carried
    have inside := Nat.mod_lt (place * length) positive
    rw [ceilDiv_of_mod_pos positive (by omega), Nat.add_assoc]
    exact .inr rfl
  · exact .inl rfl

theorem quotient_lt {place other : Nat} (positive : 0 < count) (few : count ≤ length)
    (below : place < other) : place * length / count < other * length / count := by
  calc place * length / count
    _ < place * length / count + 1 := Nat.lt_succ_self _
    _ = (place * length + count) / count := (Nat.add_div_right _ positive).symm
    _ ≤ (place + 1) * length / count := by
      rw [Nat.succ_mul]
      exact Nat.div_le_div_right (Nat.add_le_add_left few _)
    _ ≤ other * length / count := Nat.div_le_div_right (Nat.mul_le_mul_right _ below)

/-! ## Indices -/

theorem evenlySpaced_lt {index : Nat} (member : index ∈ evenlySpaced length count) :
    index < length := by
  obtain ⟨place, placeLt, rfl⟩ := List.mem_map.mp member
  have below : place < min count length := List.mem_range.mp placeLt
  refine Nat.div_lt_of_lt_mul (Nat.mul_lt_mul_of_pos_right below ?_)
  omega

/-- Only the first of evenly spaced indices is zero. -/
theorem evenlySpaced_pos {place index : Nat} (later : place ≠ 0)
    (known : (evenlySpaced length count)[place]? = some index) : 1 ≤ index := by
  simp only [evenlySpaced, List.getElem?_map, Option.map_eq_some_iff] at known
  obtain ⟨other, otherKnown, rfl⟩ := known
  obtain ⟨below, rfl⟩ := List.getElem?_eq_some_iff.mp otherKnown
  rw [List.length_range] at below
  rw [List.getElem_range]
  have above := quotient_lt (Nat.zero_lt_of_lt below) (Nat.min_le_right count length)
    (Nat.pos_of_ne_zero later)
  exact Nat.lt_of_le_of_lt (Nat.zero_le _) above

/-- The end of the length is where the next index would be. -/
theorem evenlySpaced_append_end (positive : 0 < min count length) :
    evenlySpaced length count ++ [length] =
      (List.range (min count length + 1)).map fun place => place * length / min count length := by
  rw [List.range_succ, List.map_append, List.map_singleton, Nat.mul_div_cancel_left _ positive]
  rfl

theorem evenlySpaced_gaps (length count : Nat) :
    (evenlySpaced length count ++ [length]).IsChain fun here next =>
      next = here + length / min count length ∨ next = here + length ⌈/⌉ min count length := by
  rcases Nat.eq_zero_or_pos (min count length) with none | positive
  · simp [evenlySpaced, none]
  · rw [evenlySpaced_append_end positive, List.isChain_map, List.isChain_iff_getElem]
    intro place inside
    rw [List.getElem_range, List.getElem_range]
    exact quotient_succ place positive

theorem evenlySpaced_spreadOver (length count : Nat) :
    SpreadOver length count (evenlySpaced length count) where
  size_eq := by rw [evenlySpaced, List.length_map, List.length_range]
  rising := by
    refine List.pairwise_map.mpr (List.pairwise_lt_range.imp_of_mem fun inside _ below => ?_)
    have positive := Nat.zero_lt_of_lt (List.mem_range.mp inside)
    exact quotient_lt positive (Nat.min_le_right _ _) below
  first := by
    intro index head
    rw [evenlySpaced, List.head?_map, Option.map_eq_some_iff] at head
    obtain ⟨place, starts, rfl⟩ := head
    rw [List.head?_range] at starts
    split at starts
    · cases starts
    · cases starts
      rw [Nat.zero_mul, Nat.zero_div]
  below _ := evenlySpaced_lt
  gaps := evenlySpaced_gaps length count

/-- No place wraps if the product of the length and the count fits in a word. -/
theorem toNat_evenlySpacedWords {length count : UInt64}
    (fits : length.toNat * count.toNat < 2 ^ 64) :
    (evenlySpacedWords length count).map UInt64.toNat =
      evenlySpaced length.toNat count.toNat := by
  have smaller : (min count length).toNat = min count.toNat length.toNat := by
    rw [UInt64.toNat_min]
  rw [evenlySpacedWords, evenlySpaced, List.map_map, smaller]
  refine List.map_congr_left fun place member => ?_
  have below := (List.mem_range.mp member).trans_le (Nat.min_le_left _ _)
  have placeFits : place < 2 ^ 64 := below.trans (UInt64.toNat_lt count)
  have productFits : place * length.toNat < 2 ^ 64 := by
    calc place * length.toNat
      _ ≤ count.toNat * length.toNat := Nat.mul_le_mul_right _ below.le
      _ = length.toNat * count.toNat := Nat.mul_comm _ _
      _ < 2 ^ 64 := fits
  simp only [Function.comp, UInt64.toNat_div, UInt64.toNat_mul, UInt64.toNat_ofNat', smaller]
  rw [Nat.mod_eq_of_lt placeFits, Nat.mod_eq_of_lt productFits]

/-- With nodes that have 32-bit numbers the origins of the grids can be computed in words. -/
theorem evenlySpacedWords_nodes {nodes : Nat} (few : nodes ≤ 2 ^ 32)
    (settings : NetworkSettings) :
    (evenlySpacedWords (UInt64.ofNat nodes) settings.neighborhoods.toUInt64).map UInt64.toNat =
      evenlySpaced nodes settings.neighborhoods.toNat := by
  have wordNodes : (UInt64.ofNat nodes).toNat = nodes :=
    UInt64.toNat_ofNat_of_lt' (Nat.lt_of_le_of_lt few (by decide))
  have wordCount : settings.neighborhoods.toUInt64.toNat = settings.neighborhoods.toNat :=
    UInt32.toNat_toUInt64 _
  have fits : nodes * settings.neighborhoods.toNat < 2 ^ 64 := by
    calc nodes * settings.neighborhoods.toNat
      _ ≤ 2 ^ 32 * settings.neighborhoods.toNat := Nat.mul_le_mul_right _ few
      _ < 2 ^ 32 * 2 ^ 32 := Nat.mul_lt_mul_of_pos_left (UInt32.toNat_lt _) (by decide)
      _ = 2 ^ 64 := by decide
  rw [toNat_evenlySpacedWords (by rwa [wordNodes, wordCount]), wordNodes, wordCount]

/-- Without neighborhoods there are no origins. -/
theorem NetworkSettings.neighborhoods_ne_zero {settings : NetworkSettings} {origin : Nat}
    (listed : origin ∈ evenlySpaced length settings.neighborhoods.toNat) :
    settings.neighborhoods ≠ 0 := by
  intro none
  rw [none, UInt32.toNat_zero, evenlySpaced_zero] at listed
  exact List.not_mem_nil listed

namespace Network

/-- Indices spread over a length are as even as whole numbers allow, and can be computed in words
that the product of length and count fits in. The street grids of a network start from nodes of its
highways that are spread in this way, in ascending order: as many as are wanted, or all. -/
theorem origins_spread :
    (∀ length count, SpreadOver length count (evenlySpaced length count)) ∧
    (∀ length count : UInt64, length.toNat * count.toNat < 2 ^ 64 →
      (evenlySpacedWords length count).map UInt64.toNat =
        evenlySpaced length.toNat count.toNat) ∧
    ∀ settings terrain network, generate settings terrain = .ok network →
      ∃ first : NetworkState, highways settings terrain = .ok first ∧
        first.graph.Extends network.graph ∧
        network.origins.Pairwise (· < ·) ∧
        (∀ origin ∈ network.origins,
          ∃ node, first.graph.nodes[origin]? = some node ∧ node.id = origin) ∧
        network.origins.length = min settings.neighborhoods.toNat first.graph.nodes.size ∧
        (first.graph.nodes.size ≤ 2 ^ 32 →
          (evenlySpacedWords (UInt64.ofNat first.graph.nodes.size)
            settings.neighborhoods.toUInt64).map UInt64.toNat = network.origins) := by
  refine ⟨evenlySpaced_spreadOver, fun length count => toNat_evenlySpacedWords, ?_⟩
  intro settings terrain network done
  cases grownInPhases done with
  | @phases first finished script firstPhase scripted secondPhase =>
    have spread := evenlySpaced_spreadOver first.graph.nodes.size settings.neighborhoods.toNat
    refine ⟨first, firstPhase, (NetworkState.growAllStreets_grown secondPhase).extends,
      spread.rising, fun origin member => ?_, spread.size_eq,
      fun few => evenlySpacedWords_nodes few settings⟩
    have known := Array.getElem?_eq_getElem (spread.below origin member)
    exact ⟨_, known, (consistent_highways firstPhase).nodeId known⟩

/-- Three grids on five nodes: the gaps are one, two and two. -/
theorem origins_spread_over_five_nodes :
    ∃ (settings : NetworkSettings) (network : Network) (first : NetworkState),
      generate settings .dryCell = .ok network ∧ highways settings .dryCell = .ok first ∧
      network.origins = [0, 1, 3] ∧ network.origins.Pairwise (· < ·) ∧
      3 = min settings.neighborhoods.toNat first.graph.nodes.size ∧ SpreadOver 5 3 [0, 1, 3] ∧
      (evenlySpacedWords 5 3).map UInt64.toNat = [0, 1, 3] := by
  let settings : NetworkSettings :=
    { highway := ⟨"FFFF".toList, .empty, 0⟩, streets := ⟨"+".toList, .empty, 0⟩,
      neighborhoods := 3 }
  have grown : (generate settings .dryCell).toOption.map Network.origins = some [0, 1, 3] := by
    decide +kernel
  obtain ⟨network, done, origins⟩ := Option.map_eq_some_iff.mp grown
  rw [toOption_eq_some] at done
  have listed : evenlySpaced 5 3 = [0, 1, 3] := by decide
  obtain ⟨spread, words, grids⟩ := origins_spread
  have overFive := spread 5 3
  have inWords := words 5 3 (by decide)
  obtain ⟨first, firstPhase, -, rising, -, counted, -⟩ := grids settings .dryCell network done
  rw [listed] at overFive
  rw [origins] at counted
  exact ⟨settings, network, first, done, firstPhase, origins, rising, counted, overFive,
    inWords.trans listed⟩

end Network

end RoadGrowth
