import RoadGrowth.Graph.Nearest
import RoadGrowth.Proofs.Numeric.Order

/-!
# Hits

A search answers with the hit that precedes all hits within the radius: the nearer one
first, and of equally near ones the lower number. Both ways of taking hits one by one
end there: with the tie-break from hits in any order, and without it from hits in
ascending order of their numbers.
-/

namespace RoadGrowth

open Numeric

namespace Graph

variable {radius : Float32}

/-- A hit is nearer than another, or as near and not of a higher number. -/
def Hit.Precedes (hit other : Hit) : Prop :=
  rank hit.distance < rank other.distance ∨
    rank hit.distance = rank other.distance ∧ hit.node ≤ other.node

/-- What a search through hits answers: the one that precedes all within the radius. -/
inductive Answers (radius : Float32) (hits : List Hit) : Option Hit → Prop where
  | nothing (outside : ∀ hit ∈ hits, ¬hit.distance ≤ radius) : Answers radius hits none
  | found {best : Hit} (member : best ∈ hits) (within : best.distance ≤ radius)
    (first : ∀ hit ∈ hits, hit.distance ≤ radius → best.Precedes hit) :
    Answers radius hits (some best)

/-! ## Preceding hits -/

theorem Hit.Precedes.refl (hit : Hit) : hit.Precedes hit := .inr ⟨rfl, le_rfl⟩

theorem Hit.Precedes.trans {first second third : Hit} (left : first.Precedes second)
    (right : second.Precedes third) : first.Precedes third := by
  unfold Precedes at *
  omega

theorem Hit.Precedes.node_eq {left right : Hit} (forward : left.Precedes right)
    (backward : right.Precedes left) : left.node = right.node := by
  unfold Precedes at *
  omega

/-- Among more hits the answer stays, if it still stands. -/
theorem Answers.node_eq {hits all : List Hit} {found best : Hit}
    (answers : Answers radius hits (some found)) (answersAll : Answers radius all (some best))
    (subset : hits ⊆ all) (member : best ∈ hits) : found.node = best.node := by
  cases answers with
  | found foundMember foundWithin foundFirst =>
    cases answersAll with
    | found _ bestWithin bestFirst =>
      exact (foundFirst best member bestWithin).node_eq
        (bestFirst found (subset foundMember) foundWithin)

/-! ## Folds -/

variable {hits : List Hit} {best : Option Hit} {hit : Hit}

/-- A hit that is not within the radius changes no answer. -/
theorem Answers.skip (answers : Answers radius hits best) (outside : ¬hit.distance ≤ radius) :
    Answers radius (hits ++ [hit]) best := by
  cases answers with
  | nothing none =>
    refine .nothing fun other member => ?_
    rcases List.mem_append.mp member with old | last
    · exact none other old
    · rwa [List.mem_singleton.mp last]
  | found member within first =>
    refine .found (List.mem_append_left _ member) within fun other otherMember otherWithin => ?_
    rcases List.mem_append.mp otherMember with old | last
    · exact first other old otherWithin
    · rw [List.mem_singleton.mp last] at otherWithin
      exact absurd otherWithin outside

/-- The best hit so far stays if it precedes the next one. -/
theorem Answers.keep {best : Hit} (answers : Answers radius hits (some best))
    (precedes : best.Precedes hit) : Answers radius (hits ++ [hit]) (some best) := by
  cases answers with
  | found member within first =>
    refine .found (List.mem_append_left _ member) within fun other otherMember otherWithin => ?_
    rcases List.mem_append.mp otherMember with old | last
    · exact first other old otherWithin
    · rw [List.mem_singleton.mp last]
      exact precedes

/-- The next hit replaces what it precedes. -/
theorem Answers.replace (answers : Answers radius hits best) (within : hit.distance ≤ radius)
    (precedes : ∀ other ∈ best, hit.Precedes other) :
    Answers radius (hits ++ [hit]) (some hit) := by
  refine .found (List.mem_append_right _ List.mem_cons_self) within
    fun other member otherWithin => ?_
  rcases List.mem_append.mp member with old | last
  · cases answers with
    | nothing none => exact absurd otherWithin (none other old)
    | found _ _ first => exact (precedes _ rfl).trans (first other old otherWithin)
  · rw [List.mem_singleton.mp last]
    exact .refl hit

theorem answers_orNearer (radiusNumber : radius.isNaN = false)
    (number : hit.distance.isNaN = false) (answers : Answers radius hits best) :
    Answers radius (hits ++ [hit]) (Hit.orNearer radius best hit) := by
  unfold Hit.orNearer
  split
  · rename_i beyond
    refine answers.skip fun within => ?_
    have inside := (le_iff.mp within).2.2
    have outside := (lt_iff.mp beyond).2.2
    omega
  · rename_i notBeyond
    have within : hit.distance ≤ radius := by
      refine le_iff.mpr ⟨number, radiusNumber, ?_⟩
      by_contra above
      exact notBeyond (lt_iff.mpr ⟨radiusNumber, number, not_le.mp above⟩)
    cases answers with
    | nothing none => exact (Answers.nothing none).replace within fun other same => by cases same
    | @found best member bestWithin first =>
      have answers := Answers.found member bestWithin first
      have bestNumber := (le_iff.mp bestWithin).1
      dsimp only
      split
      · rename_i nearer
        refine answers.replace within fun other same => ?_
        cases same
        simp only [Bool.or_eq_true, Bool.and_eq_true, decide_eq_true_eq, lt_iff, beq_iff] at nearer
        unfold Hit.Precedes
        omega
      · rename_i notNearer
        refine answers.keep ?_
        simp only [Bool.or_eq_true, Bool.and_eq_true, decide_eq_true_eq, lt_iff, beq_iff, number,
          bestNumber, true_and] at notNearer
        unfold Hit.Precedes
        omega

theorem answers_orLater (number : hit.distance.isNaN = false)
    (later : ∀ other ∈ hits, other.node < hit.node) (answers : Answers radius hits best) :
    Answers radius (hits ++ [hit]) (Hit.orLater radius best hit) := by
  unfold Hit.orLater
  split
  · rename_i within
    cases answers with
    | nothing none => exact (Answers.nothing none).replace within fun other same => by cases same
    | @found best member bestWithin first =>
      have answers := Answers.found member bestWithin first
      have bestNumber := (le_iff.mp bestWithin).1
      have lower := later best member
      dsimp only
      split
      · rename_i nearer
        refine answers.replace within fun other same => ?_
        cases same
        exact .inl (lt_iff.mp nearer).2.2
      · rename_i notNearer
        refine answers.keep ?_
        simp only [lt_iff, number, bestNumber, true_and] at notNearer
        unfold Hit.Precedes
        omega
  · rename_i outside
    exact answers.skip outside

theorem answers_foldl_orNearer (radiusNumber : radius.isNaN = false)
    (numbers : ∀ hit ∈ hits, hit.distance.isNaN = false) :
    Answers radius hits (hits.foldl (Hit.orNearer radius) none) := by
  induction hits using List.reverseRecOn with
  | nil => exact .nothing fun hit member => by cases member
  | append_singleton hits hit ih =>
    rw [List.foldl_append]
    exact answers_orNearer radiusNumber (numbers hit (by simp))
      (ih fun other member => numbers other (List.mem_append_left _ member))

theorem answers_foldl_orLater (radius : Float32)
    (numbers : ∀ hit ∈ hits, hit.distance.isNaN = false)
    (ascending : hits.Pairwise fun left right => left.node < right.node) :
    Answers radius hits (hits.foldl (Hit.orLater radius) none) := by
  induction hits using List.reverseRecOn with
  | nil => exact .nothing fun hit member => by cases member
  | append_singleton hits hit ih =>
    rw [List.foldl_append]
    obtain ⟨before, -, later⟩ := List.pairwise_append.mp ascending
    exact answers_orLater (numbers hit (by simp))
      (fun other member => later other member hit List.mem_cons_self)
      (ih (fun other member => numbers other (List.mem_append_left _ member)) before)

end Graph

end RoadGrowth
