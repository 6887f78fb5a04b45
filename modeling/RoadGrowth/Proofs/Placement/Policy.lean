import RoadGrowth.Placement.Policy

/-!
# What a policy lets through

A candidate is placed with its own end if every constraint accepts it, and otherwise
with the end that the first failing constraint proposes, if every constraint accepts
that. So whatever end a candidate is placed with, the policy accepts it.
-/

namespace RoadGrowth

namespace Policy

variable {policy : Policy} {candidate : Candidate} {position : Point}

/-- Nothing fails exactly if every constraint accepts. -/
theorem failing?_eq_none : policy.failing? candidate = none ↔ policy.accepts candidate := by
  simp [failing?, accepts]

theorem refused_of_failing? {constraint : Constraint}
    (failing : policy.failing? candidate = some constraint) : policy.accepts candidate = false := by
  rw [← Bool.not_eq_true, ← failing?_eq_none, failing]
  exact Option.some_ne_none constraint

/-- A constraint that refuses fails before all those behind it are asked. -/
theorem failing?_cons_of_refused {constraint : Constraint} {others : List Constraint}
    {adjusts : Bool} (refused : constraint.accepts candidate = false) :
    failing? ⟨constraint :: others, adjusts⟩ candidate = some constraint :=
  List.find?_cons_of_pos (congrArg not refused)

/-- The two ways to be placed. -/
theorem resolve_eq_some_iff :
    policy.resolve candidate = some position ↔
      (policy.accepts candidate ∧ candidate.endPosition = position) ∨
      ∃ constraint, policy.failing? candidate = some constraint ∧ policy.adjusts ∧
        constraint.adjust candidate = some position ∧
        policy.accepts (candidate.withEnd position) := by
  unfold resolve
  cases failing : policy.failing? candidate with
  | none =>
    have accepted := failing?_eq_none.mp failing
    simp [accepted]
  | some constraint =>
    have refused := refused_of_failing? failing
    cases policy.adjusts with
    | false => simp [refused]
    | true =>
      cases proposed : constraint.adjust candidate with
      | none => simp [refused, proposed]
      | some other =>
        cases accepted : policy.accepts (candidate.withEnd other) with
        | false =>
          have unlike : other = position → policy.accepts (candidate.withEnd position) = false :=
            fun same => same ▸ accepted
          simpa [refused, proposed, accepted] using unlike
        | true =>
          have alike : other = position → policy.accepts (candidate.withEnd position) = true :=
            fun same => same ▸ accepted
          simpa [refused, proposed, accepted] using alike

/-- A candidate is accepted with the end it is placed with. -/
theorem accepts_of_resolve (resolved : policy.resolve candidate = some position) :
    policy.accepts (candidate.withEnd position) := by
  rcases resolve_eq_some_iff.mp resolved with ⟨accepted, same⟩ | ⟨_, _, _, _, accepted⟩
  · rw [← same]
    exact accepted
  · exact accepted

end Policy

end RoadGrowth
