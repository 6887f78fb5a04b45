import Mathlib.Data.List.Forall2
import RoadGrowth.Proofs.Placement.Policy

/-!
# Outcomes of resolving

What a policy makes of a candidate, for any list of constraints. The end that a
candidate is placed with is one that the policy accepts and would not move again. A
candidate that is accepted keeps its end; one that fails has only the proposal of the
first constraint that it fails. Constraints are asked about that candidate and about the
same candidate with the proposed end, and about nothing else.
-/

namespace RoadGrowth

/-- Two constraints answer alike about a candidate, wherever it ends. -/
structure Constraint.SameFor (candidate : Candidate) (left right : Constraint) : Prop where
  accepts_eq : ∀ position,
    left.accepts (candidate.withEnd position) = right.accepts (candidate.withEnd position)
  adjust_eq : left.adjust candidate = right.adjust candidate

namespace Policy

variable {policy other : Policy} {candidate : Candidate} {position : Point}

/-- A candidate that is accepted keeps its end, whether or not the policy adjusts. -/
theorem resolve_of_accepts (accepted : policy.accepts candidate) :
    policy.resolve candidate = some candidate.endPosition := by
  rw [resolve_eq_some_iff]
  exact .inl ⟨accepted, rfl⟩

/-- A candidate that is not accepted can only take the proposal of the constraint that it fails
first. -/
theorem resolve_of_refused (refused : policy.accepts candidate = false) :
    policy.resolve candidate = some position ↔
      policy.adjusts ∧ ∃ constraint, policy.failing? candidate = some constraint ∧
        constraint.adjust candidate = some position ∧
        policy.accepts (candidate.withEnd position) := by
  rw [resolve_eq_some_iff, refused]
  constructor
  · rintro (⟨accepted, -⟩ | ⟨constraint, failing, adjusts, proposed, accepted⟩)
    · cases accepted
    · exact ⟨adjusts, constraint, failing, proposed, accepted⟩
  · rintro ⟨adjusts, constraint, failing, proposed, accepted⟩
    exact .inr ⟨constraint, failing, adjusts, proposed, accepted⟩

/-- The constraint that fails first stands behind constraints that accept. -/
theorem failing?_eq_some_iff {constraint : Constraint} :
    policy.failing? candidate = some constraint ↔
      constraint.accepts candidate = false ∧
      ∃ passed others, policy.constraints = passed ++ constraint :: others ∧
        ∀ earlier ∈ passed, earlier.accepts candidate := by
  simp [failing?, List.find?_eq_some_iff_append]

/-! ## Policies that answer alike -/

section SameFor

variable {constraints others : List Constraint}
  (same : List.Forall₂ (Constraint.SameFor candidate) constraints others)

include same

theorem all_accepts_eq (position : Point) :
    (constraints.all fun constraint => constraint.accepts (candidate.withEnd position)) =
      others.all fun constraint => constraint.accepts (candidate.withEnd position) := by
  induction same with
  | nil => rfl
  | cons head _ ih => rw [List.all_cons, List.all_cons, head.accepts_eq position, ih]

/-- Lists of constraints that answer alike fail at the same place. -/
theorem rel_find?_failing :
    Option.Rel (Constraint.SameFor candidate)
      (constraints.find? fun constraint => !constraint.accepts candidate)
      (others.find? fun constraint => !constraint.accepts candidate) := by
  induction same with
  | nil => exact .none
  | @cons left right _ _ head _ ih =>
    have asked : left.accepts candidate = right.accepts candidate :=
      head.accepts_eq candidate.endPosition
    cases accepted : right.accepts candidate with
    | false => simpa [asked, accepted] using head
    | true => simpa [asked, accepted] using ih

end SameFor

/-- What constraints answer about other candidates does not matter. -/
theorem resolve_congr (sameAdjusts : policy.adjusts = other.adjusts)
    (same : List.Forall₂ (Constraint.SameFor candidate) policy.constraints other.constraints) :
    policy.resolve candidate = other.resolve candidate := by
  have accepts : ∀ position, policy.accepts (candidate.withEnd position) =
      other.accepts (candidate.withEnd position) := all_accepts_eq same
  have failing : Option.Rel (Constraint.SameFor candidate) (policy.failing? candidate)
      (other.failing? candidate) := rel_find?_failing same
  unfold resolve
  rw [sameAdjusts]
  generalize policy.failing? candidate = left at failing
  generalize other.failing? candidate = right at failing
  cases failing with
  | none => rfl
  | some alike => simp only [alike.adjust_eq, accepts]

/-! ## All outcomes -/

/-- All that resolving does, for any constraints. The end of a placed candidate is accepted and
stays when it is resolved again, with the start, rotation and class as they were. An accepted
candidate keeps its end, with adjustment or without; without it no other is placed. With it, one
that fails is placed exactly at the end that the first failing constraint proposes, and only if
every constraint accepts that. No constraint is asked about a candidate that differs from the
given one in more than its end. -/
theorem resolve_outcomes (policy : Policy) (candidate : Candidate) :
    (∀ position, policy.resolve candidate = some position →
      let placed : Candidate := ⟨candidate.start, candidate.startPosition, position,
        candidate.rotation, candidate.roadClass⟩
      policy.accepts placed ∧ policy.resolve placed = some position) ∧
    (policy.accepts candidate → ∀ adjusts,
      { policy with adjusts }.resolve candidate = some candidate.endPosition) ∧
    (policy.adjusts = false → ((policy.resolve candidate).isSome ↔ policy.accepts candidate)) ∧
    (policy.adjusts = true → policy.accepts candidate = false → ∀ position,
      (policy.resolve candidate = some position ↔
        ∃ passed failing others, policy.constraints = passed ++ failing :: others ∧
          (∀ constraint ∈ passed, constraint.accepts candidate) ∧
          failing.accepts candidate = false ∧ failing.adjust candidate = some position ∧
          ∀ constraint ∈ policy.constraints, constraint.accepts (candidate.withEnd position))) ∧
    ∀ other : Policy, policy.adjusts = other.adjusts →
      List.Forall₂ (Constraint.SameFor candidate) policy.constraints other.constraints →
        policy.resolve candidate = other.resolve candidate := by
  refine ⟨?stable, ?conservative, ?strict, ?adjusting, fun other => resolve_congr⟩
  case stable =>
    intro position resolved
    have accepted := accepts_of_resolve resolved
    exact ⟨accepted, resolve_of_accepts accepted⟩
  case conservative =>
    intro accepted adjusts
    exact resolve_of_accepts accepted
  case strict =>
    intro strict
    constructor
    · intro placed
      by_contra refused
      obtain ⟨position, resolved⟩ := Option.isSome_iff_exists.mp placed
      obtain ⟨adjusts, -⟩ := (resolve_of_refused (eq_false_of_ne_true refused)).mp resolved
      rw [strict] at adjusts
      cases adjusts
    · intro accepted
      rw [resolve_of_accepts accepted]
      rfl
  case adjusting =>
    intro adjusts refused position
    rw [resolve_of_refused refused]
    simp only [failing?_eq_some_iff, accepts, List.all_eq_true]
    constructor
    · rintro ⟨-, failing, ⟨fails, passed, others, listed, before⟩, proposed, accepted⟩
      exact ⟨passed, failing, others, listed, before, fails, proposed, accepted⟩
    · rintro ⟨passed, failing, others, listed, before, fails, proposed, accepted⟩
      exact ⟨adjusts, failing, ⟨fails, passed, others, listed, before⟩, proposed, accepted⟩

/-- A limit on one axis that moves ends back onto itself, and a limit on the other that proposes
nothing: an end beyond the first is moved, and rejected if it lies beyond the second too. -/
theorem resolve_outcomes_of_two_limits :
    ∃ policy : Policy, policy.adjusts ∧
      policy.resolve ⟨0, .origin, ⟨1.5, 0.5⟩, 0.25, .road⟩ = some ⟨1.0, 0.5⟩ ∧
      policy.resolve ⟨0, .origin, ⟨1.0, 0.5⟩, 0.25, .road⟩ = some ⟨1.0, 0.5⟩ ∧
      policy.resolve ⟨0, .origin, ⟨1.5, -0.5⟩, 0.25, .road⟩ = none := by
  let upper : Constraint :=
    ⟨"upper", fun candidate => candidate.endPosition.x ≤ 1.0,
      fun candidate => some ⟨1.0, candidate.endPosition.y⟩⟩
  let lower : Constraint := ⟨"lower", fun candidate => 0.0 ≤ candidate.endPosition.y, fun _ => none⟩
  let policy : Policy := ⟨[upper, lower], true⟩
  obtain ⟨stable, -, -, adjusting, -⟩ :=
    resolve_outcomes policy ⟨0, .origin, ⟨1.5, 0.5⟩, 0.25, .road⟩
  have moved := (adjusting rfl (by decide +kernel) ⟨1.0, 0.5⟩).mpr
    ⟨[], upper, [lower], rfl, by simp, by decide +kernel, rfl, by decide +kernel⟩
  obtain ⟨-, again⟩ := stable _ moved
  exact ⟨policy, rfl, moved, again, by decide +kernel⟩

end Policy

end RoadGrowth
