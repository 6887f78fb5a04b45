import RoadGrowth.Placement.Candidate

/-!
# Placement policies

A policy is a list of constraints that a candidate must meet. A policy that adjusts
lets the first constraint that fails propose another end once; the proposal counts
only if it meets every constraint.
-/

namespace RoadGrowth

/-- A condition on candidates, with the end it proposes for one that fails. -/
structure Constraint where
  name : String
  accepts : Candidate → Bool
  adjust : Candidate → Option Point := fun _ => none

/-- Constraints in the order in which they are asked. -/
structure Policy where
  constraints : List Constraint := []
  adjusts : Bool := false

namespace Policy

/-- Whether every constraint accepts a candidate. -/
def accepts (policy : Policy) (candidate : Candidate) : Bool :=
  policy.constraints.all fun constraint => constraint.accepts candidate

/-- The first constraint that a candidate fails. -/
def failing? (policy : Policy) (candidate : Candidate) : Option Constraint :=
  policy.constraints.find? fun constraint => !constraint.accepts candidate

/-- The end that a candidate is placed with; nothing if it is rejected. -/
def resolve (policy : Policy) (candidate : Candidate) : Option Point :=
  match policy.failing? candidate with
  | none => some candidate.endPosition
  | some constraint =>
    if policy.adjusts then
      match constraint.adjust candidate with
      | some position =>
        if policy.accepts (candidate.withEnd position) then some position else none
      | none => none
    else
      none

end Policy

end RoadGrowth
