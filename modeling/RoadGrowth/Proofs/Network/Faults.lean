import RoadGrowth.Proofs.Grammar.SymbolTable
import RoadGrowth.Proofs.Graph.Lookups
import RoadGrowth.Proofs.Network.Origins
import RoadGrowth.Proofs.Network.Settings
import RoadGrowth.Proofs.Random.Range
import RoadGrowth.Proofs.Turtle.Tokens

/-!
# Where growing a network faults

Turtles stay in step with the graph, streets start from nodes, and every look-up is by
a number that is a place. So with accepted settings the only fault left is that of a
jitter without bounds. A limit given in a script is in degrees and never too large;
only the limit of the settings can be, and then a single jitter in the script of the
highways is enough.
-/

namespace RoadGrowth

open Numeric

/-! ## Runs -/

/-- A jitter has a limit up to the widest one; other rules have none. -/
def Rule.Bounded : Rule → Prop
  | .jitter _ limit => limit.abs ≤ Random.widestLimit
  | _ => True

/-- All rules of a table are bounded. -/
def RulesBounded (rules : SymbolTable Rule) : Prop :=
  ∀ symbol rule, rules.get? symbol = some rule → rule.Bounded

theorem RulesBounded.insert {rules : SymbolTable Rule} (bounded : RulesBounded rules)
    (symbol : Char) {rule : Rule} (ruleBounded : rule.Bounded) :
    RulesBounded (rules.insert symbol rule) := by
  intro other found bound
  rw [SymbolTable.get?_insert] at bound
  split at bound
  · cases bound
    exact ruleBounded
  · exact bounded other found bound

theorem rulesBounded_standard (seed : UInt64) (land : Option Terrain) :
    RulesBounded (Interpreter.standard seed land).rules := by
  have usual : eighthPi.abs ≤ Random.widestLimit := by decide +kernel
  intro symbol rule bound
  have member := SymbolTable.mem_of_get?_ofList bound
  simp only [List.mem_cons, Prod.mk.injEq, List.not_mem_nil, or_false] at member
  rcases member with ⟨-, rfl⟩ | ⟨-, rfl⟩ | ⟨-, rfl⟩ | ⟨-, rfl⟩ | ⟨-, rfl⟩ | ⟨-, rfl⟩ | ⟨-, rfl⟩ |
    ⟨-, rfl⟩ <;> first | exact usual | exact trivial

/-- A jitter fails only with the limit of its rule, never with one given in the script. -/
theorem unbounded_of_jitterAt {seed site : UInt64} {limit : Float32} {literal : Literal}
    {fault : Fault}
    (failed : jitterAt seed site ((literal.value?.map radians).getD limit) = .error fault) :
    fault = .unboundedRange ∧ ¬limit.abs ≤ Random.widestLimit := by
  refine ⟨Rule.fault_of_jitterAt failed, fun bounded => ?_⟩
  have within : ((literal.value?.map radians).getD limit).abs ≤ Random.widestLimit := by
    cases given : literal.value? with
    | none => exact bounded
    | some degrees => exact abs_radians_le (Literal.value?_eq_some_iff.mp given).2.2
  obtain ⟨offset, done⟩ := (jitterAt_eq seed site _).1 within
  rw [done] at failed
  cases failed

/-- A run of a turtle that stands on the graph fails only with a rule that is not bounded. -/
theorem Interpreter.unbounded_of_run {interpreter : Interpreter} {turtle : Turtle} {graph : Graph}
    (reachable : graph.Reachable) (stands : turtle.StandsOn graph) {script : Script}
    {fault : Fault} (failed : interpreter.run script turtle graph = .error fault) :
    fault = .unboundedRange ∧ ¬RulesBounded interpreter.rules := by
  obtain ⟨before, token, after, reached, -, reaches, site, stops⟩ :=
    Run.fault_of_takeAll (takeAll_of_failed_run failed)
  have inStep := (Run.takeAll_invariant
    (fun drawing => drawing.graph.Reachable ∧ drawing.InStep)
    (fun acted holds => ⟨holds.1.later acted.grown, holds.2.acted holds.1.consistent acted⟩)
    ⟨reachable, stands, fun _ none => absurd none List.not_mem_nil⟩ reaches).2
  rcases Run.jitter_of_failed_take stops with ⟨seed, limit, bound, unbounded⟩ | missing
  · obtain ⟨rfl, beyond⟩ := unbounded_of_jitterAt unbounded
    exact ⟨rfl, fun bounded => beyond (bounded _ _ bound)⟩
  · obtain ⟨node, known, -⟩ := inStep.active
    rw [known] at missing
    cases missing

/-- A single jitter without bounds is a fault. -/
theorem Interpreter.run_jitter {interpreter : Interpreter} {seed : UInt64} {limit : Float32}
    (bound : interpreter.rules.get? '~' = some (.jitter seed limit))
    (beyond : ¬limit.abs ≤ Random.widestLimit) {turtle : Turtle} (active : turtle.ended = false)
    (graph : Graph) : interpreter.run ['~'] turtle graph = .error .unboundedRange := by
  have failed : (Rule.jitter seed limit).apply (siteOf interpreter.runs 0) none
      ⟨turtle, [], graph⟩ = .error .unboundedRange :=
    bind_eq_error.mpr (.inl ((jitterAt_eq seed _ limit).2 beyond))
  have stops : Run.take interpreter.rules ⟨⟨turtle, [], graph⟩, {}⟩ (siteOf interpreter.runs 0)
      ⟨'~', .absent⟩ = .error .unboundedRange := by
    simp only [Run.take, bound, Run.apply, active, Bool.false_and, Bool.false_eq_true, if_false,
      Literal.value?]
    exact bind_eq_error.mpr (.inl failed)
  have scanned : Token.scan ['~'] = [⟨'~', .absent⟩] := rfl
  refine bind_eq_error.mpr (.inl ?_)
  rw [scanned, Run.takeAll, stops]

/-! ## States of the growth -/

namespace NetworkSettings

/-- The only jitter of a network is that of the settings. -/
theorem rulesBounded_interpreter {settings : NetworkSettings} (terrain : Terrain)
    (bounded : settings.jitterLimit.abs ≤ Random.widestLimit) :
    RulesBounded (settings.interpreter terrain).rules := by
  refine RulesBounded.insert (RulesBounded.insert (RulesBounded.insert
    (RulesBounded.insert (rulesBounded_standard _ _) '~' ?_) 'P' ?_) 'p' ?_) 'S' ?_
  · exact bounded
  all_goals exact trivial

theorem get?_jitter (settings : NetworkSettings) (terrain : Terrain) :
    (settings.interpreter terrain).rules.get? '~' =
      some (.jitter settings.roadSeed settings.jitterLimit) := by
  simp [interpreter, Interpreter.bind, SymbolTable.get?_insert]

end NetworkSettings

namespace NetworkState

/-- The rules are those of the settings, and the graph has grown from the root. -/
structure Ready (settings : NetworkSettings) (terrain : Terrain) (state : NetworkState) : Prop where
  rules : state.interpreter.rules = (settings.interpreter terrain).rules
  grown : (settings.rooted terrain).Grown state.graph

/-- How a step of the growth may end: with a larger graph, or at a jitter without bounds. -/
inductive Continues (settings : NetworkSettings) (terrain : Terrain) (state : NetworkState) :
    Except Problem NetworkState → Prop where
  | grew {next : NetworkState} (ready : next.Ready settings terrain)
    (grown : state.graph.Grown next.graph) : Continues settings terrain state (.ok next)
  | unbounded (beyond : ¬settings.jitterLimit.abs ≤ Random.widestLimit) :
    Continues settings terrain state (.error (.fault .unboundedRange))

variable {settings : NetworkSettings} {terrain : Terrain} {state : NetworkState}

theorem Continues.ready {next : NetworkState}
    (continues : Continues settings terrain state (.ok next)) : next.Ready settings terrain := by
  cases continues with
  | grew ready => exact ready

theorem Continues.problem_eq {problem : Problem}
    (continues : Continues settings terrain state (.error problem)) :
    problem = .fault .unboundedRange ∧ ¬settings.jitterLimit.abs ≤ Random.widestLimit := by
  cases continues with
  | unbounded beyond => exact ⟨rfl, beyond⟩

theorem Ready.reachable (ready : state.Ready settings terrain) : state.graph.Reachable :=
  (Graph.reachable_ofRoot _ _ _ _).later ready.grown

theorem Ready.run (ready : state.Ready settings terrain) {turtle : Turtle}
    (stands : turtle.StandsOn state.graph) (script : Script) :
    Continues settings terrain state (state.run script turtle) := by
  cases ran : state.interpreter.run script turtle state.graph with
  | error fault =>
    obtain ⟨rfl, unbounded⟩ := Interpreter.unbounded_of_run ready.reachable stands ran
    have failed : state.run script turtle = .error (.fault .unboundedRange) := by
      simp only [NetworkState.run, ran]
    rw [failed]
    refine .unbounded fun bounded => unbounded ?_
    rw [ready.rules]
    exact settings.rulesBounded_interpreter terrain bounded
  | ok outcome =>
    obtain ⟨interpreter, summary, graph⟩ := outcome
    have done : state.run script turtle = .ok ⟨interpreter, graph⟩ := by
      simp only [NetworkState.run, ran]
    have grown := run_grown done
    rw [done]
    refine .grew ⟨?_, ready.grown.trans grown⟩ grown
    rw [← ready.rules]
    exact Interpreter.rules_of_run ran

/-- A street grid has a turtle at every node, and it stands there. -/
theorem streetTurtle_eq_ok {graph : Graph} (consistent : graph.Consistent)
    (settings : NetworkSettings) {origin : Nat} (present : origin < graph.nodes.size) :
    ∃ turtle, streetTurtle graph settings origin = .ok turtle ∧ turtle.StandsOn graph := by
  have known := Array.getElem?_eq_getElem present
  obtain ⟨heading, arrived, -⟩ := exists_arrival consistent known
  exact ⟨_, streetTurtle_of_arrival settings known arrived, _, known, rfl⟩

theorem Ready.growStreets (ready : state.Ready settings terrain) (script : Script) {origin : Nat}
    (present : origin < state.graph.nodes.size) :
    Continues settings terrain state (growStreets settings script state origin) := by
  obtain ⟨turtle, started, stands⟩ :=
    streetTurtle_eq_ok ready.reachable.consistent settings present
  unfold NetworkState.growStreets
  rw [started]
  exact ready.run stands script

/-- Street grids from any nodes, by induction on the nodes left: those of a smaller graph are
nodes of a larger one. -/
theorem Ready.growAllStreets (ready : state.Ready settings terrain) (script : Script)
    {origins : List Nat} (present : ∀ origin ∈ origins, origin < state.graph.nodes.size) :
    Continues settings terrain state
      (origins.foldlM (NetworkState.growStreets settings script) state) := by
  induction origins generalizing state with
  | nil => exact .grew ready .refl
  | cons origin rest ih =>
    rw [List.foldlM_cons]
    have first := ready.growStreets script (present origin List.mem_cons_self)
    generalize NetworkState.growStreets settings script state origin = outcome at first
    cases first with
    | unbounded beyond => exact .unbounded beyond
    | @grew middle middleReady grown =>
      have later : Continues settings terrain middle
          (rest.foldlM (NetworkState.growStreets settings script) middle) :=
        ih middleReady fun other member =>
          (present other (List.mem_cons_of_mem _ member)).trans_le grown.size_le
      change Continues settings terrain state
        (rest.foldlM (NetworkState.growStreets settings script) middle)
      generalize rest.foldlM (NetworkState.growStreets settings script) middle = last at later
      cases later with
      | unbounded beyond => exact .unbounded beyond
      | grew lastReady lastGrown => exact .grew lastReady (grown.trans lastGrown)

end NetworkState

/-! ## Growing a network -/

/-- The grammar of a single jitter. -/
def GrammarSettings.jitter : GrammarSettings := ⟨['~'], .empty, 0⟩

theorem NetworkSettings.overflow_of_script {settings : NetworkSettings} {grammar : GrammarSettings}
    {problem : Problem} (failed : settings.script grammar = .error problem) :
    ∃ overflow, problem = .overflow overflow := by
  unfold script at failed
  split at failed
  · cases failed
  · cases failed
    exact ⟨_, rfl⟩

namespace Network

variable {settings : NetworkSettings} {terrain : Terrain}

/-- The highways grow by one run from the root. -/
theorem growHighways_continues (settings : NetworkSettings) (terrain : Terrain) (script : Script) :
    NetworkState.Continues settings terrain
      ⟨settings.interpreter terrain, settings.rooted terrain⟩
      (NetworkState.run ⟨settings.interpreter terrain, settings.rooted terrain⟩ script
        (settings.highwayTurtle.spawn settings.root 0)) :=
  NetworkState.Ready.run ⟨rfl, .refl⟩ ⟨_, rfl, rfl⟩ script

/-- With accepted settings only the length of a script or a jitter without bounds is a problem. -/
theorem problem_of_generate (accepted : settings.check = .ok ()) {problem : Problem}
    (failed : generate settings terrain = .error problem) :
    (∃ overflow, problem = .overflow overflow) ∨
      problem = .fault .unboundedRange ∧ ¬settings.jitterLimit.abs ≤ Random.widestLimit := by
  have checked := NetworkSettings.checked_eq_ok.mpr ⟨accepted, rfl⟩
  unfold generate at failed
  rw [checked] at failed
  rcases bind_eq_error.mp failed with none | ⟨_, same, inHighways⟩
  · cases none
  cases same
  rw [ungrown_eq] at inHighways
  rcases bind_eq_error.mp inHighways with none | ⟨_, same, inHighways⟩
  · cases none
  cases same
  rcases bind_eq_error.mp inHighways with inHighways | ⟨highways, grown, inStreets⟩
  · rcases bind_eq_error.mp inHighways with overflow | ⟨script, -, inRun⟩
    · exact .inl (NetworkSettings.overflow_of_script overflow)
    · exact .inr (inRun ▸ growHighways_continues settings terrain script).problem_eq
  · obtain ⟨script, -, ran⟩ := bind_eq_ok.mp grown
    have ready := (ran ▸ growHighways_continues settings terrain script).ready
    dsimp only at inStreets
    split at inStreets
    · cases inStreets
    · rcases bind_eq_error.mp inStreets with overflow | ⟨streets, -, inRuns⟩
      · exact .inl (NetworkSettings.overflow_of_script overflow)
      · rcases bind_eq_error.mp inRuns with inRuns | ⟨finished, -, none⟩
        · have present : ∀ origin ∈ evenlySpaced highways.graph.nodes.size
              settings.neighborhoods.toNat, origin < highways.graph.nodes.size :=
            fun _ => evenlySpaced_lt
          exact .inr (inRuns ▸ ready.growAllStreets streets present).problem_eq
        · cases none

/-- A jitter without bounds as the script of the highways is a fault. -/
theorem generate_jitter (accepted : settings.check = .ok ()) (single : settings.highway = .jitter)
    (beyond : ¬settings.jitterLimit.abs ≤ Random.widestLimit) (terrain : Terrain) :
    generate settings terrain = .error (.fault .unboundedRange) := by
  have checked := NetworkSettings.checked_eq_ok.mpr ⟨accepted, rfl⟩
  have script : settings.script settings.highway = .ok ['~'] := by
    rw [single]
    rfl
  have active : (settings.highwayTurtle.spawn settings.root 0).ended = false := rfl
  have failed : NetworkState.run ⟨settings.interpreter terrain, settings.rooted terrain⟩ ['~']
      (settings.highwayTurtle.spawn settings.root 0) = .error (.fault .unboundedRange) := by
    simp only [NetworkState.run, Interpreter.run_jitter (settings.get?_jitter terrain) beyond active]
  refine bind_eq_error.mpr (.inr ⟨settings, checked, ?_⟩)
  refine bind_eq_error.mpr (.inr ⟨_, ungrown_eq settings terrain, ?_⟩)
  refine bind_eq_error.mpr (.inl ?_)
  exact bind_eq_error.mpr (.inr ⟨['~'], script, failed⟩)

/-- With accepted settings a network is grown or a script is too long, whatever the grammars,
exactly if the jitter limit is at most the widest one; otherwise a jitter may have no bounds. There
is no other fault, and along the way every look-up is by a number that is a place. -/
theorem generate_total_iff (accepted : settings.check = .ok ()) (terrain : Terrain) :
    ((∀ highway streets : GrammarSettings, highway.start ≠ [] → streets.start ≠ [] →
        (∃ network, generate { settings with highway, streets } terrain = .ok network) ∨
        ∃ overflow,
          generate { settings with highway, streets } terrain = .error (.overflow overflow)) ↔
      settings.jitterLimit.abs ≤ Random.widestLimit) ∧
    (∀ fault, generate settings terrain = .error (.fault fault) → fault = .unboundedRange) ∧
    ∀ graph, (settings.rooted terrain).Grown graph → graph.Closed := by
  have withScripts : ∀ highway streets : GrammarSettings, highway.start ≠ [] →
      streets.start ≠ [] → { settings with highway, streets }.check = .ok () :=
    fun highway streets highwayStart streetsStart => NetworkSettings.check_eq_ok.mpr
      ((NetworkSettings.check_eq_ok.mp accepted).withScripts highwayStart streetsStart)
  refine ⟨⟨fun total => ?_, fun bounded highway streets highwayStart streetsStart => ?_⟩,
    fun fault failed => ?_, fun graph grown => ?_⟩
  · by_contra beyond
    have highwayStart : GrammarSettings.jitter.start ≠ [] := List.cons_ne_nil _ _
    have streetsStart := (NetworkSettings.check_eq_ok.mp accepted).streets_start
    have failed := generate_jitter (withScripts _ _ highwayStart streetsStart) rfl beyond terrain
    rcases total _ _ highwayStart streetsStart with ⟨_, done⟩ | ⟨_, done⟩ <;>
      exact absurd (failed.symm.trans done) (by simp)
  · cases grown : generate { settings with highway, streets } terrain with
    | ok network => exact .inl ⟨network, rfl⟩
    | error problem =>
      rcases problem_of_generate (withScripts highway streets highwayStart streetsStart) grown with
        ⟨overflow, rfl⟩ | ⟨-, beyond⟩
      · exact .inr ⟨overflow, rfl⟩
      · exact absurd bounded beyond
  · rcases problem_of_generate accepted failed with ⟨_, same⟩ | ⟨same, -⟩ <;> cases same
    rfl
  · exact ((Graph.reachable_ofRoot _ _ _ _).later grown).closed

/-- The usual settings, whose jitter limit is small. -/
theorem generate_total_with_usual_limit :
    ({} : NetworkSettings).check = .ok () ∧
    (∀ highway streets : GrammarSettings, highway.start ≠ [] → streets.start ≠ [] →
      (∃ network, generate { highway, streets } .dryCell = .ok network) ∨
      ∃ overflow, generate { highway, streets } .dryCell = .error (.overflow overflow)) := by
  have accepted : ({} : NetworkSettings).check = .ok () := by decide +kernel
  obtain ⟨total, -, -⟩ := generate_total_iff accepted .dryCell
  exact ⟨accepted, total.mpr (by decide +kernel)⟩

/-- A jitter limit that is finite and accepted, and too large for the jitter it is meant for. -/
theorem exists_accepted_fault : ∃ settings : NetworkSettings,
    settings.jitterLimit = Float32.ofBits 0x7f7fffff ∧ settings.highway.start = ['~'] ∧
      settings.check = .ok () ∧
      generate settings .dryCell = .error (.fault .unboundedRange) := by
  let settings : NetworkSettings :=
    { highway := .jitter, neighborhoods := 0, jitterLimit := Float32.ofBits 0x7f7fffff }
  have accepted : settings.check = .ok () := by decide +kernel
  exact ⟨settings, rfl, rfl, accepted, generate_jitter accepted rfl (by decide +kernel) .dryCell⟩

end Network

end RoadGrowth
