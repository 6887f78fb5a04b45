import RoadGrowth.Proofs.Network.Phases

/-!
# Road classes

No rule changes the class that a turtle draws or the factors that its measures shrink
by, and what is saved or gone back to are copies of the turtle. So all turtles of a run
are like the first one in these respects, and all segments of the run have its class. A
network has one turtle for its highways and one for all its streets, so either phase
draws one class.
-/

namespace RoadGrowth

/-- Turtles that draw one class and shrink their measures by the same factors. -/
def Turtle.Like (first turtle : Turtle) : Prop :=
  turtle.roadClass = first.roadClass ∧ turtle.lengthScale = first.lengthScale ∧
    turtle.angleScale = first.angleScale

/-- The segments from a number on have a class. -/
def Graph.ClassFrom (bound : Nat) (roadClass : RoadClass) (graph : Graph) : Prop :=
  ∀ (number : Nat) (segment : Segment), bound ≤ number →
    graph.segments[number]? = some segment → segment.roadClass = roadClass

/-- All turtles are like a first one, and the segments from a number on have its class. -/
structure Drawing.Like (first : Turtle) (bound : Nat) (drawing : Drawing) : Prop where
  active : first.Like drawing.turtle
  saved : ∀ turtle ∈ drawing.saved, first.Like turtle
  drawn : drawing.graph.ClassFrom bound first.roadClass

/-! ## Steps and runs -/

theorem Graph.ClassFrom.grew {graph next : Graph} {candidate : Candidate} {growth : Option Growth}
    {bound : Nat} (holds : graph.ClassFrom bound candidate.roadClass)
    (grew : Grew graph candidate next growth) : next.ClassFrom bound candidate.roadClass := by
  -- A new segment has the class of the candidate.
  have pushed : ∀ added : Segment, added.roadClass = candidate.roadClass →
      ∀ number segment, bound ≤ number → (graph.segments.push added)[number]? = some segment →
        segment.roadClass = candidate.roadClass := by
    intro added same number segment above known
    rw [Array.getElem?_push] at known
    split at known
    · cases known
      exact same
    · exact holds number segment above known
  cases grew with
  | rejected => exact holds
  | joined => exact pushed _ rfl
  | extended => exact pushed _ rfl

/-- Whatever a rule does, turtles stay like the first one and so do segments. -/
theorem Drawing.Like.acted {first : Turtle} {bound : Nat} {drawing next : Drawing}
    {kind : RuleKind} (like : drawing.Like first bound) (acted : drawing.Acted kind next) :
    next.Like first bound := by
  cases acted with
  | adjusted => exact ⟨like.active, like.saved, like.drawn⟩
  | walked done =>
    obtain ⟨node, -, grew⟩ := Graph.grew_of_grow done
    have sameClass : drawing.turtle.roadClass = first.roadClass := like.active.1
    rw [sameClass] at grew
    exact ⟨like.active, like.saved, like.drawn.grew grew⟩
  | blocked => exact ⟨like.active, like.saved, like.drawn⟩
  | opened land =>
    exact ⟨like.active, forall_saved_openBranch like.active like.saved land, like.drawn⟩
  | closed =>
    obtain ⟨active, saved⟩ := forall_turtles_closeBranch like.active like.saved
    refine ⟨active, saved, ?_⟩
    rw [graph_closeBranch]
    exact like.drawn

theorem Run.like_of_takeAll {rules : SymbolTable Rule} {number : UInt32} {offset : Nat}
    {tokens : List Token} {run next : Run} {first : Turtle} {bound : Nat}
    (like : run.drawing.Like first bound)
    (done : takeAll rules number offset tokens run = .ok next) : next.drawing.Like first bound :=
  takeAll_invariant (fun drawing => drawing.Like first bound) (fun acted holds => holds.acted acted)
    like done

/-- A run starts with the turtle that all others are like. -/
theorem Drawing.like_start {turtle : Turtle} {graph : Graph} {bound : Nat}
    (drawn : graph.ClassFrom bound turtle.roadClass) :
    (⟨turtle, [], graph⟩ : Drawing).Like turtle bound :=
  ⟨⟨rfl, rfl, rfl⟩, fun _ member => absurd member List.not_mem_nil, drawn⟩

/-- No segment is left from the number of segments on. -/
theorem Graph.classFrom_size (graph : Graph) (roadClass : RoadClass) :
    graph.ClassFrom graph.segments.size roadClass := by
  intro number segment above known
  rw [Array.getElem?_eq_none above] at known
  cases known

/-! ## Phases -/

namespace NetworkState

variable {state next : NetworkState} {script : Script} {settings : NetworkSettings} {bound : Nat}

theorem classFrom_of_run {turtle : Turtle}
    (drawn : state.graph.ClassFrom bound turtle.roadClass)
    (done : state.run script turtle = .ok next) :
    next.graph.ClassFrom bound turtle.roadClass := by
  obtain ⟨finished, taken, same⟩ := takeAll_of_run done
  rw [← same]
  exact (Run.like_of_takeAll (Drawing.like_start drawn) taken).drawn

theorem classFrom_of_growStreets {origin : Nat}
    (drawn : state.graph.ClassFrom bound settings.streetTurtle.roadClass)
    (done : growStreets settings script state origin = .ok next) :
    next.graph.ClassFrom bound settings.streetTurtle.roadClass := by
  obtain ⟨node, heading, ran⟩ := run_of_growStreets done
  exact classFrom_of_run drawn ran

theorem classFrom_of_growAllStreets {origins : List Nat}
    (drawn : state.graph.ClassFrom bound settings.streetTurtle.roadClass)
    (done : origins.foldlM (growStreets settings script) state = .ok next) :
    next.graph.ClassFrom bound settings.streetTurtle.roadClass :=
  foldlM_invariant (fun later => later.graph.ClassFrom bound settings.streetTurtle.roadClass)
    (fun one holds => classFrom_of_growStreets holds one) drawn done

end NetworkState

namespace Network

variable {settings : NetworkSettings} {terrain : Terrain} {network : Network}

theorem classFrom_of_highways {first : NetworkState}
    (done : highways settings terrain = .ok first) :
    first.graph.ClassFrom 0 settings.highwayTurtle.roadClass := by
  obtain ⟨state, started, grown⟩ := bind_eq_ok.mp done
  rw [ungrown_eq] at started
  cases started
  obtain ⟨script, -, ran⟩ := bind_eq_ok.mp grown
  exact NetworkState.classFrom_of_run (Graph.classFrom_size _ _) ran

/-- Throughout a run all turtles are like the one it starts with, and all that it adds to the graph
are segments of its class. So the highways of a network have the class of the turtle for highways
and the streets that of the turtle for streets. -/
theorem road_classes_kept :
    (∀ (interpreter : Interpreter) (script : Script) (turtle : Turtle) (graph : Graph)
      (before after : List Token) (run : Run), Token.scan script = before ++ after →
      Run.takeAll interpreter.rules interpreter.runs 0 before ⟨⟨turtle, [], graph⟩, {}⟩ =
        .ok run →
      run.drawing.Like turtle graph.segments.size ∧ graph.Extends run.drawing.graph) ∧
    ∀ (settings : NetworkSettings) (terrain : Terrain) (network : Network),
      generate settings terrain = .ok network →
      (∀ segment ∈ network.highwaySegments,
        segment.roadClass = settings.highwayTurtle.roadClass) ∧
      ∀ segment ∈ network.streetSegments, segment.roadClass = settings.streetTurtle.roadClass := by
  constructor
  · intro interpreter script turtle graph before after run _ done
    exact ⟨Run.like_of_takeAll (Drawing.like_start (graph.classFrom_size _)) done,
      (Run.takeAll_grown done).extends⟩
  · intro settings terrain network done
    cases grownInPhases done with
    | @phases first finished script firstPhase scripted secondPhase =>
      have extended := (NetworkState.growAllStreets_grown secondPhase).extends
      have highways := classFrom_of_highways firstPhase
      have streets := NetworkState.classFrom_of_growAllStreets
        (first.graph.classFrom_size settings.streetTurtle.roadClass) secondPhase
      refine ⟨fun segment member => ?_, fun segment member => ?_⟩
      · rw [highwaySegments_eq rfl extended] at member
        obtain ⟨number, known⟩ := List.mem_iff_getElem?.mp member
        rw [Array.getElem?_toList] at known
        exact highways number segment (Nat.zero_le _) known
      · obtain ⟨place, known⟩ := List.mem_iff_getElem?.mp member
        rw [streetSegments, List.getElem?_drop, Array.getElem?_toList] at known
        exact streets _ segment (Nat.le_add_right _ _) known

/-- A branch that is still open when the script has scaled and turned, on a graph with a segment of
another class; and a network whose street runs back along its highway. -/
theorem road_classes_kept_at_open_branch :
    (∃ run : Run, Run.takeAll (({} : NetworkSettings).interpreter .dryCell).rules 0 0
        (Token.scan ";F[-F".toList)
        ⟨⟨TurtleSettings.spawn { roadClass := .road } Point.origin 0, [],
          ((Graph.empty {}).addNode Point.origin).addSegment ⟨0, 0, 0, .street, 0.0⟩⟩, {}⟩ =
          .ok run ∧
      run.drawing.graph.segments.size = 3 ∧ run.drawing.saved.length = 1 ∧
      run.drawing.Like (TurtleSettings.spawn { roadClass := .road } Point.origin 0) 1) ∧
    ∃ network : Network,
      generate { highway := ⟨"F[+F]F".toList, .empty, 0⟩, streets := ⟨"F+(180)F".toList, .empty, 0⟩ }
        .dryCell = .ok network ∧
      network.streetSegments.length = 2 ∧
      ∀ segment ∈ network.streetSegments, segment.roadClass = .street := by
  obtain ⟨runs, networks⟩ := road_classes_kept
  constructor
  · have drawn : (Run.takeAll (({} : NetworkSettings).interpreter .dryCell).rules 0 0
        (Token.scan ";F[-F".toList)
        ⟨⟨TurtleSettings.spawn { roadClass := .road } Point.origin 0, [],
          ((Graph.empty {}).addNode Point.origin).addSegment ⟨0, 0, 0, .street, 0.0⟩⟩,
          {}⟩).toOption.map
        (fun run => (run.drawing.graph.segments.size, run.drawing.saved.length)) = some (3, 1) := by
      decide +kernel
    obtain ⟨run, done, sizes⟩ := Option.map_eq_some_iff.mp drawn
    rw [toOption_eq_some] at done
    obtain ⟨segments, saved⟩ := Prod.mk.inj sizes
    obtain ⟨like, -⟩ := runs (({} : NetworkSettings).interpreter .dryCell) ";F[-F".toList _ _ _ []
      run (List.append_nil _).symm done
    exact ⟨run, done, segments, saved, like⟩
  · have drawn : (generate
        { highway := ⟨"F[+F]F".toList, .empty, 0⟩, streets := ⟨"F+(180)F".toList, .empty, 0⟩ }
        .dryCell).toOption.map (fun network => network.streetSegments.length) = some 2 := by
      decide +kernel
    obtain ⟨network, done, streets⟩ := Option.map_eq_some_iff.mp drawn
    rw [toOption_eq_some] at done
    exact ⟨network, done, streets, (networks _ _ network done).2⟩

end Network

end RoadGrowth
