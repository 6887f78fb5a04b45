import RoadGrowth.Proofs.Grammar.Limits
import RoadGrowth.Proofs.Network.Faults

/-!
# Scripts that are replayed

Growing a network replays the highway script once and the street script once for each
grid. Each script is the expansion of its grammar within the limit of the settings, so
it keeps to that limit if its grammar has any rounds. Without rounds the start text of
the grammar is replayed as it is, and its length is measured nowhere.
-/

namespace RoadGrowth

namespace NetworkSettings

variable {settings : NetworkSettings} {grammar : GrammarSettings} {script : Script}

theorem script_eq_ok : settings.script grammar = .ok script ↔
    grammar.grammar.expandWithin settings.scriptLimit.toNat = .ok script := by
  unfold NetworkSettings.script
  cases grammar.grammar.expandWithin settings.scriptLimit.toNat with
  | ok text => simp
  | error found => exact ⟨nofun, nofun⟩

/-- The scripts of a grammar keep to the limit exactly if a start text that is not expanded does. -/
theorem script_limited_iff (settings : NetworkSettings) (grammar : GrammarSettings) :
    (∀ script, settings.script grammar = .ok script →
      Script.byteCount script ≤ settings.scriptLimit.toNat) ↔
      (grammar.rounds = 0 → Script.byteCount grammar.start ≤ settings.scriptLimit.toNat) := by
  have rounds : grammar.grammar.rounds = 0 ↔ grammar.rounds = 0 := UInt32.toNat_inj (b := 0)
  simp only [script_eq_ok]
  rw [Grammar.expandWithin_limited_iff, rounds]
  rfl

end NetworkSettings

namespace Network

variable {settings : NetworkSettings} {terrain : Terrain}

theorem highways_eq (settings : NetworkSettings) (terrain : Terrain) :
    highways settings terrain = settings.script settings.highway >>= fun script =>
      NetworkState.run ⟨settings.interpreter terrain, settings.rooted terrain⟩ script
        (settings.highwayTurtle.spawn settings.root 0) := rfl

/-- The replays that the growth of a network comes to, each with the state and the turtle that it
starts with: that of the highway script from the root, and those of the street script from the
origins of the grids. -/
inductive Replays (settings : NetworkSettings) (terrain : Terrain) :
    NetworkState → Script → Turtle → Prop where
  | highways {script : Script} (accepted : settings.check = .ok ())
    (scripted : settings.script settings.highway = .ok script) :
    Replays settings terrain ⟨settings.interpreter terrain, settings.rooted terrain⟩ script
      (settings.highwayTurtle.spawn settings.root 0)
  | streets {first state : NetworkState} {script : Script} {place origin : Nat} {turtle : Turtle}
    (accepted : settings.check = .ok ())
    (firstPhase : Network.highways settings terrain = .ok first)
    (scripted : settings.script settings.streets = .ok script)
    (spread : (evenlySpaced first.graph.nodes.size settings.neighborhoods.toNat)[place]? =
      some origin)
    (before : ((evenlySpaced first.graph.nodes.size settings.neighborhoods.toNat).take place).foldlM
      (NetworkState.growStreets settings script) first = .ok state)
    (turned : NetworkState.streetTurtle state.graph settings origin = .ok turtle) :
    Replays settings terrain state script turtle

/-- Every origin has a turtle to start its grid with, whatever grids have been grown before. -/
theorem exists_streetTurtle {first state : NetworkState}
    (firstPhase : highways settings terrain = .ok first) {script : Script} {origins : List Nat}
    (before : origins.foldlM (NetworkState.growStreets settings script) first = .ok state)
    {place origin : Nat}
    (spread : (evenlySpaced first.graph.nodes.size settings.neighborhoods.toNat)[place]? =
      some origin) :
    ∃ turtle, NetworkState.streetTurtle state.graph settings origin = .ok turtle := by
  have later := NetworkState.growAllStreets_grown before
  have reachable := (Graph.reachable_ofRoot _ _ _ _).later
    ((highways_grown firstPhase).trans later)
  have present := (evenlySpaced_lt (List.mem_of_getElem? spread)).trans_le later.size_le
  obtain ⟨turtle, turned, -⟩ :=
    NetworkState.streetTurtle_eq_ok reachable.consistent settings present
  exact ⟨turtle, turned⟩

/-- If there are highways and grids are wanted, a first grid is started. -/
theorem exists_replays_streets (accepted : settings.check = .ok ()) {first : NetworkState}
    (firstPhase : highways settings terrain = .ok first) (wanted : settings.neighborhoods ≠ 0)
    {script : Script} (scripted : settings.script settings.streets = .ok script) :
    ∃ turtle, Replays settings terrain first script turtle := by
  have some : 0 < settings.neighborhoods.toNat :=
    Nat.pos_of_ne_zero fun none => wanted (UInt32.toNat_inj.mp none)
  have rooted : 1 ≤ first.graph.nodes.size := (highways_grown firstPhase).size_le
  have present : 0 < (evenlySpaced first.graph.nodes.size settings.neighborhoods.toNat).length := by
    rw [(evenlySpaced_spreadOver _ _).size_eq]
    exact Nat.lt_min.mpr ⟨some, rooted⟩
  have spread := List.getElem?_eq_getElem present
  have before : [].foldlM (NetworkState.growStreets settings script) first = .ok first := rfl
  obtain ⟨turtle, turned⟩ := exists_streetTurtle firstPhase before spread
  exact ⟨turtle, .streets accepted firstPhase scripted spread before turned⟩

theorem Replays.succeeds {network : Network} (done : generate settings terrain = .ok network)
    {state : NetworkState} {script : Script} {turtle : Turtle}
    (replays : Replays settings terrain state script turtle) :
    ∃ next, state.run script turtle = .ok next := by
  cases grownInPhases done with
  | @phases first finished streets firstPhase streetsScripted secondPhase =>
    cases replays with
    | highways _ scripted =>
      rw [highways_eq, scripted] at firstPhase
      exact ⟨first, firstPhase⟩
    | @streets _ _ _ place origin _ _ samePhase scripted spread before turned =>
      cases firstPhase.symm.trans samePhase
      have wanted := NetworkSettings.neighborhoods_ne_zero (List.mem_of_getElem? spread)
      cases (streetsScripted wanted).symm.trans scripted
      obtain ⟨next, grew⟩ := exists_foldlM_iff.mp ⟨finished, secondPhase⟩ place origin state
        spread before
      rw [NetworkState.growStreets, turned] at grew
      exact ⟨next, grew⟩

/-- If every replay of the street script succeeds, all grids are grown. -/
theorem exists_finished (accepted : settings.check = .ok ()) {first : NetworkState}
    (firstPhase : highways settings terrain = .ok first) {script : Script}
    (scripted : settings.script settings.streets = .ok script)
    (succeeds : ∀ state turtle, Replays settings terrain state script turtle →
      ∃ next, state.run script turtle = .ok next) :
    ∃ finished, (evenlySpaced first.graph.nodes.size settings.neighborhoods.toNat).foldlM
      (NetworkState.growStreets settings script) first = .ok finished := by
  refine exists_foldlM_iff.mpr fun place origin state spread before => ?_
  obtain ⟨turtle, turned⟩ := exists_streetTurtle firstPhase before spread
  rw [NetworkState.growStreets, turned]
  exact succeeds state turtle (.streets accepted firstPhase scripted spread before turned)

/-- A network is grown exactly if its scripts are given, that for streets only if it is wanted, and
every replay that the growth comes to succeeds. -/
theorem exists_generate_iff (accepted : settings.check = .ok ()) :
    (∃ network, generate settings terrain = .ok network) ↔
      (∃ script, settings.script settings.highway = .ok script) ∧
      (settings.neighborhoods ≠ 0 → ∃ script, settings.script settings.streets = .ok script) ∧
      ∀ state script turtle, Replays settings terrain state script turtle →
        ∃ next, state.run script turtle = .ok next := by
  constructor
  · rintro ⟨network, done⟩
    cases grownInPhases done with
    | phases firstPhase streetsScripted =>
      rw [highways_eq] at firstPhase
      obtain ⟨highway, highwayScripted, -⟩ := bind_eq_ok.mp firstPhase
      exact ⟨⟨highway, highwayScripted⟩, fun wanted => ⟨_, streetsScripted wanted⟩,
        fun _ _ _ replays => replays.succeeds done⟩
  · rintro ⟨⟨highway, highwayScripted⟩, streetsScripted, succeeds⟩
    obtain ⟨first, ran⟩ := succeeds _ _ _ (.highways accepted highwayScripted)
    have firstPhase : highways settings terrain = .ok first := by
      rw [highways_eq, highwayScripted]
      exact ran
    by_cases none : settings.neighborhoods = 0
    · have secondPhase : (evenlySpaced first.graph.nodes.size settings.neighborhoods.toNat).foldlM
          (NetworkState.growStreets settings []) first = .ok first := by
        rw [none, UInt32.toNat_zero, evenlySpaced_zero]
        rfl
      exact ⟨_, generate_of_phases accepted (.phases firstPhase (absurd none) secondPhase)⟩
    · obtain ⟨streets, scripted⟩ := streetsScripted none
      obtain ⟨finished, secondPhase⟩ := exists_finished accepted firstPhase scripted
        fun state turtle replays => succeeds state streets turtle replays
      exact ⟨_, generate_of_phases accepted (.phases firstPhase (fun _ => scripted) secondPhase)⟩

/-- A text that is given within a limit keeps to it exactly if its grammar has rounds or its start
text keeps to it. So the scripts that are replayed with accepted settings keep to their limit exactly
if this holds of the highway grammar, and of the street grammar as far as grids are grown. -/
theorem scripts_limited_iff (accepted : settings.check = .ok ()) (terrain : Terrain) :
    (∀ (grammar : Grammar) (limit : Nat),
      (∀ text, grammar.expandWithin limit = .ok text → Script.byteCount text ≤ limit) ↔
        (grammar.rounds = 0 → Script.byteCount grammar.start ≤ limit)) ∧
    ((∀ state script turtle, Replays settings terrain state script turtle →
        Script.byteCount script ≤ settings.scriptLimit.toNat) ↔
      (settings.highway.rounds = 0 →
        Script.byteCount settings.highway.start ≤ settings.scriptLimit.toNat) ∧
      ((∃ first, highways settings terrain = .ok first) → settings.neighborhoods ≠ 0 →
        settings.streets.rounds = 0 →
        Script.byteCount settings.streets.start ≤ settings.scriptLimit.toNat)) := by
  refine ⟨Grammar.expandWithin_limited_iff, ?_⟩
  rw [← NetworkSettings.script_limited_iff, ← NetworkSettings.script_limited_iff]
  constructor
  · intro limited
    refine ⟨fun script scripted => limited _ _ _ (.highways accepted scripted), ?_⟩
    rintro ⟨first, firstPhase⟩ wanted script scripted
    obtain ⟨turtle, replays⟩ := exists_replays_streets accepted firstPhase wanted scripted
    exact limited _ _ _ replays
  · rintro ⟨highwayLimited, streetsLimited⟩ state script turtle replays
    cases replays with
    | highways _ scripted => exact highwayLimited script scripted
    | @streets first _ _ place origin _ _ firstPhase scripted spread =>
      have wanted := NetworkSettings.neighborhoods_ne_zero (List.mem_of_getElem? spread)
      exact streetsLimited ⟨first, firstPhase⟩ wanted script scripted

/-- A highway script of as many bytes as the limit, and a street script of one round. -/
theorem scripts_limited_at_the_limit :
    ∃ settings : NetworkSettings, settings.check = .ok () ∧ settings.scriptLimit = 2 ∧
      settings.highway.start = "FF".toList ∧ settings.highway.rounds = 0 ∧
      ∀ state script turtle, Replays settings .dryCell state script turtle →
        Script.byteCount script ≤ 2 := by
  let settings : NetworkSettings :=
    { highway := ⟨"FF".toList, .empty, 0⟩, streets := ⟨"F".toList, .empty, 1⟩, scriptLimit := 2 }
  have accepted : settings.check = .ok () := by decide +kernel
  obtain ⟨-, limited⟩ := scripts_limited_iff accepted .dryCell
  refine ⟨settings, accepted, rfl, rfl, rfl, limited.mpr ⟨fun _ => by decide, ?_⟩⟩
  intro _ _ none
  cases none

/-- Two bytes are given and replayed within a limit of one. -/
theorem exists_script_beyond_limit :
    (∃ grammar : Grammar, grammar.start = "FF".toList ∧ grammar.rounds = 0 ∧
      grammar.expandWithin 1 = .ok "FF".toList ∧ Script.byteCount "FF".toList = 2) ∧
    ∃ (settings : NetworkSettings) (network : Network) (state : NetworkState) (turtle : Turtle),
      settings.check = .ok () ∧ settings.scriptLimit = 1 ∧
      generate settings .dryCell = .ok network ∧ network.graph.segments.size = 2 ∧
      Replays settings .dryCell state "FF".toList turtle := by
  refine ⟨⟨⟨"FF".toList, .empty, 0⟩, rfl, rfl, rfl, rfl⟩, ?_⟩
  let settings : NetworkSettings :=
    { highway := ⟨"FF".toList, .empty, 0⟩, neighborhoods := 0, scriptLimit := 1 }
  have accepted : settings.check = .ok () := by decide +kernel
  have drawn : (generate settings .dryCell).toOption.map
      (fun network => network.graph.segments.size) = some 2 := by
    decide +kernel
  obtain ⟨network, done, size⟩ := Option.map_eq_some_iff.mp drawn
  rw [toOption_eq_some] at done
  exact ⟨settings, network, _, _, accepted, rfl, done, size, .highways accepted rfl⟩

end Network

end RoadGrowth
