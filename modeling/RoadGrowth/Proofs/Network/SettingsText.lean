import RoadGrowth.Network.SettingsText
import RoadGrowth.Proofs.Grammar.SymbolTable
import RoadGrowth.Proofs.Json.Record
import RoadGrowth.Proofs.Network.Settings
import RoadGrowth.Proofs.Numeric.Order

/-!
# Settings read back

The text of settings always reads back to the value that was written. Settings come
back from that value whole unless one of their singles is not finite. The check
excludes this for every single except the scales of the turtles and the arc of the
population rules.
-/

namespace RoadGrowth

open Json Json.Value Numeric

/-! ## Text and value -/

theorem TurtleSettings.writable_toJson (settings : TurtleSettings) : settings.toJson.Writable := by
  refine writable_record keys [.ofSingle _, .ofText _, .ofSingle _,
    .ofSingle _, .ofSingle _, .ofSingle _] ?_
  simp [writable_ofSingle, writable_ofText]

theorem GrammarSettings.writable_toJson (settings : GrammarSettings) :
    settings.toJson.Writable := by
  refine writable_record keys [.ofText _, .object _, .ofCount _] ?_
  simp only [List.forall_mem_cons, writable_ofText, writable_ofCount, List.not_mem_nil,
    false_implies, implies_true, and_true, true_and]
  refine .object (fun member present => ?_) fun member present => ?_
  all_goals obtain ⟨entry, -, rfl⟩ := List.mem_map.mp present
  · rfl
  · exact writable_ofText entry.2

theorem PopulationRuleSettings.writable_toJson (settings : PopulationRuleSettings) :
    settings.toJson.Writable := by
  refine writable_record keys [.ofSingle _, .ofCount _, .ofSingle _,
    .ofText _, .ofCount _] ?_
  simp [writable_ofSingle, writable_ofText, writable_ofCount]

theorem Point.writable_toJson (point : Point) : point.toJson.Writable := by
  refine .array ?_
  simp [writable_ofSingle]

theorem NetworkSettings.writable_toJson (settings : NetworkSettings) :
    settings.toJson.Writable := by
  refine writable_record keys [.ofCount _, settings.highway.toJson,
    settings.streets.toJson, .ofCount _, settings.highwayTurtle.toJson,
    settings.streetTurtle.toJson, settings.root.toJson, .ofSingle _, .ofSingle _, .ofCount _,
    .bool _, .ofCount _, .ofSingle _, .ofSingle _, settings.population.toJson] ?_
  simp [writable_ofSingle, writable_ofCount, Value.Writable.bool, GrammarSettings.writable_toJson,
    TurtleSettings.writable_toJson, PopulationRuleSettings.writable_toJson, Point.writable_toJson]

/-- Reading a text that was written gets the written value. -/
theorem NetworkSettings.read?_toText (settings : NetworkSettings) :
    Value.read? settings.toText = some settings.toJson :=
  settings.writable_toJson.read?_indented

/-! ## Parts -/

theorem RoadClass.ofJson?_name (roadClass : RoadClass) :
    RoadClass.ofJson? (.ofText roadClass.name.toList) = some roadClass := by
  cases roadClass <;> rfl

theorem SpanMode.ofJson?_name (mode : SpanMode) :
    SpanMode.ofJson? (.ofText mode.name.toList) = some mode := by
  cases mode <;> rfl

theorem Point.ofJson?_toJson {point : Point} (finite : point.isFinite) (x : Legible point.x)
    (y : Legible point.y) : Point.ofJson? point.toJson = some point := by
  obtain ⟨xFinite, yFinite⟩ := Bool.and_eq_true_iff.mp finite
  simp [Point.ofJson?, Point.toJson, pair?, x xFinite, y yFinite]

theorem rulesOfJson?_entries (rules : SymbolTable Script) :
    rulesOfJson? (.object (rules.entries.map fun (symbol, text) =>
      (some [symbol], .ofText text))) = some rules := by
  have listed : ∀ entries : List (Char × Script), (entries.map fun (symbol, text) =>
      ((some [symbol], .ofText text) : Content × Value)).mapM ruleOfMember? = some entries := by
    intro entries
    induction entries with
    | nil => rfl
    | cons entry entries ih =>
      rw [List.map_cons, List.mapM_cons, ih]
      rfl
  rw [rulesOfJson?, listed, Option.map_some, SymbolTable.ofList_entries]

namespace GrammarSettings

theorem ofJson?_toJson (settings : GrammarSettings) :
    ofJson? settings.toJson = some settings := by
  have opened : settings.toJson.fields? keys = _ :=
    fields?_record keys [.ofText settings.start, .object _,
      .ofCount settings.rounds.toNat] (by decide) rfl
  have read : ofJson? settings.toJson = do return {
      start := ← Value.text? (.ofText settings.start)
      rules := ← rulesOfJson? (.object (settings.rules.entries.map fun (symbol, text) =>
        (some [symbol], .ofText text)))
      rounds := ← (Value.ofCount settings.rounds.toNat).word32? } := by
    rw [ofJson?, opened]
    rfl
  rw [read, rulesOfJson?_entries, word32?_ofCount]
  rfl

end GrammarSettings

namespace TurtleSettings

/-- The singles of a turtle. -/
def singles (settings : TurtleSettings) : List Float32 :=
  [settings.direction, settings.segmentLength, settings.lengthScale, settings.angle,
    settings.angleScale]

/-- Each field is read from what was written for it. -/
theorem ofJson?_toJson_eq (settings : TurtleSettings) : ofJson? settings.toJson = do return {
    direction := ← (Value.ofSingle settings.direction).single?
    roadClass := ← RoadClass.ofJson? (.ofText settings.roadClass.name.toList)
    segmentLength := ← (Value.ofSingle settings.segmentLength).single?
    lengthScale := ← (Value.ofSingle settings.lengthScale).single?
    angle := ← (Value.ofSingle settings.angle).single?
    angleScale := ← (Value.ofSingle settings.angleScale).single? } := by
  have opened : settings.toJson.fields? keys = _ :=
    fields?_record keys [.ofSingle settings.direction,
      .ofText settings.roadClass.name.toList, .ofSingle settings.segmentLength,
      .ofSingle settings.lengthScale, .ofSingle settings.angle, .ofSingle settings.angleScale]
      (by decide) rfl
  rw [ofJson?, opened]
  rfl

theorem ofJson?_toJson {settings : TurtleSettings} (accepted : settings.Accepted)
    (lengthScale : settings.lengthScale.isFinite) (angleScale : settings.angleScale.isFinite)
    (legible : ∀ value ∈ settings.singles, Legible value) :
    ofJson? settings.toJson = some settings := by
  simp only [singles, List.forall_mem_cons] at legible
  obtain ⟨direction, segmentLength, length, angle, scale, -⟩ := legible
  rw [ofJson?_toJson_eq, direction accepted.direction_finite, RoadClass.ofJson?_name,
    segmentLength accepted.length_finite, length lengthScale, angle accepted.angle_finite,
    scale angleScale]
  rfl

theorem finite_of_ofJson? {settings found : TurtleSettings}
    (read : ofJson? settings.toJson = some found) :
    settings.lengthScale.isFinite ∧ settings.angleScale.isFinite := by
  simp only [ofJson?_toJson_eq, Option.bind_eq_bind, Option.bind_eq_some_iff] at read
  obtain ⟨_, -, _, -, _, -, _, length, _, -, _, angle, -⟩ := read
  exact ⟨isFinite_of_single? length, isFinite_of_single? angle⟩

end TurtleSettings

theorem isFinite_of_isShare {value : Float32} (share : isShare value) : value.isFinite := by
  simp only [isShare, Bool.and_eq_true, decide_eq_true_eq] at share
  obtain ⟨nonneg, atMostOne⟩ := share
  exact isFinite_of_between (by decide) (by decide) nonneg atMostOne

namespace PopulationRuleSettings

/-- The singles of population rules. -/
def singles (settings : PopulationRuleSettings) : List Float32 := [settings.arc, settings.threshold]

/-- Each field is read from what was written for it. -/
theorem ofJson?_toJson_eq (settings : PopulationRuleSettings) :
    ofJson? settings.toJson = do return {
      arc := ← (Value.ofSingle settings.arc).single?
      samples := ← (Value.ofCount settings.samples.toNat).word32?
      threshold := ← (Value.ofSingle settings.threshold).single?
      mode := ← SpanMode.ofJson? (.ofText settings.mode.name.toList)
      steps := ← (Value.ofCount settings.steps.toNat).word32? } := by
  have opened : settings.toJson.fields? keys = _ :=
    fields?_record keys [.ofSingle settings.arc,
      .ofCount settings.samples.toNat, .ofSingle settings.threshold,
      .ofText settings.mode.name.toList, .ofCount settings.steps.toNat] (by decide) rfl
  rw [ofJson?, opened]
  rfl

theorem ofJson?_toJson {settings : PopulationRuleSettings} (arc : settings.arc.isFinite)
    (share : isShare settings.threshold) (legible : ∀ value ∈ settings.singles, Legible value) :
    ofJson? settings.toJson = some settings := by
  simp only [singles, List.forall_mem_cons] at legible
  obtain ⟨arcLegible, threshold, -⟩ := legible
  rw [ofJson?_toJson_eq, arcLegible arc, word32?_ofCount, threshold (isFinite_of_isShare share),
    SpanMode.ofJson?_name, word32?_ofCount]
  rfl

theorem finite_of_ofJson? {settings found : PopulationRuleSettings}
    (read : ofJson? settings.toJson = some found) : settings.arc.isFinite := by
  rw [ofJson?_toJson_eq, Option.bind_eq_bind, Option.bind_eq_some_iff] at read
  obtain ⟨_, arc, -⟩ := read
  exact isFinite_of_single? arc

end PopulationRuleSettings

/-! ## Settings -/

namespace NetworkSettings

/-- The singles of settings. -/
def singles (settings : NetworkSettings) : List Float32 :=
  settings.highwayTurtle.singles ++ settings.streetTurtle.singles ++ settings.population.singles ++
    [settings.root.x, settings.root.y, settings.streetTurn, settings.snapDistance,
      settings.shortening.smallest, settings.jitterLimit]

/-- The singles that the check does not look at are finite all the same. -/
structure UncheckedFinite (settings : NetworkSettings) : Prop where
  highwayLength : settings.highwayTurtle.lengthScale.isFinite
  highwayAngle : settings.highwayTurtle.angleScale.isFinite
  streetLength : settings.streetTurtle.lengthScale.isFinite
  streetAngle : settings.streetTurtle.angleScale.isFinite
  arc : settings.population.arc.isFinite

/-- Each field is read from what was written for it. -/
theorem ofJson?_toJson_eq (settings : NetworkSettings) : ofJson? settings.toJson = do return {
    roadSeed := ← (Value.ofCount settings.roadSeed.toNat).word64?
    highway := ← GrammarSettings.ofJson? settings.highway.toJson
    streets := ← GrammarSettings.ofJson? settings.streets.toJson
    neighborhoods := ← (Value.ofCount settings.neighborhoods.toNat).word32?
    highwayTurtle := ← TurtleSettings.ofJson? settings.highwayTurtle.toJson
    streetTurtle := ← TurtleSettings.ofJson? settings.streetTurtle.toJson
    root := ← Point.ofJson? settings.root.toJson
    streetTurn := ← (Value.ofSingle settings.streetTurn).single?
    snapDistance := ← (Value.ofSingle settings.snapDistance).single?
    scriptLimit := ← (Value.ofCount settings.scriptLimit.toNat).word64?
    adjusts := ← (Value.bool settings.adjusts).truth?
    shortening := {
      steps := ← (Value.ofCount settings.shortening.steps.toNat).word32?
      smallest := ← (Value.ofSingle settings.shortening.smallest).single? }
    jitterLimit := ← (Value.ofSingle settings.jitterLimit).single?
    population := ← PopulationRuleSettings.ofJson? settings.population.toJson } := by
  have opened : settings.toJson.fields? keys = _ :=
    fields?_record keys [.ofCount settings.roadSeed.toNat,
      settings.highway.toJson, settings.streets.toJson, .ofCount settings.neighborhoods.toNat,
      settings.highwayTurtle.toJson, settings.streetTurtle.toJson, settings.root.toJson,
      .ofSingle settings.streetTurn, .ofSingle settings.snapDistance,
      .ofCount settings.scriptLimit.toNat, .bool settings.adjusts,
      .ofCount settings.shortening.steps.toNat, .ofSingle settings.shortening.smallest,
      .ofSingle settings.jitterLimit, settings.population.toJson] (by decide) rfl
  rw [ofJson?, opened]
  rfl

theorem ofJson?_toJson {settings : NetworkSettings} (accepted : settings.Accepted)
    (finite : settings.UncheckedFinite) (legible : ∀ value ∈ settings.singles, Legible value) :
    ofJson? settings.toJson = some settings := by
  simp only [singles, List.forall_mem_append, List.forall_mem_cons] at legible
  obtain ⟨⟨⟨highway, street⟩, population⟩, x, y, turn, snap, smallest, jitter, -⟩ := legible
  rw [ofJson?_toJson_eq, word64?_ofCount, GrammarSettings.ofJson?_toJson,
    GrammarSettings.ofJson?_toJson, word32?_ofCount,
    TurtleSettings.ofJson?_toJson accepted.highwayTurtle finite.highwayLength finite.highwayAngle
      highway,
    TurtleSettings.ofJson?_toJson accepted.streetTurtle finite.streetLength finite.streetAngle
      street,
    Point.ofJson?_toJson accepted.root_finite x y, turn accepted.streetTurn_finite,
    snap accepted.snap_finite, word64?_ofCount, word32?_ofCount,
    smallest (isFinite_of_isShare accepted.smallest_share), jitter accepted.jitterLimit_finite,
    PopulationRuleSettings.ofJson?_toJson finite.arc accepted.threshold_share population]
  rfl

theorem uncheckedFinite_of_ofJson? {settings found : NetworkSettings}
    (read : ofJson? settings.toJson = some found) : settings.UncheckedFinite := by
  rw [ofJson?_toJson_eq] at read
  iterate 4 obtain ⟨_, -, read⟩ := Option.bind_eq_some_iff.mp read
  obtain ⟨_, highway, read⟩ := Option.bind_eq_some_iff.mp read
  obtain ⟨_, street, read⟩ := Option.bind_eq_some_iff.mp read
  iterate 8 obtain ⟨_, -, read⟩ := Option.bind_eq_some_iff.mp read
  obtain ⟨_, population, -⟩ := Option.bind_eq_some_iff.mp read
  obtain ⟨highwayLength, highwayAngle⟩ := TurtleSettings.finite_of_ofJson? highway
  obtain ⟨streetLength, streetAngle⟩ := TurtleSettings.finite_of_ofJson? street
  exact ⟨highwayLength, highwayAngle, streetLength, streetAngle,
    PopulationRuleSettings.finite_of_ofJson? population⟩

theorem ofText_toText {settings : NetworkSettings} (accepted : settings.check = .ok ())
    (finite : settings.UncheckedFinite) (legible : ∀ value ∈ settings.singles, Legible value) :
    ofText settings.toText = .ok settings := by
  rw [ofText, read?_toText, Option.bind_some,
    ofJson?_toJson (check_eq_ok.mp accepted) finite legible]
  simp only [checked, accepted]

/-- Settings with an infinite scale or arc, or one that is not a number, are lost in their text. -/
theorem ofText_toText_of_not_finite {settings : NetworkSettings}
    (infinite : ¬settings.UncheckedFinite) : ofText settings.toText = .error .notSettings := by
  have unread : ofJson? settings.toJson = none :=
    Option.eq_none_iff_forall_ne_some.mpr fun _ read => infinite (uncheckedFinite_of_ofJson? read)
  rw [ofText, read?_toText, Option.bind_some, unread]

/-- Accepted settings come back from their text exactly if the singles that the check does not
look at are finite; otherwise their text is not one of settings. -/
theorem ofText_toText_iff {settings : NetworkSettings} (accepted : settings.check = .ok ())
    (legible : ∀ value ∈ settings.singles, Legible value) :
    (ofText settings.toText = .ok settings ↔ settings.UncheckedFinite) ∧
      (¬settings.UncheckedFinite → ofText settings.toText = .error .notSettings) := by
  refine ⟨⟨fun same => ?_, fun finite => ofText_toText accepted finite legible⟩,
    ofText_toText_of_not_finite⟩
  by_contra infinite
  rw [ofText_toText_of_not_finite infinite] at same
  cases same

/-- The usual settings come back from their text. -/
theorem ofText_toText_usual :
    ({} : NetworkSettings).check = .ok () ∧
      (∀ value ∈ ({} : NetworkSettings).singles, Legible value) ∧
      ofText ({} : NetworkSettings).toText = .ok {} := by
  have accepted : ({} : NetworkSettings).check = .ok () := by decide +kernel
  have legible : ∀ value ∈ ({} : NetworkSettings).singles, value.isFinite →
    (ofSingle value).single? = some value := by decide +kernel
  exact ⟨accepted, legible, (ofText_toText_iff accepted legible).1.mpr
    ⟨by decide +kernel, by decide +kernel, by decide +kernel, by decide +kernel, by decide +kernel⟩⟩

/-- Settings that are accepted with an infinite scale and then not read back. -/
theorem exists_accepted_unread : ∃ settings : NetworkSettings,
    settings.highwayTurtle.lengthScale = Float32.ofBits 0x7f800000 ∧ settings.check = .ok () ∧
      (∀ value ∈ settings.singles, Legible value) ∧
      ofText settings.toText = .error .notSettings := by
  let endless : NetworkSettings :=
    { highwayTurtle := { lengthScale := Float32.ofBits 0x7f800000 } }
  have legible : ∀ value ∈ endless.singles, value.isFinite →
    (ofSingle value).single? = some value := by decide +kernel
  refine ⟨endless, rfl, by decide +kernel, legible,
    ofText_toText_of_not_finite fun finite => ?_⟩
  exact absurd finite.highwayLength (by decide +kernel)

end NetworkSettings

end RoadGrowth
