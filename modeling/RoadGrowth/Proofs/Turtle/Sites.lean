import Mathlib.Algebra.Group.Nat.Defs
import Mathlib.Data.List.Nodup
import RoadGrowth.Proofs.Turtle.Steps
import RoadGrowth.Proofs.Turtle.Tokens

/-!
# Sites

In a site the number of the run and the offset in the script do not overlap. Offsets rise
from token to token and numbers from run to run. So whatever an interpreter is used for, it
hands each site to one application of a rule only, and jitters with one seed never seed two
keystreams alike.
-/

namespace RoadGrowth

open RoadGrowth.Random

/-! ## Seeds -/

theorem siteSeed_injective (seed : UInt64) : Function.Injective (siteSeed seed) :=
  fun _ _ same => (UInt64.xor_right_inj _).mp same

/-- The multiplier of the seed is odd, so it has an inverse. -/
theorem siteSeed_injective_seed (site : UInt64) :
    Function.Injective fun seed => siteSeed seed site := by
  intro first second same
  have multiplied : first * 0x9e3779b97f4a7c15 = second * 0x9e3779b97f4a7c15 :=
    (UInt64.xor_left_inj site).mp same
  have inverse : (0x9e3779b97f4a7c15 : UInt64) * 0xf1de83e19937733d = 1 := by decide
  calc first
    _ = first * 0x9e3779b97f4a7c15 * 0xf1de83e19937733d := by
      rw [UInt64.mul_assoc, inverse, UInt64.mul_one]
    _ = second * 0x9e3779b97f4a7c15 * 0xf1de83e19937733d := by rw [multiplied]
    _ = second := by rw [UInt64.mul_assoc, inverse, UInt64.mul_one]

/-! ## Rising sites -/

theorem toNat_siteOf (number : UInt32) {offset : Nat} (small : offset < 2 ^ 32) :
    (siteOf number offset).toNat = number.toNat * 2 ^ 32 + offset := by
  have numberSmall : number.toNat < 2 ^ 32 := number.toNat_lt
  have offsetFits : offset < UInt64.size := Nat.lt_trans small (by decide)
  have fits : number.toNat * 2 ^ 32 < 2 ^ 64 := by omega
  have shifted : (number.toUInt64 <<< 32).toNat = number.toNat <<< 32 := by
    rw [UInt64.toNat_shiftLeft, UInt32.toNat_toUInt64, UInt64.toNat_ofNat]
    simp only [Nat.shiftLeft_eq, Nat.mod_eq_of_lt fits]
  calc (siteOf number offset).toNat
    _ = number.toNat <<< 32 ||| offset := by
      rw [siteOf, UInt64.toNat_or, shifted, UInt64.toNat_ofNat_of_lt' offsetFits]
    _ = number.toNat <<< 32 + offset := (Nat.shiftLeft_add_eq_or_of_lt small _).symm
    _ = number.toNat * 2 ^ 32 + offset := by rw [Nat.shiftLeft_eq]

/-- Sites in rising order, from one number up to another one. -/
structure Rising (low : Nat) (sites : List UInt64) (high : Nat) : Prop where
  sorted : sites.Pairwise (· < ·)
  bounds : ∀ site ∈ sites, low ≤ site.toNat ∧ site.toNat < high
  ordered : low ≤ high

namespace Rising

variable {low middle high : Nat} {sites more : List UInt64}

theorem nil (ordered : low ≤ high) : Rising low [] high where
  sorted := .nil
  bounds := by simp
  ordered := ordered

theorem single {site : UInt64} (lower : low ≤ site.toNat) (upper : site.toNat < high) :
    Rising low [site] high where
  sorted := List.pairwise_singleton _ _
  bounds := by simpa using ⟨lower, upper⟩
  ordered := by omega

theorem append (first : Rising low sites middle) (second : Rising middle more high) :
    Rising low (sites ++ more) high where
  sorted := by
    refine List.pairwise_append.mpr ⟨first.sorted, second.sorted, fun site early other late => ?_⟩
    have below := (first.bounds site early).2
    have above := (second.bounds other late).1
    exact UInt64.lt_iff_toNat_lt.mpr (by omega)
  bounds := by
    have firstOrdered := first.ordered
    have secondOrdered := second.ordered
    intro site member
    rcases List.mem_append.mp member with early | late
    · have bounds := first.bounds site early
      omega
    · have bounds := second.bounds site late
      omega
  ordered := Nat.le_trans first.ordered second.ordered

theorem of_le (lower : low ≤ middle) (rising : Rising middle sites high) : Rising low sites high :=
  (nil lower).append rising

end Rising

/-! ## Applications -/

/-- A rule that is applied, with what it is handed besides the drawing. -/
structure Application where
  rule : Rule
  site : UInt64
  given : Option Float32

/-- Carry out an application. -/
def Application.perform (application : Application) (drawing : Drawing) : Except Fault Drawing :=
  application.rule.apply application.site application.given drawing

namespace Run

/-- The rule that a token applies. On a branch that has ended, rules for geometry are left out. -/
def heeded? (rules : SymbolTable Rule) (run : Run) (token : Token) : Option Rule :=
  (rules.get? token.symbol).filter fun rule =>
    !(run.drawing.turtle.ended && rule.kind = .geometry)

/-- The applications in a run over tokens, one that fails included. -/
def applications (rules : SymbolTable Rule) (number : UInt32) :
    (offset : Nat) → List Token → Run → List Application
  | _, [], _ => []
  | offset, token :: rest, run =>
    ((heeded? rules run token).toList.map fun rule =>
        ⟨rule, siteOf number offset, token.literal.value?⟩) ++
      match take rules run (siteOf number offset) token with
      | .ok next => applications rules number (offset + token.written.length) rest next
      | .error _ => []

variable {rules : SymbolTable Rule} {number : UInt32} {run : Run} {site : UInt64} {token : Token}
  {offset : Nat} {tokens : List Token}

/-- A token performs the application of its rule, if there is one. -/
theorem drawing_take (rules : SymbolTable Rule) (run : Run) (site : UInt64) (token : Token) :
    (take rules run site token).map Run.drawing =
      ((heeded? rules run token).toList.map fun rule =>
        Application.mk rule site token.literal.value?).foldlM
          (fun drawing application => application.perform drawing) run.drawing := by
  obtain ⟨drawing, counters⟩ := run
  unfold take heeded?
  cases rules.get? token.symbol with
  | none => rfl
  | some rule =>
    by_cases left : (drawing.turtle.ended && rule.kind = .geometry) = true
    · simp only [apply, left, Option.filter]
      rfl
    · rw [Bool.not_eq_true] at left
      simp only [apply, left, Option.filter, Bool.not_false, Bool.false_eq_true, if_false, if_true,
        Option.toList, List.map_cons, List.map_nil, List.foldlM, Application.perform]
      cases rule.apply site token.literal.value? drawing with
      | ok next => rfl
      | error fault => rfl

/-- What a run makes of a drawing is what its applications make of it, one after another. -/
theorem drawing_takeAll (rules : SymbolTable Rule) (number : UInt32) (offset : Nat)
    (tokens : List Token) (run : Run) :
    (takeAll rules number offset tokens run).map Run.drawing =
      (applications rules number offset tokens run).foldlM
        (fun drawing application => application.perform drawing) run.drawing := by
  induction tokens generalizing offset run with
  | nil => rfl
  | cons token rest ih =>
    simp only [takeAll, applications, List.foldlM_append, ← drawing_take]
    cases take rules run (siteOf number offset) token with
    | ok next => exact ih _ next
    | error fault => rfl

/-- A run that is finished has counted its applications. -/
theorem applied_takeAll {next : Run} (done : takeAll rules number offset tokens run = .ok next) :
    next.counters.applied =
      run.counters.applied + (applications rules number offset tokens run).length := by
  induction tokens generalizing offset run with
  | nil =>
    cases done
    rfl
  | cons token rest ih =>
    obtain ⟨middle, taken, done⟩ := takeAll_cons.mp done
    have counted : middle.counters.applied =
        run.counters.applied + (heeded? rules run token).toList.length := by
      cases take_eq_ok.mp taken with
      | passed unbound => simp [heeded?, unbound]
      | skipped bound ended geometry => simp [heeded?, bound, ended, geometry]
      | applied bound heeded done =>
        have chosen : heeded? rules run token = some _ :=
          Option.filter_eq_some_iff.mpr ⟨bound, by simpa [imp_iff_not_or] using heeded⟩
        rw [Counters.applied_applying, chosen]
        rfl
    simp only [applications, taken, List.length_append, List.length_map, ih done, counted,
      Nat.add_assoc]

/-- The sites of a run are its number together with offsets in its script. -/
theorem rising_applications {offset : Nat} {tokens : List Token}
    (short : offset + (tokens.flatMap Token.written).length ≤ 2 ^ 32) (rules : SymbolTable Rule)
    (number : UInt32) (run : Run) :
    Rising (number.toNat * 2 ^ 32 + offset)
      ((applications rules number offset tokens run).map Application.site)
      (number.toNat * 2 ^ 32 + (offset + (tokens.flatMap Token.written).length)) := by
  induction tokens generalizing offset run with
  | nil => exact .nil (by simp)
  | cons token rest ih =>
    have progress : 0 < token.written.length := by simp [Token.written]
    rw [List.flatMap_cons, List.length_append, ← Nat.add_assoc offset] at short ⊢
    rw [applications, List.map_append]
    have here : (siteOf number offset).toNat = number.toNat * 2 ^ 32 + offset :=
      toNat_siteOf number (by omega)
    have first : Rising (number.toNat * 2 ^ 32 + offset)
        (((heeded? rules run token).toList.map fun rule =>
          Application.mk rule (siteOf number offset) token.literal.value?).map Application.site)
        (number.toNat * 2 ^ 32 + (offset + token.written.length)) := by
      cases heeded? rules run token with
      | none => exact .nil (by omega)
      | some rule => exact .single (Nat.le_of_eq here.symm) (here ▸ by omega)
    refine first.append ?_
    cases take rules run (siteOf number offset) token with
    | ok next => exact ih short next
    | error fault => exact .nil (by omega)

end Run

/-! ## The life of an interpreter -/

namespace Interpreter

/-- What an interpreter is used for. -/
inductive Use where
  | bind (symbol : Char) (rule : Rule)
  | run (script : Script) (turtle : Turtle) (graph : Graph)

/-- The script that is run, if one is. -/
def Use.script? : Use → Option Script
  | bind .. => none
  | run script _ _ => some script

/-- All applications in the life of an interpreter, which ends with a run that fails. -/
def applications (interpreter : Interpreter) : List Use → List Application
  | [] => []
  | .bind symbol rule :: uses => (interpreter.bind symbol rule).applications uses
  | .run script turtle graph :: uses =>
    Run.applications interpreter.rules interpreter.runs 0 (Token.scan script)
        ⟨⟨turtle, [], graph⟩, {}⟩ ++
      match interpreter.run script turtle graph with
      | .ok (interpreter, _, _) => interpreter.applications uses
      | .error _ => []

/-- The interpreter that is left after some uses, unless a run among them fails. -/
def after? (interpreter : Interpreter) : List Use → Option Interpreter
  | [] => some interpreter
  | .bind symbol rule :: uses => (interpreter.bind symbol rule).after? uses
  | .run script turtle graph :: uses =>
    match interpreter.run script turtle graph with
    | .ok (interpreter, _, _) => interpreter.after? uses
    | .error _ => none

theorem applications_append {interpreter current : Interpreter} {before : List Use}
    (reached : interpreter.after? before = some current) (uses : List Use) :
    interpreter.applications (before ++ uses) =
      interpreter.applications before ++ current.applications uses := by
  induction before generalizing interpreter with
  | nil =>
    cases reached
    rfl
  | cons use before ih =>
    cases use with
    | bind symbol rule => exact ih reached
    | run script turtle graph =>
      simp only [List.cons_append, applications, after?] at reached ⊢
      cases done : interpreter.run script turtle graph with
      | error fault =>
        rw [done] at reached
        cases reached
      | ok outcome =>
        rw [done] at reached
        simp only [ih reached, List.append_assoc]

/-- A run does to its drawing what applications do one after another. It counts them when it is
finished, and when it fails the last of them fails with the same fault. -/
structure Performs (interpreter : Interpreter) (script : Script) (turtle : Turtle) (graph : Graph)
    (trace : List Application) : Prop where
  finished : ∀ after summary final,
    interpreter.run script turtle graph = .ok (after, summary, final) →
      summary.counters.applied = trace.length ∧
      ∃ saved, saved.length = summary.openBranches ∧
        trace.foldlM (fun drawing application => application.perform drawing)
          ⟨turtle, [], graph⟩ = .ok ⟨summary.turtle, saved, final⟩
  failed : ∀ fault, interpreter.run script turtle graph = .error fault →
    trace.foldlM (fun drawing application => application.perform drawing)
      ⟨turtle, [], graph⟩ = .error fault

theorem performs_applications (interpreter : Interpreter) (script : Script) (turtle : Turtle)
    (graph : Graph) :
    interpreter.Performs script turtle graph
      (Run.applications interpreter.rules interpreter.runs 0 (Token.scan script)
        ⟨⟨turtle, [], graph⟩, {}⟩) := by
  have carried := Run.drawing_takeAll interpreter.rules interpreter.runs 0 (Token.scan script)
    ⟨⟨turtle, [], graph⟩, {}⟩
  constructor
  case finished =>
    intro after summary final done
    obtain ⟨finished, taken, -, rfl, rfl⟩ := run_eq_ok.mp done
    rw [taken] at carried
    exact ⟨(Run.applied_takeAll taken).trans (Nat.zero_add _), _, rfl, carried.symm⟩
  case failed =>
    intro fault failed
    rw [takeAll_of_failed_run failed] at carried
    exact carried.symm

/-- Each run takes up the sites of its number, and the next one goes on after it. -/
theorem rising_applications {interpreter : Interpreter} {uses : List Use}
    (few : interpreter.runs.toNat + (uses.filterMap Use.script?).length < 2 ^ 32)
    (short : ∀ script ∈ uses.filterMap Use.script?, script.length < 2 ^ 32) :
    Rising (interpreter.runs.toNat * 2 ^ 32)
      ((interpreter.applications uses).map Application.site) (2 ^ 64) := by
  induction uses generalizing interpreter with
  | nil => exact .nil (by omega)
  | cons use uses ih =>
    cases use with
    | bind symbol rule => exact @ih (interpreter.bind symbol rule) few short
    | run script turtle graph =>
      simp only [List.filterMap_cons, Use.script?, List.length_cons, List.forall_mem_cons]
        at few short
      have fits : 0 + ((Token.scan script).flatMap Token.written).length ≤ 2 ^ 32 := by
        rw [Token.written_scan]
        omega
      have first := Run.rising_applications fits interpreter.rules interpreter.runs
        ⟨⟨turtle, [], graph⟩, {}⟩
      rw [Nat.add_zero] at first
      rw [applications, List.map_append]
      refine first.append ?_
      cases done : interpreter.run script turtle graph with
      | error fault => exact .nil (by omega)
      | ok outcome =>
        obtain ⟨next, summary, final⟩ := outcome
        have counted : next.runs.toNat = interpreter.runs.toNat + 1 := by
          have one : (1 : UInt32).toNat = 1 := rfl
          rw [runs_of_run done, UInt32.toNat_add, one, Nat.mod_eq_of_lt (by omega)]
        have rest := @ih next (by omega) short.2
        exact rest.of_le (by omega)

/-- Fewer than 2³² runs of scripts shorter than 2³² characters, with rules bound in between: each
rule that is applied is handed a greater site than all rules before it. So with one seed no two
applications seed their keystreams alike, and two seeds never do so at one site. A jitter draws from
the keystream that is seeded in this way, unless its limit is zero. These are the applications that
the interpreter performs: those of a run stand after those of the uses before it, and what becomes
of the drawing in the run is what they make of it. -/
theorem sites_rise {interpreter : Interpreter} {uses : List Use}
    (few : interpreter.runs.toNat + (uses.filterMap Use.script?).length < 2 ^ 32)
    (short : ∀ script ∈ uses.filterMap Use.script?, script.length < 2 ^ 32) :
    ((interpreter.applications uses).map Application.site).Pairwise (· < ·) ∧
      (∀ seed, ((interpreter.applications uses).map fun application =>
        siteSeed seed application.site).Nodup) ∧
      (∀ site, Function.Injective fun seed => siteSeed seed site) ∧
      (∀ seed site limit, ¬(limit.abs == 0.0) → jitterAt seed site limit =
        symmetric limit.abs (Keystream.ofSeed (siteSeed seed site)).next.1) ∧
      ∀ before script turtle graph later current,
        uses = before ++ .run script turtle graph :: later →
        interpreter.after? before = some current →
        let trace := Run.applications current.rules current.runs 0 (Token.scan script)
          ⟨⟨turtle, [], graph⟩, {}⟩
        (∃ rest, interpreter.applications uses =
          interpreter.applications before ++ (trace ++ rest)) ∧
        current.Performs script turtle graph trace := by
  have sorted := (rising_applications few short).sorted
  refine ⟨sorted, fun seed => ?_, siteSeed_injective_seed,
    fun seed site limit turns => if_neg turns, ?_⟩
  · have distinct : ((interpreter.applications uses).map Application.site).Nodup :=
      sorted.imp UInt64.ne_of_lt
    have seeds := List.Nodup.map (siteSeed_injective seed) distinct
    rw [List.map_map] at seeds
    exact seeds
  · rintro before script turtle graph later current rfl reached
    exact ⟨⟨_, applications_append reached _⟩, performs_applications current script turtle graph⟩

/-- Jitters under two symbols, the second of which is bound between two runs: before that its
token is passed over, and so is the literal of another one. The first run applies three rules. -/
theorem sites_rise_of_two_runs :
    ∃ (first second : Script) (turtle : Turtle) (graph : Graph) (uses : List Use),
      uses = [.run first turtle graph, .bind '!' (.jitter 7 0.5), .run second turtle graph] ∧
      (Interpreter.standard 7 none).runs.toNat + (uses.filterMap Use.script?).length < 2 ^ 32 ∧
      (∀ script ∈ uses.filterMap Use.script?, script.length < 2 ^ 32) ∧
      ((Interpreter.standard 7 none).applications uses).map Application.site =
        [0, 5, 6, 0x100000000, 0x100000001] ∧
      (((Interpreter.standard 7 none).applications uses).map fun application =>
        siteSeed 7 application.site).Nodup ∧
      ∃ after summary final,
        (Interpreter.standard 7 none).run first turtle graph = .ok (after, summary, final) ∧
        summary.counters.applied = 3 := by
  let turtle := TurtleSettings.spawn {} Point.origin 0
  let graph := (Graph.empty {}).addNode Point.origin
  let uses : List Use := [.run "~(9)!+~".toList turtle graph, .bind '!' (.jitter 7 0.5),
    .run "!~".toList turtle graph]
  have few : (Interpreter.standard 7 none).runs.toNat +
      (uses.filterMap Use.script?).length < 2 ^ 32 := by decide
  have short : ∀ script ∈ uses.filterMap Use.script?, script.length < 2 ^ 32 := by decide
  obtain ⟨-, distinct, -, -, performed⟩ := sites_rise few short
  obtain ⟨-, performs⟩ := performed [] _ turtle graph _ (.standard 7 none) rfl rfl
  have three : (Run.applications (Interpreter.standard 7 none).rules 0 0
      (Token.scan "~(9)!+~".toList) ⟨⟨turtle, [], graph⟩, {}⟩).length = 3 := by decide +kernel
  have finishes :
      ((Interpreter.standard 7 none).run "~(9)!+~".toList turtle graph).toOption.isSome := by
    decide +kernel
  obtain ⟨⟨after, summary, final⟩, done⟩ := Option.isSome_iff_exists.mp finishes
  rw [toOption_eq_some] at done
  obtain ⟨counted, -⟩ := performs.finished after summary final done
  exact ⟨_, _, turtle, graph, uses, rfl, few, short, by decide +kernel, distinct 7, after, summary,
    final, done, counted.trans three⟩

end Interpreter

end RoadGrowth
