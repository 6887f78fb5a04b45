import RoadGrowth.Problem
import RoadGrowth.Proofs.Grammar.Expansion

/-!
# Expansion within a limit

An expansion within a limit carries out the same rounds as one without. It is given up
after the first round that leaves too long a text, whatever later rounds would make of
that text. The text that it starts from is not measured.
-/

namespace RoadGrowth

theorem Script.byteCount_eq (text : Script) :
    Script.byteCount text = (String.ofList text).utf8ByteSize := by
  have counted : ∀ total, text.foldl (fun total symbol => total + symbol.utf8Size) total =
      total + (String.ofList text).utf8ByteSize := by
    induction text with
    | nil => exact fun _ => rfl
    | cons symbol rest ih =>
      intro total
      rw [List.foldl_cons, ih, String.ofList_cons, String.utf8ByteSize_append,
        String.utf8ByteSize_singleton, Nat.add_assoc]
  rw [Script.byteCount, counted, Nat.zero_add]

namespace Grammar

variable {grammar : Grammar} {limit round : Nat}

/-- Size of the text after a number of rounds, in UTF-8. -/
def bytesAfter (grammar : Grammar) (round : Nat) : Nat :=
  (String.ofList { grammar with rounds := round }.expand).utf8ByteSize

theorem bytesAfter_eq (grammar : Grammar) (round : Nat) :
    grammar.bytesAfter round = Script.byteCount (grammar.expandFrom 0 round grammar.start) := by
  rw [bytesAfter, expand_restarted, Script.byteCount_eq]

/-- No round leaves a text of more than `limit` bytes. -/
def StaysWithin (grammar : Grammar) (limit : Nat) : Prop :=
  ∀ round, 1 ≤ round → round ≤ grammar.rounds → grammar.bytesAfter round ≤ limit

/-- A round is the first that leaves a text of more than `limit` bytes. -/
structure FirstBeyond (grammar : Grammar) (limit round : Nat) : Prop where
  pos : 1 ≤ round
  le_rounds : round ≤ grammar.rounds
  beyond : limit < grammar.bytesAfter round
  before : ∀ earlier, 1 ≤ earlier → earlier < round → grammar.bytesAfter earlier ≤ limit

theorem FirstBeyond.unique {other : Nat} (first : grammar.FirstBeyond limit round)
    (otherFirst : grammar.FirstBeyond limit other) : round = other := by
  rcases Nat.lt_trichotomy round other with below | same | above
  · exact absurd first.beyond (Nat.not_lt.mpr (otherFirst.before round first.pos below))
  · exact same
  · exact absurd otherFirst.beyond (Nat.not_lt.mpr (first.before other otherFirst.pos above))

theorem FirstBeyond.not_staysWithin (first : grammar.FirstBeyond limit round) :
    ¬grammar.StaysWithin limit := fun stays =>
  absurd first.beyond (Nat.not_lt.mpr (stays round first.pos first.le_rounds))

/-- The overflow that a round is reported with. -/
def overflowAt (grammar : Grammar) (limit round : Nat) : Overflow :=
  ⟨grammar.start, grammar.bytesAfter round, round, grammar.rounds, limit⟩

/-- By induction on the rounds that are left: either none of them leaves too long a text, or they are
given up after the first that does. -/
theorem expandFromWithin_cases (grammar : Grammar) (limit round count : Nat) (text : Script) :
    (grammar.expandFromWithin limit round count text = .ok (grammar.expandFrom round count text) ∧
      ∀ steps < count, Script.byteCount (grammar.expandFrom round (steps + 1) text) ≤ limit) ∨
    ∃ steps < count,
      limit < Script.byteCount (grammar.expandFrom round (steps + 1) text) ∧
      (∀ earlier < steps, Script.byteCount (grammar.expandFrom round (earlier + 1) text) ≤ limit) ∧
      grammar.expandFromWithin limit round count text =
        .error ⟨grammar.start, Script.byteCount (grammar.expandFrom round (steps + 1) text),
          round + steps + 1, grammar.rounds, limit⟩ := by
  induction count generalizing round text with
  | zero => exact .inl ⟨rfl, fun steps none => absurd none (Nat.not_lt_zero steps)⟩
  | succ count ih =>
    by_cases beyond : limit < Script.byteCount (grammar.expandOnce round text)
    · exact .inr ⟨0, Nat.zero_lt_succ count, beyond, fun _ none => absurd none (Nat.not_lt_zero _),
        if_pos beyond⟩
    · have goesOn : grammar.expandFromWithin limit round (count + 1) text =
          grammar.expandFromWithin limit (round + 1) count (grammar.expandOnce round text) :=
        if_neg beyond
      have first := Nat.not_lt.mp beyond
      rcases ih (round + 1) (grammar.expandOnce round text) with
        ⟨done, within⟩ | ⟨steps, present, later, before, failed⟩
      · refine .inl ⟨goesOn.trans done, fun steps present => ?_⟩
        cases steps with
        | zero => exact first
        | succ steps => exact within steps (Nat.lt_of_succ_lt_succ present)
      · refine .inr ⟨steps + 1, Nat.succ_lt_succ present, later, fun earlier below => ?_, ?_⟩
        · cases earlier with
          | zero => exact first
          | succ earlier => exact before earlier (Nat.lt_of_succ_lt_succ below)
        · rw [goesOn, failed, Nat.add_right_comm round 1 steps]
          rfl

/-- The rounds are carried out to the last one, or up to the first that goes beyond the limit. -/
theorem expandWithin_cases (grammar : Grammar) (limit : Nat) :
    (grammar.expandWithin limit = .ok grammar.expand ∧ grammar.StaysWithin limit) ∨
    ∃ round, grammar.FirstBeyond limit round ∧
      grammar.expandWithin limit = .error (grammar.overflowAt limit round) := by
  rcases grammar.expandFromWithin_cases limit 0 grammar.rounds grammar.start with
    ⟨done, within⟩ | ⟨steps, present, beyond, before, failed⟩
  · refine .inl ⟨done, fun round pos le => ?_⟩
    obtain ⟨steps, rfl⟩ := Nat.exists_eq_add_of_le' pos
    rw [bytesAfter_eq]
    exact within steps le
  · refine .inr ⟨steps + 1, ⟨Nat.le_add_left 1 steps, present, ?_, fun earlier pos below => ?_⟩, ?_⟩
    · rw [bytesAfter_eq]
      exact beyond
    · obtain ⟨earlier, rfl⟩ := Nat.exists_eq_add_of_le' pos
      rw [bytesAfter_eq]
      exact before earlier (Nat.lt_of_succ_lt_succ below)
    · rw [overflowAt, bytesAfter_eq, expandWithin, failed, Nat.zero_add]

theorem expandWithin_eq_ok {text : Script} : grammar.expandWithin limit = .ok text ↔
    text = grammar.expand ∧ grammar.StaysWithin limit := by
  rcases grammar.expandWithin_cases limit with ⟨done, stays⟩ | ⟨round, first, failed⟩
  · rw [done]
    exact ⟨fun same => ⟨(Except.ok.inj same).symm, stays⟩, fun ⟨same, _⟩ => congrArg _ same.symm⟩
  · rw [failed]
    exact ⟨nofun, fun ⟨_, stays⟩ => absurd stays first.not_staysWithin⟩

theorem expandWithin_eq_error {overflow : Overflow} :
    grammar.expandWithin limit = .error overflow ↔
      ∃ round, grammar.FirstBeyond limit round ∧ overflow = grammar.overflowAt limit round := by
  rcases grammar.expandWithin_cases limit with ⟨done, stays⟩ | ⟨round, first, failed⟩
  · rw [done]
    exact ⟨nofun, fun ⟨_, first, _⟩ => absurd stays first.not_staysWithin⟩
  · rw [failed]
    constructor
    · intro same
      exact ⟨round, first, (Except.error.inj same).symm⟩
    · rintro ⟨other, otherFirst, rfl⟩
      rw [first.unique otherFirst]

/-- A limit holds for every text that is given, except that a text of no rounds is not measured. -/
theorem expandWithin_limited_iff (grammar : Grammar) (limit : Nat) :
    (∀ text, grammar.expandWithin limit = .ok text → Script.byteCount text ≤ limit) ↔
      (grammar.rounds = 0 → Script.byteCount grammar.start ≤ limit) := by
  constructor
  · intro limited none
    apply limited
    rw [expandWithin, none]
    rfl
  · intro startLimited text done
    obtain ⟨rfl, stays⟩ := expandWithin_eq_ok.mp done
    rcases Nat.eq_zero_or_pos grammar.rounds with none | some
    · rw [expand, none]
      exact startLimited none
    · have last := stays grammar.rounds some (Nat.le_refl _)
      rwa [bytesAfter_eq] at last

/-- Within a limit the rounds give the text that they give without one, exactly if no round leaves a
text of more bytes. Otherwise the problem names the first round that does, and the bytes that it
leaves. -/
theorem expandWithin_agrees (grammar : Grammar) (limit : Nat) :
    (∀ text, grammar.expandWithin limit = .ok text ↔
      text = grammar.expand ∧ grammar.StaysWithin limit) ∧
    (∀ overflow, grammar.expandWithin limit = .error overflow ↔
      ∃ round, grammar.FirstBeyond limit round ∧ overflow = grammar.overflowAt limit round) ∧
    ∀ round, (Problem.overflow (grammar.overflowAt limit round)).message =
      "Grammar error: " ++ s!"expansion of '{String.ofList grammar.start}' reached " ++
        s!"{grammar.bytesAfter round} bytes after {round}" ++
        s!" of {grammar.rounds} rounds (limit {limit})" := by
  refine ⟨fun _ => expandWithin_eq_ok, fun _ => expandWithin_eq_error, fun round => ?_⟩
  unfold Problem.message Overflow.message overflowAt
  simp only [String.append_assoc, toString]

/-- Two symbols of two bytes each, all of which the second round takes away: the first round is
beyond a limit of three bytes. -/
theorem expandWithin_agrees_of_shrinking :
    ∃ grammar : Grammar, grammar.start = ['a'] ∧ grammar.rounds = 2 ∧ grammar.expand = [] ∧
      grammar.expandWithin 4 = .ok [] ∧ grammar.StaysWithin 4 ∧
      grammar.expandWithin 3 = .error ⟨['a'], 4, 1, 2, 3⟩ ∧ grammar.FirstBeyond 3 1 := by
  let grammar : Grammar :=
    ⟨['a'], .ofList [('a', .constant ['é', 'é']), ('é', .constant [])], 2⟩
  have done : grammar.expandWithin 4 = .ok [] := by decide +kernel
  have failed : grammar.expandWithin 3 = .error ⟨['a'], 4, 1, 2, 3⟩ := by decide +kernel
  obtain ⟨empty, stays⟩ := ((expandWithin_agrees grammar 4).1 []).mp done
  obtain ⟨round, first, named⟩ := ((expandWithin_agrees grammar 3).2.1 _).mp failed
  obtain rfl : 1 = round := congrArg Overflow.round named
  exact ⟨grammar, rfl, rfl, empty.symm, done, stays, failed, first⟩

end Grammar

end RoadGrowth
