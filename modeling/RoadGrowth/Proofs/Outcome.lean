/-!
# Outcomes in sequence

An operation that may fail, followed by another, succeeds if both do and fails if
either does. These are the only facts about such sequences that proofs use.
-/

namespace RoadGrowth

variable {Fault First Last : Type} {first : Except Fault First} {next : First → Except Fault Last}

theorem bind_eq_ok {result : Last} :
    first >>= next = .ok result ↔ ∃ value, first = .ok value ∧ next value = .ok result := by
  cases first with
  | error fault =>
    refine ⟨fun done => ?_, fun ⟨_, done, _⟩ => ?_⟩ <;> cases done
  | ok value =>
    refine ⟨fun done => ⟨value, rfl, done⟩, fun ⟨_, same, done⟩ => ?_⟩
    cases same
    exact done

theorem bind_eq_error {fault : Fault} :
    first >>= next = .error fault ↔
      first = .error fault ∨ ∃ value, first = .ok value ∧ next value = .error fault := by
  cases first with
  | error found =>
    refine ⟨fun failed => ?_, fun failed => ?_⟩
    · cases failed
      exact .inl rfl
    · rcases failed with failed | ⟨_, done, _⟩
      · cases failed
        rfl
      · cases done
  | ok value =>
    refine ⟨fun failed => .inr ⟨value, rfl, failed⟩, fun failed => ?_⟩
    rcases failed with failed | ⟨_, same, failed⟩
    · cases failed
    · cases same
      exact failed

/-- What every step keeps holds after a sequence of steps that all succeed. -/
theorem foldlM_invariant {State Input : Type} {step : State → Input → Except Fault State}
    (property : State → Prop)
    (kept : ∀ {state next : State} {input : Input},
      step state input = .ok next → property state → property next)
    {inputs : List Input} {state last : State} (holds : property state)
    (done : inputs.foldlM step state = .ok last) : property last := by
  induction inputs generalizing state with
  | nil =>
    cases done
    exact holds
  | cons input rest ih =>
    rw [List.foldlM_cons] at done
    obtain ⟨middle, first, others⟩ := bind_eq_ok.mp done
    exact ih (kept first holds) others

/-- A sequence of steps succeeds exactly if each step does from the state that those before it
leave. -/
theorem exists_foldlM_iff {State Input : Type} {step : State → Input → Except Fault State}
    {inputs : List Input} {start : State} :
    (∃ last, inputs.foldlM step start = .ok last) ↔
      ∀ place input state, inputs[place]? = some input →
        (inputs.take place).foldlM step start = .ok state → ∃ next, step state input = .ok next := by
  induction inputs generalizing start with
  | nil => exact ⟨fun _ place input state none => by simp at none, fun _ => ⟨start, rfl⟩⟩
  | cons head rest ih =>
    constructor
    · rintro ⟨last, done⟩ place input state known before
      rw [List.foldlM_cons] at done
      obtain ⟨middle, first, others⟩ := bind_eq_ok.mp done
      cases place with
      | zero =>
        cases known
        cases before
        exact ⟨middle, first⟩
      | succ place =>
        obtain ⟨_, same, before⟩ := bind_eq_ok.mp before
        rw [first] at same
        cases same
        exact ih.mp ⟨last, others⟩ place input state known before
    · intro each
      obtain ⟨middle, first⟩ := each 0 head start rfl rfl
      have later : ∀ place input state, rest[place]? = some input →
          (rest.take place).foldlM step middle = .ok state → ∃ next, step state input = .ok next :=
        fun place input state known before =>
          each (place + 1) input state known (bind_eq_ok.mpr ⟨middle, first, before⟩)
      obtain ⟨last, others⟩ := ih.mpr later
      exact ⟨last, bind_eq_ok.mpr ⟨middle, first, others⟩⟩

/-- A list of operations that all succeed has its results. -/
theorem exists_mapM {Input Output : Type} {operation : Input → Except Fault Output}
    {inputs : List Input} (each : ∀ input ∈ inputs, ∃ output, operation input = .ok output) :
    ∃ outputs, inputs.mapM operation = .ok outputs := by
  induction inputs with
  | nil => exact ⟨[], rfl⟩
  | cons input rest ih =>
    obtain ⟨output, first⟩ := each input List.mem_cons_self
    obtain ⟨outputs, others⟩ := ih fun other member => each other (List.mem_cons_of_mem _ member)
    refine ⟨output :: outputs, ?_⟩
    rw [List.mapM_cons, bind_eq_ok]
    exact ⟨output, first, bind_eq_ok.mpr ⟨outputs, others, rfl⟩⟩

/-- A vector is filled exactly if the operation at each place gives the entry there. -/
theorem ofFnM_eq_ok {Entry : Type} {size : Nat} {operation : Fin size → Except Fault Entry}
    {entries : Vector Entry size} :
    Vector.ofFnM operation = .ok entries ↔
      ∀ place : Fin size, operation place = .ok entries[place.val] := by
  induction size with
  | zero =>
    rw [Vector.ofFnM_zero, entries.eq_empty]
    exact iff_of_true rfl fun place => place.elim0
  | succ size ih =>
    rw [Vector.ofFnM_succ, bind_eq_ok]
    constructor
    · rintro ⟨front, frontDone, done⟩ place
      obtain ⟨last, lastDone, same⟩ := bind_eq_ok.mp done
      cases same
      refine place.lastCases ?_ fun place => ?_
      · rw [lastDone, Vector.getElem_push, dif_neg (by simp)]
      · rw [ih.mp frontDone place, Vector.getElem_push, dif_pos (by simp)]
        rfl
    · intro each
      refine ⟨entries.pop, ih.mpr fun place => ?_, bind_eq_ok.mpr ⟨entries.back, ?_, ?_⟩⟩
      · rw [each, Vector.getElem_pop]
        rfl
      · rw [each, Vector.back_eq_getElem]
        rfl
      · rw [Vector.push_pop_back]
        rfl

/-- A vector can be filled exactly if the operation succeeds at each place. -/
theorem exists_ofFnM_iff {Entry : Type} {size : Nat} {operation : Fin size → Except Fault Entry} :
    (∃ entries, Vector.ofFnM operation = .ok entries) ↔
      ∀ place, ∃ entry, operation place = .ok entry := by
  constructor
  · rintro ⟨entries, done⟩ place
    exact ⟨_, ofFnM_eq_ok.mp done place⟩
  · intro each
    refine ⟨Vector.ofFn fun place => Classical.choose (each place), ofFnM_eq_ok.mpr fun place => ?_⟩
    rw [Vector.getElem_ofFn]
    exact Classical.choose_spec (each place)

theorem toOption_eq_some {value : First} : first.toOption = some value ↔ first = .ok value := by
  cases first <;> simp [Except.toOption]

end RoadGrowth
