import RoadGrowth.Json.Record
import RoadGrowth.Proofs.Json.Value

/-!
# Records read back

A record whose members are written in declared order opens with the value of every
name. Counts, texts and truth values read back from what is written for them. Null
stands for every single that is not finite, and null is no single.
-/

namespace RoadGrowth.Json.Value

/-- An object with the members of a record in declared order. -/
def record (names : List String) (values : List Value) : Value :=
  .object (names.zipWith member values)

variable {names : List String} {values : List Value}

/-! ## Opening a record -/

theorem keys_record (length : values.length = names.length) :
    (names.zipWith member values).map Prod.fst = names.map fun name => some name.toList := by
  induction names generalizing values with
  | nil => rfl
  | cons name names ih =>
    match values with
    | value :: values => exact congrArg _ (ih (Nat.succ.inj length))

theorem membersFit_record (nodup : names.Nodup) (length : values.length = names.length) :
    membersFit names (names.zipWith member values) := by
  have keys := keys_record length
  simp only [membersFit, Bool.and_eq_true, List.all_eq_true, decide_eq_true_eq]
  constructor
  · intro member present
    have key := List.mem_map_of_mem (f := Prod.fst) present
    rw [keys] at key
    obtain ⟨name, -, same⟩ := List.mem_map.mp key
    rw [← same]
    rfl
  · intro name _
    have counted : (((names.zipWith member values).map Prod.fst).countP fun key =>
        key = some name.toList) = names.count name := by
      rw [keys, List.countP_map, List.count]
      refine List.countP_congr fun other _ => ?_
      simp [String.toList_inj]
    rw [List.countP_map] at counted
    exact counted.le.trans (List.nodup_iff_count_le_one.mp nodup name)

theorem find?_record (length : values.length = names.length) (name : String) :
    ((names.zipWith member values).find? fun member => member.1 = some name.toList).map Prod.snd =
      values[names.idxOf name]? := by
  induction names generalizing values with
  | nil => rw [List.length_eq_zero_iff.mp length]; rfl
  | cons other names ih =>
    match values with
    | value :: values =>
      by_cases same : other = name
      · simp [member, same]
      · have later := ih (Nat.succ.inj length)
        simp [member, same, String.toList_inj, later]

/-- A record opens with the value of every name. -/
theorem fields?_record (names : List String) (values : List Value) (nodup : names.Nodup)
    (length : values.length = names.length) :
    (record names values).fields? names = some fun name => values[names.idxOf name]? := by
  rw [record, fields?, if_pos (membersFit_record nodup length)]
  exact congrArg some (funext fun name => find?_record length name)

/-! ## Written values -/

theorem writable_record (names : List String) (values : List Value)
    (each : ∀ value ∈ values, value.Writable) :
    (record names values).Writable := by
  have parts : ∀ entry ∈ names.zipWith member values, entry.1.isSome ∧ entry.2 ∈ values := by
    clear each
    induction names generalizing values with
    | nil => simp
    | cons name names ih =>
      match values with
      | [] => simp
      | value :: values =>
        intro entry present
        rcases List.mem_cons.mp present with rfl | later
        · exact ⟨rfl, List.mem_cons_self⟩
        · exact (ih values entry later).imp_right (List.mem_cons_of_mem _)
  exact .object (fun entry present => (parts entry present).1)
    fun entry present => each entry.2 (parts entry present).2

theorem writable_ofCount (count : Nat) : (ofCount count).Writable :=
  .number (Numeral.ofCount_wellFormed count)

theorem writable_ofText (text : List Char) : (ofText text).Writable := .string text

theorem writable_ofSingle (single : Float32) : (ofSingle single).Writable := by
  unfold ofSingle
  split
  · rename_i written
    exact .number (Numeral.ofSingle?_wellFormed written)
  · exact .null

/-! ## Read values -/

theorem word32?_ofCount (word : UInt32) : (ofCount word.toNat).word32? = some word := by
  have below : word.toNat < UInt32.size := word.toNat_lt
  simp [word32?, count?, ofCount, Numeral.count?_ofCount, below]

theorem word64?_ofCount (word : UInt64) : (ofCount word.toNat).word64? = some word := by
  have below : word.toNat < UInt64.size := word.toNat_lt
  simp [word64?, count?, ofCount, Numeral.count?_ofCount, below]

/-- A single that reads back from its numeral, if it has one. -/
def Legible (single : Float32) : Prop :=
  single.isFinite → (ofSingle single).single? = some single

/-- Whatever is read for a single, the single was finite. -/
theorem isFinite_of_single? {single found : Float32}
    (read : (ofSingle single).single? = some found) : single.isFinite := by
  by_contra infinite
  rw [ofSingle, Numeral.ofSingle?, if_neg infinite] at read
  cases read

end RoadGrowth.Json.Value
