import Mathlib.Data.List.Induction
import RoadGrowth.Grammar.SymbolTable

/-!
# Look-ups in symbol tables

An entry that is put into a table answers for its own symbol and for no other. A
table is determined by the listing of its entries.
-/

namespace RoadGrowth.SymbolTable

variable {α : Type} {symbol other : Char} {value : α}

theorem get?_empty : (empty : SymbolTable α).get? symbol = none := rfl

theorem find?_place (entries : List (Char × α)) :
    ((place symbol value entries).find? fun entry => entry.1 == other) =
      if other = symbol then some (symbol, value)
      else entries.find? fun entry => entry.1 == other := by
  induction entries with
  | nil =>
    by_cases same : other = symbol
    · simp [place, same]
    · simp [place, same, Ne.symm same]
  | cons entry rest ih =>
    simp only [place]
    by_cases same : other = symbol
    · subst same
      split
      · simp
      · split
        · simp
        · rename_i different
          simp [Ne.symm different, ih]
    · split
      · simp [Ne.symm same]
      · split
        · rename_i replaced
          simp [Ne.symm same, ← replaced]
        · simp only [List.find?_cons, ih, same, if_false]

theorem get?_insert (table : SymbolTable α) :
    (table.insert symbol value).get? other =
      if other = symbol then some value else table.get? other := by
  simp only [get?, insert, find?_place]
  split <;> rfl

theorem get?_map {β : Type} (table : SymbolTable α) (image : α → β) :
    (table.map image).get? symbol = (table.get? symbol).map image := by
  simp only [get?, map, List.find?_map, Option.map_map]
  rfl

theorem mem_entries_of_get? {table : SymbolTable α} (found : table.get? symbol = some value) :
    (symbol, value) ∈ table.entries := by
  obtain ⟨entry, foundEntry, rfl⟩ := Option.map_eq_some_iff.mp found
  have same := List.find?_some foundEntry
  obtain rfl : entry.1 = symbol := by simpa using same
  exact List.mem_of_find?_eq_some foundEntry

/-- Every value of a table is one that was put into it. -/
theorem mem_of_get?_ofList {entries : List (Char × α)}
    (found : (ofList entries).get? symbol = some value) : (symbol, value) ∈ entries := by
  induction entries using List.reverseRecOn with
  | nil => cases found
  | append_singleton entries entry ih =>
    rw [ofList, List.foldl_append, List.foldl_cons, List.foldl_nil, get?_insert] at found
    split at found
    · rename_i same
      cases found
      simp [same]
    · exact List.mem_append_left _ (ih found)

theorem place_last {entries : List (Char × α)} (below : ∀ entry ∈ entries, entry.1 < symbol) :
    place symbol value entries = entries ++ [(symbol, value)] := by
  induction entries with
  | nil => rfl
  | cons entry rest ih =>
    have before := below entry List.mem_cons_self
    rw [place, if_neg (Std.not_lt.mpr (Std.le_of_lt before)), if_neg (Std.ne_of_lt before).symm,
      ih fun other member => below other (List.mem_cons_of_mem _ member)]
    rfl

theorem entries_ofList {entries : List (Char × α)}
    (ascending : entries.Pairwise fun left right => left.1 < right.1) :
    (ofList entries).entries = entries := by
  induction entries using List.reverseRecOn with
  | nil => rfl
  | append_singleton entries entry ih =>
    obtain ⟨before, -, below⟩ := List.pairwise_append.mp ascending
    have placed := ih before
    rw [ofList, List.foldl_append, List.foldl_cons, List.foldl_nil]
    change place entry.1 entry.2 (ofList entries).entries = _
    rw [placed, place_last fun other member => below other member entry (List.mem_singleton_self _)]

/-- A table is the table of its own listing. -/
theorem ofList_entries (table : SymbolTable α) : ofList table.entries = table := by
  have same := entries_ofList table.ascending
  generalize ofList table.entries = listed at same
  cases listed
  cases table
  cases same
  rfl

end RoadGrowth.SymbolTable
