/-!
# Tables indexed by symbols

A table keeps its entries in ascending order of their symbols, so that two tables
with the same entries are equal and a listing has one order.
-/

namespace RoadGrowth

/-- Entries in ascending order of their symbols. -/
structure SymbolTable (α : Type) where
  entries : List (Char × α)
  ascending : entries.Pairwise fun left right => left.1 < right.1

namespace SymbolTable

variable {α : Type}

/-- Put an entry in its place, over an entry of the same symbol. -/
def place (symbol : Char) (value : α) : List (Char × α) → List (Char × α)
  | [] => [(symbol, value)]
  | entry :: rest =>
    if symbol < entry.1 then
      (symbol, value) :: entry :: rest
    else if symbol = entry.1 then
      (symbol, value) :: rest
    else
      entry :: place symbol value rest

theorem mem_place {symbol : Char} {value : α} {entry : Char × α} {entries : List (Char × α)}
    (member : entry ∈ place symbol value entries) : entry = (symbol, value) ∨ entry ∈ entries := by
  induction entries with
  | nil => simpa [place] using member
  | cons head rest ih =>
    simp only [place] at member
    split at member
    · simpa using member
    · split at member
      · rcases List.mem_cons.mp member with same | later
        · exact .inl same
        · exact .inr (List.mem_cons_of_mem _ later)
      · rcases List.mem_cons.mp member with same | later
        · exact .inr (same ▸ List.mem_cons_self)
        · exact (ih later).imp id (List.mem_cons_of_mem _)

theorem ascending_place (symbol : Char) (value : α) {entries : List (Char × α)}
    (ascending : entries.Pairwise fun left right => left.1 < right.1) :
    (place symbol value entries).Pairwise fun left right => left.1 < right.1 := by
  induction entries with
  | nil => simp [place]
  | cons head rest ih =>
    have aboveHead := (List.pairwise_cons.mp ascending).1
    have restAscending := (List.pairwise_cons.mp ascending).2
    simp only [place]
    split
    · rename_i before
      refine List.pairwise_cons.mpr ⟨fun entry member => ?_, ascending⟩
      rcases List.mem_cons.mp member with same | later
      · exact same ▸ before
      · exact Char.lt_trans before (aboveHead entry later)
    · split
      · rename_i same
        exact List.pairwise_cons.mpr ⟨fun entry member => same ▸ aboveHead entry member, restAscending⟩
      · rename_i notBefore different
        refine List.pairwise_cons.mpr ⟨fun entry member => ?_, ih restAscending⟩
        rcases mem_place member with same | later
        · subst same
          rcases Char.le_total head.1 symbol with below | above
          · exact Std.lt_of_le_of_ne below (Ne.symm different)
          · exact absurd (Std.lt_of_le_of_ne above different) notBefore
        · exact aboveHead entry later

/-- The table without entries. -/
def empty : SymbolTable α := ⟨[], .nil⟩

/-- The table with an entry added or replaced. -/
def insert (table : SymbolTable α) (symbol : Char) (value : α) : SymbolTable α :=
  ⟨place symbol value table.entries, ascending_place symbol value table.ascending⟩

/-- The table of a list of entries; of two with the same symbol the later one counts. -/
def ofList (entries : List (Char × α)) : SymbolTable α :=
  entries.foldl (fun table entry => table.insert entry.1 entry.2) empty

/-- The value of a symbol. -/
def get? (table : SymbolTable α) (symbol : Char) : Option α :=
  (table.entries.find? fun entry => entry.1 == symbol).map Prod.snd

/-- Whether a symbol has an entry. -/
def contains (table : SymbolTable α) (symbol : Char) : Bool :=
  (table.get? symbol).isSome

/-- The table with every value replaced by its image. -/
def map {β : Type} (table : SymbolTable α) (image : α → β) : SymbolTable β :=
  ⟨table.entries.map fun entry => (entry.1, image entry.2),
    List.pairwise_map.mpr table.ascending⟩

end SymbolTable

end RoadGrowth
