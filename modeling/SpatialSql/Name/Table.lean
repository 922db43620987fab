import SpatialSql.Name.Case

/-!
# Tables of names

A finite map whose keys are names up to ASCII case. The entries are kept in the
order of their keys, and the keys are folded, so two tables that find the same
things are one and the same value, and listing a table answers in a fixed order
whatever the order of insertion was.
-/

namespace SpatialSql.Name

/-- The order of keys: by code points, which is also the order of their UTF-8
bytes. -/
abbrev Precedes {α : Type} (a b : String × α) : Prop :=
  a.1 < b.1

/-- The entries with `value` under `key`, in place of what was there. -/
def insertEntry {α : Type} (key : String) (value : α) :
    List (String × α) → List (String × α)
  | [] => [(key, value)]
  | entry :: rest =>
    if key < entry.1 then (key, value) :: entry :: rest
    else if key = entry.1 then (key, value) :: rest
    else entry :: insertEntry key value rest

theorem mem_insertEntry {α : Type} {key : String} {value : α} {e : String × α}
    {entries : List (String × α)} (h : e ∈ insertEntry key value entries) :
    e = (key, value) ∨ e ∈ entries := by
  induction entries with
  | nil => simpa [insertEntry] using h
  | cons entry rest ih =>
    rw [insertEntry] at h
    split at h
    · simpa using h
    · split at h
      · rcases List.mem_cons.mp h with h | h
        · exact .inl h
        · exact .inr (List.mem_cons_of_mem _ h)
      · rcases List.mem_cons.mp h with h | h
        · exact .inr (h ▸ List.mem_cons_self)
        · exact (ih h).imp_right (List.mem_cons_of_mem _)

theorem lt_of_not_lt_of_ne {a b : String} (h : ¬ a < b) (ne : a ≠ b) : b < a := by
  refine Decidable.byContradiction fun h' => ne ?_
  exact String.le_antisymm (String.not_lt.mp h') (String.not_lt.mp h)

theorem pairwise_insertEntry {α : Type} (key : String) (value : α)
    {entries : List (String × α)} (sorted : entries.Pairwise Precedes) :
    (insertEntry key value entries).Pairwise Precedes := by
  induction entries with
  | nil => simp [insertEntry]
  | cons entry rest ih =>
    rw [List.pairwise_cons] at sorted
    rw [insertEntry]
    split
    · rename_i before
      refine List.pairwise_cons.mpr ⟨fun e he => ?_, List.pairwise_cons.mpr sorted⟩
      rcases List.mem_cons.mp he with rfl | he
      · exact before
      · exact String.lt_trans before (sorted.1 e he)
    · rename_i before
      split
      · rename_i same
        subst same
        exact List.pairwise_cons.mpr sorted
      · rename_i other
        refine List.pairwise_cons.mpr ⟨fun e he => ?_, ih sorted.2⟩
        rcases mem_insertEntry he with rfl | he
        · exact lt_of_not_lt_of_ne before other
        · exact sorted.1 e he

/-- A finite map from names, up to ASCII case, to values. -/
structure Table (α : Type) where
  entries : List (String × α)
  sorted : entries.Pairwise Precedes
  folded : ∀ e ∈ entries, fold e.1 = e.1
  deriving DecidableEq

namespace Table

variable {α : Type}

/-- The table without entries. -/
def empty : Table α where
  entries := []
  sorted := .nil
  folded := by simp

/-- What the table holds under a name, however its letters are cased. -/
def find? (table : Table α) (name : String) : Option α :=
  table.entries.lookup (fold name)

/-- The name is a key of the table. -/
def contains (table : Table α) (name : String) : Bool :=
  (table.find? name).isSome

/-- The number of keys. -/
def size (table : Table α) : Nat :=
  table.entries.length

/-- The table has no keys. -/
def isEmpty (table : Table α) : Bool :=
  table.entries.isEmpty

/-- The table with `value` under `name`, in place of what was there. -/
def insert (table : Table α) (name : String) (value : α) : Table α where
  entries := insertEntry (fold name) value table.entries
  sorted := pairwise_insertEntry _ _ table.sorted
  folded e he := by
    rcases mem_insertEntry he with rfl | he
    · exact fold_fold name
    · exact table.folded e he

/-- The table with all entries of `other` added, which win over entries of the
same name. -/
def extend (table other : Table α) : Table α :=
  other.entries.foldl (fun result entry => result.insert entry.1 entry.2) table

end Table

end SpatialSql.Name
