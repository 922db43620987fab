import SpatialSql.Registry.Basic

/-!
# What a table of names finds

A table is searched by walking its entries. Since their keys strictly
increase there is one entry a key, so searching is the same as membership,
and that is the form in which everything else asks about tables.

The keys are folded, and what that means for names is said first and without
folding: two names have one key if they are `Alike`.
-/

namespace SpatialSql.Name

/-- The characters are one, or they are the two cases of one ASCII letter. -/
def SameLetter (a b : Char) : Prop :=
  a = b ∨ (a.isUpper = true ∧ b.toNat = a.toNat + 32) ∨
    (b.isUpper = true ∧ a.toNat = b.toNat + 32)

instance (a b : Char) : Decidable (SameLetter a b) :=
  inferInstanceAs (Decidable (_ ∨ _))

/-- The names are equal up to the case of ASCII letters. -/
def Alike (a b : String) : Prop :=
  a.toList.length = b.toList.length ∧
    ∀ p ∈ a.toList.zip b.toList, SameLetter p.1 p.2

instance (a b : String) : Decidable (Alike a b) :=
  inferInstanceAs (Decidable (_ ∧ _))

theorem isUpper_iff {c : Char} :
    c.isUpper = true ↔ 65 ≤ c.toNat ∧ c.toNat ≤ 90 :=
  ⟨of_decide_eq_true, decide_eq_true⟩

theorem toNat_toLower (c : Char) :
    c.toLower.toNat =
      if 65 ≤ c.toNat ∧ c.toNat ≤ 90 then c.toNat + 32 else c.toNat := by
  split
  · next capital =>
      have lowered := congrArg UInt32.toNat (toLower_of_capital capital)
      have small : c.val.toNat + 32 < 2 ^ 32 := by
        have : c.val.toNat ≤ 90 := capital.2
        omega
      rw [UInt32.toNat_add] at lowered
      exact lowered.trans (Nat.mod_eq_of_lt small)
  · next other => rw [toLower_of_not_capital other]

theorem toLower_eq_iff {a b : Char} :
    a.toLower = b.toLower ↔ SameLetter a b := by
  rw [SameLetter, isUpper_iff, isUpper_iff, ← Char.toNat_inj, ← Char.toNat_inj,
    toNat_toLower, toNat_toLower]
  split <;> split <;> omega

theorem map_toLower_eq_iff {as bs : List Char} :
    as.map Char.toLower = bs.map Char.toLower ↔
      as.length = bs.length ∧ ∀ p ∈ as.zip bs, SameLetter p.1 p.2 := by
  induction as generalizing bs with
  | nil => cases bs <;> simp
  | cons a as ih =>
      cases bs with
      | nil => simp
      | cons b bs =>
          simp only [List.map_cons, List.cons.injEq, ih, toLower_eq_iff,
            List.length_cons, List.zip_cons_cons, List.forall_mem_cons,
            Nat.add_right_cancel_iff]
          exact and_left_comm

/-- Folding picks one representative of the names that are alike. -/
theorem fold_eq_fold_iff {a b : String} : fold a = fold b ↔ Alike a b := by
  rw [← String.toList_inj, toList_fold, toList_fold, map_toLower_eq_iff, Alike]

/-- No character but an ASCII letter has another case. -/
theorem SameLetter.eq_of_not_ascii {a b : Char} (h : SameLetter a b)
    (high : 128 ≤ a.toNat) : a = b := by
  rcases h with same | ⟨capital, lowered⟩ | ⟨capital, lowered⟩
  · exact same
  · have := isUpper_iff.mp capital
    omega
  · have := isUpper_iff.mp capital
    omega

theorem Alike.getElem? {a b : String} (h : Alike a b) {i : Nat} {c : Char}
    (at_ : a.toList[i]? = some c) (high : 128 ≤ c.toNat) :
    b.toList[i]? = some c := by
  obtain ⟨length, same⟩ := h
  obtain ⟨hi, rfl⟩ := List.getElem?_eq_some_iff.mp at_
  have hi' : i < b.toList.length := length ▸ hi
  have mem : (a.toList[i], b.toList[i]) ∈ a.toList.zip b.toList := by
    rw [← List.getElem_zip (h := by rw [List.length_zip]; omega)]
    exact List.getElem_mem _
  have equal : a.toList[i] = b.toList[i] :=
    (same _ mem).eq_of_not_ascii high
  rw [List.getElem?_eq_getElem hi', equal]
end SpatialSql.Name

namespace SpatialSql.Name.Table

variable {α : Type}

theorem find?_eq_some_iff {table : Table α} {name : String} {value : α} :
    table.find? name = some value ↔ (fold name, value) ∈ table.entries := by
  rw [find?, List.lookup_eq_some_iff]
  constructor
  · rintro ⟨l₁, l₂, heq, -⟩
    rw [heq]
    exact List.mem_append_right _ List.mem_cons_self
  · intro h
    obtain ⟨l₁, l₂, heq⟩ := List.append_of_mem h
    refine ⟨l₁, l₂, heq, fun e he => ?_⟩
    have sorted := table.sorted
    rw [heq] at sorted
    have before : e.1 < fold name :=
      (List.pairwise_append.mp sorted).2.2 e he _ List.mem_cons_self
    simp only [bne_iff_ne, ne_eq]
    rintro same
    rw [same] at before
    exact String.lt_irrefl _ before

/-- Every entry is found under its key. -/
theorem find?_of_mem {table : Table α} {e : String × α} (h : e ∈ table.entries) :
    table.find? e.1 = some e.2 := by
  rw [find?_eq_some_iff, table.folded e h]
  exact h

theorem lookup_cons_eq_ite (k : String) (e : String × α)
    (entries : List (String × α)) :
    (e :: entries).lookup k = if k = e.1 then some e.2 else entries.lookup k := by
  rw [List.lookup_cons]
  by_cases h : k = e.1
  · rw [if_pos h, beq_iff_eq.mpr h]
  · rw [if_neg h, beq_eq_false_iff_ne.mpr h]

theorem lookup_insertEntry (key k : String) (value : α)
    (entries : List (String × α)) :
    (insertEntry key value entries).lookup k =
      if k = key then some value else entries.lookup k := by
  induction entries with
  | nil => rw [insertEntry, lookup_cons_eq_ite]
  | cons entry rest ih =>
      rw [insertEntry]
      split
      · rw [lookup_cons_eq_ite]
      · split
        · next same =>
            subst same
            rw [lookup_cons_eq_ite, lookup_cons_eq_ite]
            split
            · rfl
            · rfl
        · next other =>
            rw [lookup_cons_eq_ite, lookup_cons_eq_ite, ih]
            by_cases hk : k = entry.1
            · rw [if_pos hk, if_pos hk, if_neg fun h => other (h.symm.trans hk)]
            · rw [if_neg hk, if_neg hk]

theorem find?_insert (table : Table α) (name n : String) (value : α) :
    (table.insert name value).find? n =
      if fold n = fold name then some value else table.find? n :=
  lookup_insertEntry (fold name) (fold n) value table.entries

/-- Inserting under a key that is not there puts one entry among the others. -/
theorem insertEntry_perm {key : String} {value : α}
    {entries : List (String × α)} (fresh : key ∉ entries.map Prod.fst) :
    (insertEntry key value entries).Perm ((key, value) :: entries) := by
  induction entries with
  | nil => exact .refl _
  | cons entry rest ih =>
      rw [List.map_cons, List.mem_cons, not_or] at fresh
      rw [insertEntry]
      split
      · exact .refl _
      · rw [if_neg fresh.1]
        exact ((ih fresh.2).cons entry).trans (.swap _ _ _)

theorem find?_congr {table : Table α} {name n : String} (h : fold name = fold n) :
    table.find? name = table.find? n := by
  rw [find?, find?, h]

theorem insert_congr {table : Table α} {name n : String}
    (h : fold name = fold n) (value : α) :
    table.insert name value = table.insert n value := by
  unfold insert
  congr 1
  rw [h]

/-- Adding entries of different names one by one, each is found, and else what
was found before. -/
theorem find?_foldl_insert {entries : List (String × α)}
    (sorted : entries.Pairwise Precedes) (folded : ∀ e ∈ entries, fold e.1 = e.1)
    (table : Table α) (name : String) :
    (entries.foldl (fun table e => table.insert e.1 e.2) table).find? name =
      (entries.lookup (fold name)).or (table.find? name) := by
  induction entries generalizing table with
  | nil => rfl
  | cons e es ih =>
      obtain ⟨before, sorted⟩ := List.pairwise_cons.mp sorted
      have folded' : ∀ e' ∈ es, fold e'.1 = e'.1 :=
        fun e' he => folded e' (List.mem_cons_of_mem _ he)
      rw [List.foldl_cons, ih sorted folded', find?_insert, lookup_cons_eq_ite,
        folded e List.mem_cons_self]
      by_cases same : fold name = e.1
      · -- the keys behind the first entry are greater, so none is its own
        have absent : es.lookup (fold name) = none := by
          refine List.lookup_eq_none_iff.mpr fun e' he => bne_iff_ne.mpr ?_
          intro again
          have earlier : e.1 < e'.1 := before e' he
          rw [← again, same] at earlier
          exact String.lt_irrefl _ earlier
        rw [if_pos same, if_pos same, absent]
        rfl
      · rw [if_neg same, if_neg same]

theorem find?_extend (table other : Table α) (name : String) :
    (table.extend other).find? name =
      (other.find? name).or (table.find? name) :=
  find?_foldl_insert other.sorted other.folded table name

/-- A table has one order of entries, so the entries make the table. -/
theorem ext_perm {table table' : Table α}
    (h : table.entries.Perm table'.entries) : table = table' := by
  have equal : table.entries = table'.entries :=
    h.eq_of_pairwise (fun a b _ _ before after =>
      absurd after (String.lt_asymm before)) table.sorted table'.sorted
  cases table
  cases table'
  cases equal
  rfl

/-- A table is what is found in it. -/
theorem ext_find? {table table' : Table α}
    (h : ∀ name, table.find? name = table'.find? name) : table = table' := by
  have nodup : ∀ t : Table α, t.entries.Nodup := by
    intro t
    refine List.Pairwise.imp (fun {a b} before => ?_) t.sorted
    rintro rfl
    exact String.lt_irrefl _ before
  have transfer : ∀ t t' : Table α, (∀ name, t.find? name = t'.find? name) →
      ∀ e ∈ t.entries, e ∈ t'.entries := by
    intro t t' h e he
    have found := find?_eq_some_iff.mp ((h e.1).symm.trans (find?_of_mem he))
    rwa [t.folded e he] at found
  exact ext_perm ((List.perm_ext_iff_of_nodup (nodup table) (nodup table')).mpr
    fun e => ⟨transfer table table' h e,
      transfer table' table (fun n => (h n).symm) e⟩)

end SpatialSql.Name.Table

namespace SpatialSql.Registry

theorem get?_eq_some_iff {registry : Registry} {name : String}
    {definition : Definition} :
    registry.get? name = some definition ↔
      (Name.fold name, definition) ∈ registry.entries :=
  Name.Table.find?_eq_some_iff

theorem get?_of_mem {registry : Registry} {e : String × Definition}
    (h : e ∈ registry.entries) : registry.get? e.1 = some e.2 :=
  Name.Table.find?_of_mem h

theorem get?_congr {registry : Registry} {name n : String}
    (h : Name.fold name = Name.fold n) :
    registry.get? name = registry.get? n :=
  Name.Table.find?_congr h

theorem contains_iff {registry : Registry} {name : String} :
    registry.contains name = true ↔
      ∃ definition, registry.get? name = some definition := by
  rw [contains, Name.Table.contains, Option.isSome_iff_exists]
  rfl

theorem not_contains_iff {registry : Registry} {name : String} :
    registry.contains name = false ↔ registry.get? name = none := by
  rw [contains, Name.Table.contains, Option.isSome_eq_false_iff,
    Option.isNone_iff_eq_none]
  rfl

end SpatialSql.Registry
