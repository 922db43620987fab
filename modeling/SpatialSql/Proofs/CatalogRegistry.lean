import SpatialSql.Proofs.NameTable
import SpatialSql.Proofs.Runs
import SpatialSql.Proofs.Words
import SpatialSql.Registry.Catalog

/-!
# Registries of catalogs

Registering puts one definition under one free name and leaves all else alone.
Registering the entries of a catalog is that step over and over, so whatever a
catalog's registry finds comes from one of the entries, under its name.

It works out if every entry defines a function and no two names are equal up to
ASCII case. For a given catalog both can be computed, and more cheaply than its
registry; the two that there are were computed here.
-/

namespace SpatialSql

open SpatialSql.Action

/-! ## Definitions from their parts -/

theorem bind_eq_ok_iff {α β : Type} {x : Except Error α}
    {f : α → Except Error β} {b : β} :
    (x >>= f) = .ok b ↔ ∃ a, x = .ok a ∧ f a = .ok b := by
  cases x with
  | error e => exact ⟨nofun, fun ⟨_, h, _⟩ => nomatch h⟩
  | ok a =>
      refine ⟨fun h => ⟨a, rfl, h⟩, ?_⟩
      intro ⟨a', same, h⟩
      rw [Except.ok.inj same]
      exact h

theorem mapError_eq_ok_iff {α ε : Type} {x : Except ε α} {f : ε → Error}
    {a : α} : x.mapError f = .ok a ↔ x = .ok a := by
  cases x with
  | error e => exact ⟨nofun, nofun⟩
  | ok a' =>
      exact ⟨fun h => congrArg Except.ok (Except.ok.inj h),
        fun h => congrArg Except.ok (Except.ok.inj h)⟩

theorem Arity.between_eq_ok_iff {min : Nat} {max : Option Nat} {arity : Arity} :
    between min max = .ok arity ↔ arity.min = min ∧ arity.max = max := by
  obtain ⟨least, greatest, positive, ordered⟩ := arity
  unfold between
  constructor
  · intro h
    split at h
    · split at h
      · cases h
        exact ⟨rfl, rfl⟩
      · split at h
        · cases h
          exact ⟨rfl, rfl⟩
        · cases h
    · cases h
  · intro h
    obtain ⟨rfl, rfl⟩ := h
    simp only at positive ordered ⊢
    rw [dif_pos positive]
    cases greatest with
    | none => rfl
    | some m =>
        simp only
        rw [dif_pos (ordered m rfl)]

theorem Definition.named_eq_ok_iff {name : String} {arity : Arity}
    {platforms : AllowList} {d : Definition} :
    named name arity platforms = .ok d ↔
      d.name = name ∧ d.arity = arity ∧ d.platforms = platforms := by
  obtain ⟨name', arity', platforms', solid⟩ := d
  unfold named
  constructor
  · intro h
    split at h
    · cases h
      exact ⟨rfl, rfl, rfl⟩
    · cases h
  · intro h
    obtain ⟨rfl, rfl, rfl⟩ := h
    rw [dif_pos solid]

theorem Definition.ofCounts_eq_ok_iff {name : String} {min : Nat}
    {max : Option Nat} {platforms : AllowList} {d : Definition} :
    ofCounts name min max platforms = .ok d ↔
      d.name = name ∧ d.arity.min = min ∧ d.arity.max = max ∧
        d.platforms = platforms := by
  unfold ofCounts
  rw [bind_eq_ok_iff]
  constructor
  · intro h
    obtain ⟨arity, bounds, built⟩ := h
    obtain ⟨name, rfl, platforms⟩ := named_eq_ok_iff.mp built
    obtain ⟨min, max⟩ :=
      Arity.between_eq_ok_iff.mp (mapError_eq_ok_iff.mp bounds)
    exact ⟨name, min, max, platforms⟩
  · intro h
    obtain ⟨name, min, max, platforms⟩ := h
    have bounds := Arity.between_eq_ok_iff.mpr ⟨min, max⟩
    exact ⟨d.arity, mapError_eq_ok_iff.mpr bounds,
      named_eq_ok_iff.mpr ⟨name, rfl, platforms⟩⟩

/-- The definition of an entry has the entry's name. -/
theorem Catalog.Entry.name_of_definition {entry : Entry} {d : Definition}
    (h : entry.definition = .ok d) : d.name = entry.name :=
  (Definition.ofCounts_eq_ok_iff.mp h).1

/-! ## Catalogs -/

/-- A catalog that makes a registry, and whose names are names in queries. -/
structure Catalog.Fit (catalog : List Entry) : Prop where
  defines : ∀ e ∈ catalog, e.definition.isOk
  distinct : (catalog.map fun e => e.name.toList.map Char.toLower).Nodup
  names : ∀ e ∈ catalog, Query.spellsName e.name

namespace Registry

variable {registry registry' : Registry}

theorem get?_empty (name : String) : empty.get? name = none := rfl

/-! ## One function -/

theorem register_apply (name : String) (definition : Definition)
    (registry : Registry) :
    register name definition registry =
      if registry.contains name then
        ⟨.error (.duplicateFunction name), registry, []⟩
      else ⟨.ok (), ⟨registry.functions.insert name definition⟩,
        [.registered name definition.name]⟩ := by
  rw [register, state_bind]
  split <;> rfl

theorem yields_register {name : String} {definition : Definition} {u : Unit} :
    (register name definition).Yields registry u registry' ↔
      registry.get? name = none ∧
        registry' = ⟨registry.functions.insert name definition⟩ := by
  have taken : registry.contains name = (registry.get? name).isSome := rfl
  rw [register, yields_state_bind, taken]
  cases registry.get? name with
  | none =>
      constructor
      · rintro ⟨-, rfl⟩
        exact ⟨rfl, rfl⟩
      · rintro ⟨-, rfl⟩
        exact ⟨rfl, rfl⟩
  | some d => exact ⟨fun h => absurd h yields_fail, nofun⟩

theorem get?_of_register {name : String} {definition : Definition} {u : Unit}
    (h : (register name definition).Yields registry u registry') (n : String) :
    registry'.get? n =
      if Name.fold n = Name.fold name then some definition
      else registry.get? n := by
  obtain ⟨-, rfl⟩ := yields_register.mp h
  exact Name.Table.find?_insert registry.functions name n definition

/-! ## All functions of a catalog -/

theorem yields_registerAll_cons {entry : Catalog.Entry}
    {entries : List Catalog.Entry} {u : Unit} :
    (registerAll (entry :: entries)).Yields registry u registry' ↔
      ∃ definition middle, entry.definition = .ok definition ∧
        (register entry.name definition).Yields registry () middle ∧
        (registerAll entries).Yields middle u registry' := by
  rw [registerAll, yields_bind]
  constructor
  · rintro ⟨definition, start, defined, h⟩
    obtain ⟨_, middle, first, others⟩ := yields_bind.mp h
    cases he : entry.definition with
    | error e =>
        rw [he] at defined
        exact absurd defined yields_fail
    | ok d =>
        rw [he] at defined
        obtain ⟨rfl, rfl⟩ := yields_pure.mp defined
        exact ⟨definition, middle, rfl, first, others⟩
  · rintro ⟨definition, middle, defined, first, others⟩
    refine ⟨definition, registry, ?_,
      yields_bind.mpr ⟨(), middle, first, others⟩⟩
    rw [defined]
    exact yields_pure.mpr ⟨rfl, rfl⟩

/-- What is found after registering was there before or is defined by an entry
of that name. -/
theorem origin_of_registerAll {entries : List Catalog.Entry} {u : Unit}
    (h : (registerAll entries).Yields registry u registry') {name : String}
    {definition : Definition} (found : registry'.get? name = some definition) :
    registry.get? name = some definition ∨
      ∃ e ∈ entries, Name.fold e.name = Name.fold name ∧
        e.definition = .ok definition := by
  induction entries generalizing registry with
  | nil =>
      obtain ⟨-, rfl⟩ := yields_pure.mp h
      exact Or.inl found
  | cons entry entries ih =>
      obtain ⟨d, middle, defined, first, others⟩ := yields_registerAll_cons.mp h
      rcases ih others with before | ⟨e, he, found⟩
      · rw [get?_of_register first] at before
        split at before
        · next same =>
            obtain rfl := Option.some.inj before
            exact Or.inr ⟨entry, List.mem_cons_self, same.symm, defined⟩
        · exact Or.inl before
      · exact Or.inr ⟨e, List.mem_cons_of_mem _ he, found⟩

theorem exists_of_isOk {α : Type} {x : Except Error α} (h : x.isOk = true) :
    ∃ a, x = .ok a := by
  cases x with
  | error e => cases h
  | ok a => exact ⟨a, rfl⟩

theorem registerAll_succeeds {entries : List Catalog.Entry}
    (defines : ∀ e ∈ entries, e.definition.isOk)
    (distinct : (entries.map fun e => Name.fold e.name).Nodup)
    (free : ∀ e ∈ entries, registry.get? e.name = none) :
    ∃ registry', (registerAll entries).Yields registry () registry' := by
  induction entries generalizing registry with
  | nil => exact ⟨registry, yields_pure.mpr ⟨rfl, rfl⟩⟩
  | cons entry entries ih =>
      obtain ⟨fresh, distinct⟩ := List.nodup_cons.mp distinct
      obtain ⟨d, defined⟩ := exists_of_isOk (defines entry List.mem_cons_self)
      have first : (register entry.name d).Yields registry ()
          ⟨registry.functions.insert entry.name d⟩ :=
        yields_register.mpr ⟨free entry List.mem_cons_self, rfl⟩
      have free' : ∀ e ∈ entries,
          get? ⟨registry.functions.insert entry.name d⟩ e.name = none := by
        intro e he
        have other : Name.fold e.name ≠ Name.fold entry.name :=
          fun same => fresh (List.mem_map.mpr ⟨e, he, same⟩)
        rw [get?_of_register first, if_neg other]
        exact free e (List.mem_cons_of_mem _ he)
      obtain ⟨registry', others⟩ :=
        ih (fun e he => defines e (List.mem_cons_of_mem _ he)) distinct free'
      exact ⟨registry',
        yields_registerAll_cons.mpr ⟨d, _, defined, first, others⟩⟩

/-- Names may be compared as lists of small letters. -/
theorem nodup_fold_of_chars {entries : List Catalog.Entry}
    (h : (entries.map fun e => e.name.toList.map Char.toLower).Nodup) :
    (entries.map fun e => Name.fold e.name).Nodup := by
  have distinct : ((entries.map fun e => Name.fold e.name).map
      String.toList).Nodup := by
    rw [List.map_map]
    simpa only [Function.comp_def, Name.toList_fold] using h
  exact List.Pairwise.of_map String.toList (fun _ _ ne eq => ne (congrArg _ eq))
    distinct

theorem ofCatalog_yields {catalog : List Catalog.Entry}
    (fit : Catalog.Fit catalog) :
    (ofCatalog catalog).result = .ok () ∧
      (registerAll catalog).Yields empty () (ofCatalog catalog).state := by
  obtain ⟨made, registered⟩ := registerAll_succeeds fit.defines
    (nodup_fold_of_chars fit.distinct) fun e _ => get?_empty e.name
  obtain ⟨hr, hs⟩ : (ofCatalog catalog).result = .ok () ∧
      (ofCatalog catalog).state = made :=
    yields_bind.mpr ⟨(), made, registered, rfl, rfl⟩
  exact ⟨hr, hs ▸ registered⟩

theorem ofCatalog_succeeds {catalog : List Catalog.Entry}
    (fit : Catalog.Fit catalog) : (ofCatalog catalog).result = .ok () :=
  (ofCatalog_yields fit).1

theorem origin_of_ofCatalog {catalog : List Catalog.Entry}
    (fit : Catalog.Fit catalog) {name : String} {d : Definition}
    (found : (ofCatalog catalog).state.get? name = some d) :
    ∃ e ∈ catalog, Name.fold e.name = Name.fold name ∧ d.name = e.name := by
  rcases origin_of_registerAll (ofCatalog_yields fit).2 found with
    none | ⟨e, he, same, defined⟩
  · cases none
  · exact ⟨e, he, same, Catalog.Entry.name_of_definition defined⟩

end Registry

theorem Catalog.postgresql_fit : Fit Catalog.postgresql :=
  ⟨by decide +kernel, by decide +kernel, by decide +kernel⟩

theorem Catalog.mysql_fit : Fit Catalog.mysql :=
  ⟨by decide +kernel, by decide +kernel, by decide +kernel⟩

end SpatialSql
