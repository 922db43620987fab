import SpatialSql.Proofs.ByteOrder
import SpatialSql.Proofs.Deliveries
import SpatialSql.Proofs.RegistryHistory

/-!
# Registries are well kept

Whatever a registry began with and however it was changed, it lists its names
folded and in the order of their bytes, each of them once; it finds what it
lists; it does not tell names apart that are alike; and its definitions are fit
for use. `WellKept` says so in terms that a caller can observe.

Order and folding are kept by the table, whose entries carry the proof along,
and fitness by the types of definitions and arities. That nothing is listed
that was not given is read off the history.
-/

namespace SpatialSql

open SpatialSql.Action

/-- What a caller may rely on in a definition: its name has a character that is
no white space, it takes at least one argument, and the greatest number of them,
if there is one, is not below the least. -/
structure Definition.Fit (d : Definition) : Prop where
  named : ∃ c ∈ d.name.toList, Text.isBlankChar c = false
  min_pos : 1 ≤ d.arity.min
  min_le_max : ∀ m, d.arity.max = some m → d.arity.min ≤ m

theorem Text.not_isBlank_iff {s : String} :
    isBlank s = false ↔ ∃ c ∈ s.toList, isBlankChar c = false := by
  simp only [isBlank, List.all_eq_false, Bool.not_eq_true]

theorem Definition.fit (d : Definition) : d.Fit where
  named := Text.not_isBlank_iff.mp d.name_not_blank
  min_pos := d.arity.min_pos
  min_le_max := d.arity.min_le_max

namespace Registry

/-- What a caller may rely on in a registry. -/
structure WellKept (r : Registry) : Prop where
  /-- The names are listed in the order of their bytes, each of them once. -/
  ordered : (r.entries.map fun e => Name.bytes e.1).Pairwise (· < ·)
  folded : ∀ e ∈ r.entries, Name.fold e.1 = e.1
  size : r.size = r.entries.length
  empty : r.isEmpty = true ↔ r.entries = []
  /-- What is found is what is listed under the folded name. -/
  finds : ∀ n d, r.get? n = some d ↔ (Name.fold n, d) ∈ r.entries
  contains : ∀ n, r.contains n = true ↔ Name.fold n ∈ r.entries.map Prod.fst
  finds_alike : ∀ n n', Name.Alike n n' →
    r.get? n = r.get? n' ∧ r.contains n = r.contains n'
  /-- Registering under one name is registering under the other. -/
  registers_alike : ∀ n n' d, Name.Alike n n' →
    (register n d r).state = (register n' d r).state ∧
      ((register n d r).result = .ok () ↔ (register n' d r).result = .ok ())
  fit : ∀ e ∈ r.entries, e.2.Fit

variable {r : Registry}

theorem contains_iff_mem_keys {n : String} :
    r.contains n = true ↔ Name.fold n ∈ r.entries.map Prod.fst := by
  rw [contains_iff, List.mem_map]
  constructor
  · rintro ⟨d, found⟩
    exact ⟨_, get?_eq_some_iff.mp found, rfl⟩
  · rintro ⟨⟨k, d⟩, listed, rfl⟩
    exact ⟨d, get?_eq_some_iff.mpr listed⟩

theorem register_alike {n n' : String} (alike : Name.Alike n n')
    (d : Definition) :
    (register n d r).state = (register n' d r).state ∧
      ((register n d r).result = .ok () ↔
        (register n' d r).result = .ok ()) := by
  have same : Name.fold n = Name.fold n' := Name.fold_eq_fold_iff.mpr alike
  have taken : r.contains n = r.contains n' :=
    congrArg Option.isSome (get?_congr same)
  rw [register_apply, register_apply, taken]
  split
  · exact ⟨rfl, nofun, nofun⟩
  · refine ⟨?_, fun _ => rfl, fun _ => rfl⟩
    exact congrArg Registry.mk (Name.Table.insert_congr same d)

theorem wellKept (r : Registry) : r.WellKept where
  ordered := List.pairwise_map.mpr
    (r.functions.sorted.imp fun before => Name.bytes_lt_bytes before)
  folded := r.functions.folded
  size := rfl
  empty := List.isEmpty_iff
  finds _ _ := get?_eq_some_iff
  contains _ := contains_iff_mem_keys
  finds_alike n n' alike := by
    have found : r.get? n = r.get? n' :=
      get?_congr (Name.fold_eq_fold_iff.mpr alike)
    exact ⟨found, congrArg Option.isSome found⟩
  registers_alike _ _ d alike := register_alike alike d
  fit e _ := e.2.fit

/-! ## Where registries come from -/

/-- A way to build a registry. -/
inductive Origin
  | base (start : Base)
  | postgresql
  | mysql
  | document (text : String)
  | stream (attempts : List Stream.Attempt)

def Origin.build : Origin → Outcome Registry Unit
  | base start => start.build
  | postgresql => Registry.postgresql
  | mysql => Registry.mysql
  | document text => ofJson text
  | stream attempts => ofStream attempts

/-- What the origin gives to the registry that it builds. -/
def Origin.contribution : Origin → Except Error Contribution
  | base start => start.contribution
  | postgresql => Catalog.contribution Catalog.postgresql
  | mysql => Catalog.contribution Catalog.mysql
  | document text => (Operation.loadJson text).contribution
  | stream attempts => do
    (Operation.loadJson (← Stream.text attempts)).contribution

theorem extends_document {text : String}
    (built : (ofJson text).result = .ok ()) :
    ∃ given, (Operation.loadJson text).contribution = .ok given ∧
      Extends empty given (ofJson text).state :=
  @extends_perform empty (.loadJson text) built

theorem extends_origin {origin : Origin}
    (built : origin.build.result = .ok ()) :
    ∃ given, origin.contribution = .ok given ∧
      Extends empty given origin.build.state := by
  cases origin with
  | base start => exact extends_build built
  | postgresql => exact @extends_build (.catalog Catalog.postgresql) built
  | mysql => exact @extends_build (.catalog Catalog.mysql) built
  | document text => exact extends_document built
  | stream attempts =>
      rw [Origin.build] at built ⊢
      cases read : Stream.text attempts with
      | error e =>
          rw [ofStream_of_error read] at built
          cases built
      | ok text =>
          rw [ofStream_of_text read] at built ⊢
          rw [Origin.contribution, read]
          exact extends_document built

/-- A listed definition was given, under a name like the one it is listed
under. -/
theorem given_of_mem {given : Contribution} (h : Extends empty given r)
    {e : String × Definition} (listed : e ∈ r.entries) :
    ∃ c ∈ given, e = (Name.fold c.1, c.2) := by
  have found : earliest e.1 given = some e.2 := by
    rw [← get?_of_mem listed, h e.1, get?_empty, Option.none_or]
  obtain ⟨c, hc, hd⟩ := Option.map_eq_some_iff.mp found
  have alike : Name.Alike e.1 c.1 := by simpa using List.find?_some hc
  refine ⟨c, List.mem_of_find?_eq_some hc, Prod.ext ?_ hd.symm⟩
  rw [← Name.fold_eq_fold_iff.mpr alike]
  exact (r.functions.folded e listed).symm

/-- A registry that was built and then changed, with or without success, is
well kept. It lists what its origin gave and what the operations gave that
succeeded, under folded names, and nothing else. -/
theorem registry_stays_well_kept (origin : Origin)
    (built : origin.build.result = .ok ()) (operations : List Operation) :
    (after origin.build.state operations).WellKept ∧
      ∃ first later, origin.contribution = .ok first ∧
        (successes origin.build.state operations).mapM (·.1.contribution) =
          .ok later ∧
        ∀ e ∈ (after origin.build.state operations).entries,
          ∃ c ∈ first ++ later.flatten, e = (Name.fold c.1, c.2) := by
  obtain ⟨first, hf, begun⟩ := extends_origin built
  obtain ⟨later, hl, changed⟩ := extends_after origin.build.state operations
  exact ⟨wellKept _, first, later, hf, hl,
    fun _ listed => given_of_mem (begun.trans changed) listed⟩

/-- The registry of a document, which names one function. -/
def accentedOrigin : Origin :=
  .document "[\"deny_all\",[[\"é\",null,1]]]"

/-- The second operation fails, for its document names the same function, and so
does the last one. -/
theorem accented_run_stays_well_kept :
    accentedOrigin.build.result = .ok () ∧
      (after accentedOrigin.build.state accentedRun).WellKept ∧
      (after accentedOrigin.build.state accentedRun).entries.map Prod.fst =
        ["x", "É", "é"] := by
  have built : accentedOrigin.build.result = .ok () := by decide +kernel
  obtain ⟨kept, -⟩ := registry_stays_well_kept accentedOrigin built accentedRun
  exact ⟨built, kept, by decide +kernel⟩

end Registry

end SpatialSql
