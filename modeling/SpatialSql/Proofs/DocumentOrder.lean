import Mathlib.Data.List.Perm.Basic
import SpatialSql.Proofs.RegistryInvariant

/-!
# The order of functions in a document

The functions of a configuration are gone through one after the other, and each
is held against those before it. What is asked of them taken together has no
order all the same: each of them is `Sound`, no two have one name and none has a
name of the registry. A registry `Welcomes` such functions and no others.

Registering them one by one shows it. A step is possible if the first function
is sound and its name is free; it puts one more name in the registry, and to be
free of that name is what the later functions need not to have it.

A registry that was loaded lists what it listed and one entry for each function.
Two orders list the same entries, and an order of entries a registry has only
one, so the registries are equal.
-/

namespace SpatialSql

open SpatialSql.Action

/-! ## What a function has to be -/

/-- The function can be defined: it takes at least one argument, the greatest
number of them, if there is one, is not below the least, and its name in SQL has
a character that is no white space. -/
structure Configuration.Entry.Sound (entry : Entry) : Prop where
  min_pos : 1 ≤ entry.min
  min_le_max : ∀ m, entry.max = some m → entry.min ≤ m
  named : ∃ c ∈ (entry.sqlName.getD entry.name).toList,
    Text.isBlankChar c = false

/-- What a registry lists for the function: the folded name and a definition
that says what the function does, under the policy of the document. -/
structure Configuration.Entry.ListedAs (policy : AllowList.Policy)
    (entry : Entry) (e : String × Definition) : Prop where
  key : e.1 = Name.fold entry.name
  name : e.2.name = entry.sqlName.getD entry.name
  min : e.2.arity.min = entry.min
  max : e.2.arity.max = entry.max
  policy : e.2.platforms.policy = policy
  platforms : ∀ p, p ∈ e.2.platforms.platforms ↔ p ∈ entry.platforms

/-- The function makes this definition and is to be listed with it. -/
def Configuration.Entry.Defines (policy : AllowList.Policy) (entry : Entry)
    (e : String × Definition) : Prop :=
  e.1 = Name.fold entry.name ∧ entry.definition policy = .ok e.2

/-! ## The definition of a function -/

theorem Configuration.Entry.definition_eq_ok_iff {entry : Entry}
    {policy : AllowList.Policy} {d : Definition} :
    entry.definition policy = .ok d ↔
      d.name = entry.sqlName.getD entry.name ∧
        d.arity.min = entry.min ∧ d.arity.max = entry.max ∧
        d.platforms = (AllowList.ofList entry.platforms).withPolicy policy :=
  Definition.ofCounts_eq_ok_iff

namespace Configuration.Entry

variable {policy : AllowList.Policy} {entry : Entry}

theorem exists_defines_iff :
    (∃ d, entry.definition policy = .ok d) ↔ entry.Sound := by
  constructor
  · intro h
    obtain ⟨d, defined⟩ := h
    obtain ⟨name, min, max, -⟩ := definition_eq_ok_iff.mp defined
    exact ⟨min ▸ d.fit.min_pos, min ▸ max ▸ d.fit.min_le_max, name ▸ d.fit.named⟩
  · intro h
    exact ⟨⟨entry.sqlName.getD entry.name,
      ⟨entry.min, entry.max, h.min_pos, h.min_le_max⟩,
      (AllowList.ofList entry.platforms).withPolicy policy,
      Text.not_isBlank_iff.mpr h.named⟩,
      definition_eq_ok_iff.mpr ⟨rfl, rfl, rfl, rfl⟩⟩

theorem Defines.listedAs {e : String × Definition} (h : entry.Defines policy e) :
    entry.ListedAs policy e := by
  obtain ⟨name, min, max, platforms⟩ := definition_eq_ok_iff.mp h.2
  refine ⟨h.1, name, min, max, ?_, fun p => ?_⟩
  · rw [platforms]
    rfl
  · rw [platforms]
    exact AllowList.mem_ofList

theorem Defines.unique {e e' : String × Definition}
    (h : entry.Defines policy e) (h' : entry.Defines policy e') : e = e' :=
  Prod.ext (h.1.trans h'.1.symm) (Except.ok.inj (h.2.symm.trans h'.2))

end Configuration.Entry

namespace Registry

variable {r r' : Registry} {policy : AllowList.Policy}
  {entry : Configuration.Entry} {entries entries' : List Configuration.Entry}

/-! ## What the functions have to be together -/

/-- The functions can be added to the registry: each can be defined, and no two
of them have one name up to ASCII case, nor has one the name of a function that
is there. -/
structure Welcomes (r : Registry) (entries : List Configuration.Entry) :
    Prop where
  sound : ∀ e ∈ entries, e.Sound
  distinct : (entries.map fun e => Name.fold e.name).Nodup
  free : ∀ e ∈ entries, Name.fold e.name ∉ r.entries.map Prod.fst

theorem Welcomes.perm (h : r.Welcomes entries) (same : entries.Perm entries') :
    r.Welcomes entries' where
  sound e he := h.sound e (same.mem_iff.mpr he)
  distinct := (same.map _).nodup_iff.mp h.distinct
  free e he := h.free e (same.mem_iff.mpr he)

theorem entries_insert_perm {name : String}
    (fresh : Name.fold name ∉ r.entries.map Prod.fst) (d : Definition) :
    (Registry.mk (r.functions.insert name d)).entries.Perm
      ((Name.fold name, d) :: r.entries) :=
  Name.Table.insertEntry_perm fresh

theorem welcomes_nil : r.Welcomes [] where
  sound := List.forall_mem_nil _
  distinct := .nil
  free := List.forall_mem_nil _

theorem welcomes_cons_iff (d : Definition) :
    r.Welcomes (entry :: entries) ↔
      entry.Sound ∧ Name.fold entry.name ∉ r.entries.map Prod.fst ∧
        (Registry.mk (r.functions.insert entry.name d)).Welcomes entries := by
  constructor
  · intro h
    obtain ⟨sound, others⟩ := List.forall_mem_cons.mp h.sound
    obtain ⟨fresh, free⟩ := List.forall_mem_cons.mp h.free
    obtain ⟨apart, distinct⟩ := List.nodup_cons.mp h.distinct
    refine ⟨sound, fresh, others, distinct, fun e he => ?_⟩
    rw [((entries_insert_perm fresh d).map Prod.fst).mem_iff, List.map_cons,
      List.mem_cons, not_or]
    refine ⟨fun same => apart ?_, free e he⟩
    exact List.mem_map.mpr ⟨e, he, same⟩
  · intro h
    obtain ⟨sound, fresh, later⟩ := h
    have keys : ∀ e ∈ entries, Name.fold e.name ≠ Name.fold entry.name ∧
        Name.fold e.name ∉ r.entries.map Prod.fst := by
      intro e he
      have free := later.free e he
      rw [((entries_insert_perm fresh d).map Prod.fst).mem_iff, List.map_cons,
        List.mem_cons, not_or] at free
      exact free
    refine ⟨List.forall_mem_cons.mpr ⟨sound, later.sound⟩, ?_, ?_⟩
    · refine List.nodup_cons.mpr ⟨fun again => ?_, later.distinct⟩
      obtain ⟨e, he, same⟩ := List.mem_map.mp again
      exact (keys e he).1 same
    · exact List.forall_mem_cons.mpr ⟨fresh, fun e he => (keys e he).2⟩

/-! ## Registering them one by one -/

theorem enrol_cons_ok_iff :
    (Configuration.enrol ⟨policy, entry :: entries⟩ r).ending = .ok r' ↔
      ∃ d, entry.definition policy = .ok d ∧
        Name.fold entry.name ∉ r.entries.map Prod.fst ∧
        (Configuration.enrol ⟨policy, entries⟩
          ⟨r.functions.insert entry.name d⟩).ending = .ok r' := by
  have step : (Configuration.enrol ⟨policy, entry :: entries⟩ r).ending =
      (entry.enrol policy r).ending >>= fun r₁ =>
        (Configuration.enrol ⟨policy, entries⟩ r₁).ending :=
    ending_forM_cons _ entry entries r
  rw [step, bind_eq_ok_iff, ending_enrol]
  simp only [bind_eq_ok_iff, ending_register, ← contains_iff_mem_keys]
  constructor
  · intro h
    obtain ⟨r₁, ⟨d, defined, registered⟩, later⟩ := h
    split at registered
    · cases registered
    · next free =>
        obtain rfl := Except.ok.inj registered
        exact ⟨d, defined, free, later⟩
  · intro h
    obtain ⟨d, defined, free, later⟩ := h
    exact ⟨_, ⟨d, defined, if_neg free⟩, later⟩

theorem enrol_succeeds_iff :
    (∃ r', (Configuration.enrol ⟨policy, entries⟩ r).ending = .ok r') ↔
      r.Welcomes entries := by
  induction entries generalizing r with
  | nil => exact ⟨fun _ => welcomes_nil, fun _ => ⟨r, rfl⟩⟩
  | cons entry entries ih =>
      constructor
      · intro h
        obtain ⟨r', ended⟩ := h
        obtain ⟨d, defined, fresh, later⟩ := enrol_cons_ok_iff.mp ended
        exact (welcomes_cons_iff d).mpr
          ⟨Configuration.Entry.exists_defines_iff.mp ⟨d, defined⟩, fresh,
            ih.mp ⟨r', later⟩⟩
      · intro h
        have sound := h.sound entry List.mem_cons_self
        obtain ⟨d, defined⟩ :=
          Configuration.Entry.exists_defines_iff.mpr sound
        obtain ⟨-, fresh, later⟩ := (welcomes_cons_iff d).mp h
        obtain ⟨r', ended⟩ := ih.mpr later
        exact ⟨r', enrol_cons_ok_iff.mpr ⟨d, defined, fresh, ended⟩⟩

theorem entries_of_enrol
    (h : (Configuration.enrol ⟨policy, entries⟩ r).ending = .ok r') :
    ∃ added, List.Forall₂ (Configuration.Entry.Defines policy) entries added ∧
      r'.entries.Perm (r.entries ++ added) := by
  induction entries generalizing r with
  | nil =>
      obtain rfl : r = r' := Except.ok.inj h
      refine ⟨[], .nil, ?_⟩
      rw [List.append_nil]
  | cons entry entries ih =>
      obtain ⟨d, defined, fresh, later⟩ := enrol_cons_ok_iff.mp h
      obtain ⟨added, defines, listed⟩ := ih later
      refine ⟨(Name.fold entry.name, d) :: added,
        .cons ⟨rfl, defined⟩ defines, ?_⟩
      have first := (entries_insert_perm fresh d).append_right added
      exact (listed.trans first).trans List.perm_middle.symm

/-! ## Loading them together -/

theorem load_succeeds_iff :
    (load ⟨policy, entries⟩ r).result = .ok () ↔ r.Welcomes entries := by
  have same := ending_load r ⟨policy, entries⟩
  constructor
  · intro h
    have ended := Outcome.ending_eq_ok_iff.mpr ⟨⟨(), h⟩, rfl⟩
    exact enrol_succeeds_iff.mp ⟨_, same.symm.trans ended⟩
  · intro h
    obtain ⟨r', ended⟩ := enrol_succeeds_iff.mpr h
    obtain ⟨⟨_, ok⟩, -⟩ := Outcome.ending_eq_ok_iff.mp (same.trans ended)
    exact ok

theorem state_of_load_refused (h : ¬ r.Welcomes entries) :
    (load ⟨policy, entries⟩ r).state = r := by
  cases ended : (load ⟨policy, entries⟩ r).result with
  | ok u => exact absurd (load_succeeds_iff.mp ended) h
  | error e => exact state_of_load_fails ended

theorem entries_of_load (h : (load ⟨policy, entries⟩ r).result = .ok ()) :
    ∃ added, List.Forall₂ (Configuration.Entry.Defines policy) entries added ∧
      (load ⟨policy, entries⟩ r).state.entries.Perm (r.entries ++ added) := by
  have ended := Outcome.ending_eq_ok_iff.mpr ⟨⟨(), h⟩, rfl⟩
  exact entries_of_enrol ((ending_load r ⟨policy, entries⟩).symm.trans ended)

theorem state_of_load_perm (same : entries.Perm entries') :
    (load ⟨policy, entries⟩ r).state = (load ⟨policy, entries'⟩ r).state := by
  have unique : Relator.RightUnique (Configuration.Entry.Defines policy) :=
    fun _ _ _ d d' => d.unique d'
  by_cases welcome : r.Welcomes entries
  · have ok : (load ⟨policy, entries⟩ r).result = .ok () :=
      load_succeeds_iff.mpr welcome
    have ok' : (load ⟨policy, entries'⟩ r).result = .ok () :=
      load_succeeds_iff.mpr (welcome.perm same)
    obtain ⟨added, defines, listed⟩ := entries_of_load ok
    obtain ⟨added', defines', listed'⟩ := entries_of_load ok'
    have reordered : added.Perm added' :=
      List.rel_perm_imp unique defines defines' same
    have perm := (listed.trans (reordered.append_left r.entries)).trans
      listed'.symm
    exact congrArg Registry.mk (Name.Table.ext_perm perm)
  -- neither order is loaded, and a refusal leaves the registry alone
  · have welcome' : ¬ r.Welcomes entries' :=
      fun h => welcome (h.perm same.symm)
    rw [state_of_load_refused welcome, state_of_load_refused welcome']

/-- A document is loaded if each of its functions can be defined and no two
names are alike among these and those of the registry, and only then. The
registry then lists what it listed and one entry more for each function. Nothing
of this depends on the order of the functions, and neither does the registry. -/
theorem order_of_functions_makes_no_difference (registry : Registry)
    (policy : AllowList.Policy) (entries : List Configuration.Entry)
    (text : String)
    (read : Configuration.ofJson text = .ok ⟨policy, entries⟩) :
    ((loadJson text registry).result = .ok () ↔ registry.Welcomes entries) ∧
    ((loadJson text registry).result = .ok () → ∃ added,
      List.Forall₂ (Configuration.Entry.ListedAs policy) entries added ∧
        (loadJson text registry).state.entries.Perm
          (registry.entries ++ added) ∧
        (loadJson text registry).state.size =
          registry.size + entries.length) ∧
    ∀ entries' text', entries.Perm entries' →
      Configuration.ofJson text' = .ok ⟨policy, entries'⟩ →
        ((loadJson text registry).result = .ok () ↔
          (loadJson text' registry).result = .ok ()) ∧
        (loadJson text registry).state = (loadJson text' registry).state := by
  rw [loadJson_apply read]
  refine ⟨load_succeeds_iff, fun ok => ?_, fun entries' text' same read' => ?_⟩
  · obtain ⟨added, defines, listed⟩ := entries_of_load ok
    have lengths := listed.length_eq
    rw [List.length_append, ← defines.length_eq] at lengths
    exact ⟨added, defines.imp fun _ _ d => d.listedAs, listed, lengths⟩
  · rw [loadJson_apply read', load_succeeds_iff, load_succeeds_iff]
    refine ⟨⟨fun h => h.perm same, fun h => h.perm same.symm⟩, ?_⟩
    exact state_of_load_perm same

/-- Two functions whose names differ in an accented capital, and one whose SQL
name is that of a function which is known under another name. -/
def threeEntries : List Configuration.Entry :=
  [⟨"É", some "ST_X", 1, some 1, ["mysql", "mysql"]⟩, ⟨"é", none, 1, none, []⟩,
    ⟨"near", some "ST_Distance", 2, some 3, ["postgresql", "mysql"]⟩]

def threeText : String :=
  "[\"deny_all\",[[\"É\",\"ST_X\",1,1,[\"mysql\",\"mysql\"]],[\"é\",null,1],
    [\"near\",\"ST_Distance\",2,3,[\"postgresql\",\"mysql\"]]]]"

def threeTextReversed : String :=
  "[\"deny_all\",[[\"near\",\"ST_Distance\",2,3,[\"postgresql\",\"mysql\"]],
    [\"é\",null,1],[\"É\",\"ST_X\",1,1,[\"mysql\",\"mysql\"]]]]"

theorem three_functions_in_either_order :
    Configuration.ofJson threeText = .ok ⟨.denyAll, threeEntries⟩ ∧
      Configuration.ofJson threeTextReversed =
        .ok ⟨.denyAll, threeEntries.reverse⟩ ∧
      (loadJson threeText knownDistance).result = .ok () ∧
      (loadJson threeTextReversed knownDistance).result = .ok () ∧
      knownDistance.Welcomes threeEntries ∧
      (loadJson threeText knownDistance).state.size = 4 ∧
      (loadJson threeText knownDistance).state =
        (loadJson threeTextReversed knownDistance).state := by
  have read : Configuration.ofJson threeText = .ok ⟨.denyAll, threeEntries⟩ := by
    decide +kernel
  have read' : Configuration.ofJson threeTextReversed =
      .ok ⟨.denyAll, threeEntries.reverse⟩ := by decide +kernel
  have ok : (loadJson threeText knownDistance).result = .ok () := by
    rw [loadJson_apply read]
    decide +kernel
  obtain ⟨accepted, lists, reordered⟩ :=
    order_of_functions_makes_no_difference knownDistance .denyAll threeEntries
      threeText read
  obtain ⟨_, -, -, size⟩ := lists ok
  obtain ⟨both, state⟩ := reordered threeEntries.reverse threeTextReversed
    threeEntries.reverse_perm.symm read'
  exact ⟨read, read', ok, both.mp ok, accepted.mp ok, size, state⟩

end Registry

end SpatialSql
