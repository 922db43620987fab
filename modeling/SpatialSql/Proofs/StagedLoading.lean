import Mathlib.Control.Monad.Basic
import SpatialSql.Proofs.CallGrammar
import SpatialSql.Proofs.CatalogRegistry
import SpatialSql.Registry.Load

/-!
# Loading a configuration is registering its functions

A configuration is gathered in a table of its own, where each function is held
against the registry and against those gathered before it, and the registry is
changed at the very end. Registering the functions one by one changes it at
every step and has one thing to hold a function against. The two agree because
the registry of the second way is at each step the registry of the first with
the gathered table added: what is free in the one is free in both tables of the
other, and adding a function to the gathered table adds it to the sum.

That is `stage_agrees`, an equation between endings, in which the error is part
of the answer; so the first function that cannot be registered is the one that
keeps the configuration from being loaded. The difference is what is left then:
loading has changed nothing.

A catalog says what a configuration can say, and its registry comes from
registering one by one, so it comes from loading that configuration too.
-/

namespace SpatialSql

open SpatialSql.Action

/-- The state that a run leaves, or the error that it fails with. -/
def Outcome.ending {σ α : Type} (out : Outcome σ α) : Except Error σ :=
  out.result.map fun _ => out.state

/-- Registers the function of an entry. Its argument counts are looked at first,
then its name in SQL, and then whether the name it is found under is free. -/
def Configuration.Entry.enrol (entry : Entry) (policy : AllowList.Policy) :
    Action Registry Unit := do
  let arity ← Action.ofExcept
    ((Arity.between entry.min entry.max).mapError .invalidArity)
  let definition ← Action.ofExcept
    (Definition.named (entry.sqlName.getD entry.name) arity
      ((AllowList.ofList entry.platforms).withPolicy policy))
  Registry.register entry.name definition

/-- Registers the functions of a configuration in their order, up to the first
that cannot be. -/
def Configuration.enrol (configuration : Configuration) :
    Action Registry Unit :=
  forM configuration.functions (·.enrol configuration.policy)

/-- The line of a catalog as an entry of a configuration. -/
def Catalog.Entry.configured (entry : Entry) : Configuration.Entry :=
  ⟨entry.name, none, entry.min, entry.max, entry.platforms⟩

/-- The configuration that lists what a catalog lists. -/
def Catalog.configuration (catalog : List Entry) : Configuration :=
  ⟨.allowAll, catalog.map Entry.configured⟩

/-! ## Endings -/

section

variable {σ α : Type}

theorem Outcome.ending_eq_ok_iff {out : Outcome σ α} {s : σ} :
    out.ending = .ok s ↔ (∃ a, out.result = .ok a) ∧ out.state = s := by
  obtain ⟨result, state, events⟩ := out
  cases result with
  | error e => exact ⟨nofun, fun ⟨⟨_, h⟩, _⟩ => nomatch h⟩
  | ok a =>
      refine ⟨fun h => ⟨⟨a, rfl⟩, Except.ok.inj h⟩, ?_⟩
      intro h
      exact congrArg Except.ok h.2

theorem Outcome.ending_eq_error_iff {out : Outcome σ α} {e : Error} :
    out.ending = .error e ↔ out.result = .error e := by
  obtain ⟨result, state, events⟩ := out
  cases result with
  | error e' =>
      exact ⟨fun h => congrArg Except.error (Except.error.inj h),
        fun h => congrArg Except.error (Except.error.inj h)⟩
  | ok a => exact ⟨nofun, nofun⟩

theorem ending_bind (action : Action σ Unit) (next : Unit → Action σ α)
    (s : σ) :
    ((action >>= next) s).ending =
      (action s).ending >>= fun s' => (next () s').ending := by
  rw [bind_apply]
  rcases action s with ⟨_ | _, s', events⟩
  · rfl
  · rfl

theorem ending_ofExcept_bind (x : Except Error α) (next : α → Action σ Unit)
    (s : σ) :
    ((Action.ofExcept x >>= next) s).ending =
      x >>= fun a => (next a s).ending := by
  cases x with
  | error e => rfl
  | ok a => exact congrArg Outcome.ending (pure_bind_apply a next s)

theorem ending_forM_cons {β : Type} (f : β → Action σ Unit) (b : β)
    (bs : List β) (s : σ) :
    (forM (b :: bs) f s).ending =
      (f b s).ending >>= fun s' => (forM bs f s').ending := by
  rw [List.forM_cons]
  exact ending_bind (f b) (fun _ => forM bs f) s

end

namespace Registry

variable {registry : Registry} {policy : AllowList.Policy}

theorem ending_register (registry : Registry) (name : String)
    (definition : Definition) :
    (register name definition registry).ending =
      if registry.contains name then .error (.duplicateFunction name)
      else .ok ⟨registry.functions.insert name definition⟩ := by
  rw [register_apply]
  split
  · rfl
  · rfl

theorem ending_enrol (registry : Registry) (policy : AllowList.Policy)
    (entry : Configuration.Entry) :
    (entry.enrol policy registry).ending =
      entry.definition policy >>= fun definition =>
        (register entry.name definition registry).ending := by
  rw [Configuration.Entry.enrol, ending_ofExcept_bind,
    Configuration.Entry.definition, Definition.ofCounts]
  cases (Arity.between entry.min entry.max).mapError Error.invalidArity with
  | error e => rfl
  | ok arity => exact ending_ofExcept_bind _ _ registry

/-! ## A registry and what is gathered for it -/

/-- The registry with the gathered functions. -/
def joined (registry : Registry) (staged : Name.Table Definition) : Registry :=
  ⟨registry.functions.extend staged⟩

theorem get?_joined (registry : Registry) (staged : Name.Table Definition)
    (name : String) :
    (registry.joined staged).get? name =
      (staged.find? name).or (registry.get? name) :=
  Name.Table.find?_extend registry.functions staged name

theorem ext_get? {r r' : Registry} (h : ∀ name, r.get? name = r'.get? name) :
    r = r' := by
  cases r
  cases r'
  exact congrArg _ (Name.Table.ext_find? h)

theorem joined_empty (registry : Registry) : registry.joined .empty = registry :=
  rfl

theorem contains_joined (registry : Registry) (staged : Name.Table Definition)
    (name : String) :
    (registry.joined staged).contains name =
      (registry.contains name || staged.contains name) := by
  show ((registry.joined staged).get? name).isSome = _
  rw [get?_joined, Option.isSome_or, Bool.or_comm]
  rfl

theorem joined_insert (registry : Registry) (staged : Name.Table Definition)
    (name : String) (definition : Definition) :
    registry.joined (staged.insert name definition) =
      ⟨(registry.joined staged).functions.insert name definition⟩ := by
  refine ext_get? fun n => ?_
  rw [get?_joined, Name.Table.find?_insert]
  refine Eq.trans ?_ (Name.Table.find?_insert _ name n definition).symm
  split
  · rfl
  · exact (get?_joined registry staged n).symm

/-- Gathering functions ends as registering them does, in the registry with
those gathered before. -/
theorem stage_agrees (registry : Registry) (policy : AllowList.Policy)
    (staged : Name.Table Definition) (entries : List Configuration.Entry) :
    (stage registry policy staged entries).map registry.joined =
      (forM entries (Configuration.Entry.enrol · policy)
        (registry.joined staged)).ending := by
  induction entries generalizing staged with
  | nil => rfl
  | cons entry entries ih =>
      rw [stage, ending_forM_cons, ending_enrol]
      cases entry.definition policy with
      | error e => rfl
      | ok definition =>
          refine Eq.trans ?_ (congrArg (· >>= _) (ending_register _ _ _).symm)
          -- free in the sum is free in the registry and in what is gathered
          rw [contains_joined]
          show Except.map _ (if _ then _ else _) = (if _ then _ else _) >>= _
          split
          · rfl
          · rw [ih, joined_insert]
            rfl

/-! ## Loading -/

theorem load_apply (registry : Registry) (configuration : Configuration) :
    load configuration registry =
      match stage registry configuration.policy .empty
        configuration.functions with
      | .ok staged =>
        ⟨.ok (), registry.joined staged, [.loadedConfiguration staged.size]⟩
      | .error e => ⟨.error e, registry, []⟩ := by
  rw [load, state_bind]
  cases stage registry configuration.policy .empty configuration.functions with
  | error e => rfl
  | ok staged => rfl

theorem ending_load (registry : Registry) (configuration : Configuration) :
    (load configuration registry).ending =
      (configuration.enrol registry).ending := by
  have agrees := stage_agrees registry configuration.policy .empty
    configuration.functions
  rw [joined_empty] at agrees
  rw [load_apply, Configuration.enrol, ← agrees]
  cases stage registry configuration.policy .empty configuration.functions with
  | error e => rfl
  | ok staged => rfl

/-- Registering one by one fails with the error of the first function that
cannot be registered. -/
theorem first_of_enrol_fails {entries : List Configuration.Entry} {e : Error}
    (h : (Configuration.enrol ⟨policy, entries⟩ registry).ending = .error e) :
    ∃ before entry later middle, entries = before ++ entry :: later ∧
      (Configuration.enrol ⟨policy, before⟩ registry).ending = .ok middle ∧
      (entry.enrol policy middle).result = .error e := by
  induction entries generalizing registry with
  | nil => cases h
  | cons entry entries ih =>
      have step := (ending_forM_cons _ entry entries registry).symm.trans h
      cases first : (entry.enrol policy registry).ending with
      | error e' =>
          rw [first] at step
          refine ⟨[], entry, entries, registry, rfl, rfl, ?_⟩
          rw [← Except.error.inj step]
          exact Outcome.ending_eq_error_iff.mp first
      | ok middle =>
          rw [first] at step
          obtain ⟨before, failing, later, last, rfl, passed, fails⟩ := ih step
          refine ⟨entry :: before, failing, later, last, rfl, ?_, fails⟩
          refine (ending_forM_cons _ entry before registry).trans ?_
          rw [first]
          exact passed

theorem state_of_load_fails {configuration : Configuration} {e : Error}
    (h : (load configuration registry).result = .error e) :
    (load configuration registry).state = registry := by
  rw [load_apply] at h ⊢
  split at h
  · cases h
  · rfl

theorem loadJson_apply {text : String} {configuration : Configuration}
    (h : Configuration.ofJson text = .ok configuration) (registry : Registry) :
    loadJson text registry = load configuration registry := by
  rw [loadJson, h]
  exact pure_bind_apply configuration load registry

theorem loadJson_unreadable {text : String} {fault : Json.Fault}
    (h : Configuration.ofJson text = .error fault) (registry : Registry) :
    loadJson text registry = ⟨.error (.configuration fault), registry, []⟩ := by
  rw [loadJson, h]
  rfl

end Registry

/-! ## Catalogs -/

theorem Catalog.Entry.definition_configured (entry : Entry) :
    entry.configured.definition .allowAll = entry.definition :=
  congrArg (Definition.ofCounts entry.name entry.min entry.max)
    (AllowList.withPolicy_ofList entry.platforms)

namespace Registry

theorem ending_registerAll (catalog : List Catalog.Entry)
    (registry : Registry) :
    (registerAll catalog registry).ending =
      ((Catalog.configuration catalog).enrol registry).ending := by
  induction catalog generalizing registry with
  | nil => rfl
  | cons e es ih =>
      have step : ((Catalog.configuration (e :: es)).enrol registry).ending =
          (e.configured.enrol .allowAll registry).ending >>= fun r =>
            ((Catalog.configuration es).enrol r).ending :=
        ending_forM_cons _ _ _ registry
      rw [step, ending_enrol, e.definition_configured, registerAll,
        ending_ofExcept_bind]
      cases e.definition with
      | error e => rfl
      | ok definition =>
          refine Eq.trans (ending_bind _ _ registry) ?_
          exact congrArg ((register e.name definition registry).ending >>= ·)
            (funext ih)

theorem ending_ofCatalog (catalog : List Catalog.Entry) :
    (ofCatalog catalog).ending =
      (load (Catalog.configuration catalog) empty).ending := by
  rw [ending_load, ← ending_registerAll]
  refine Eq.trans (ending_bind (registerAll catalog) _ empty) ?_
  cases (registerAll catalog empty).ending with
  | error e => rfl
  | ok registry => rfl

/-- Loading a configuration ends as registering its functions one by one does:
in the same registry, or with the error of the first that cannot be registered.
When it fails it leaves the registry as it was. A document is loaded as the
configuration that it says, and the registry of a catalog comes from loading
what the catalog lists into no registry at all. -/
theorem loading_is_registering :
    (∀ registry configuration,
      (load configuration registry).ending =
          (configuration.enrol registry).ending ∧
        ∀ e, (load configuration registry).result = .error e →
          (load configuration registry).state = registry ∧
          ∃ before entry later middle,
            configuration.functions = before ++ entry :: later ∧
            (Configuration.enrol ⟨configuration.policy, before⟩
              registry).ending = .ok middle ∧
            (entry.enrol configuration.policy middle).result = .error e) ∧
    (∀ registry text configuration,
      Configuration.ofJson text = .ok configuration →
        loadJson text registry = load configuration registry) ∧
    ∀ catalog, (ofCatalog catalog).ending =
      (load (Catalog.configuration catalog) empty).ending := by
  refine ⟨?_, fun registry _ _ h => loadJson_apply h registry,
    ending_ofCatalog⟩
  intro registry configuration
  have same := ending_load registry configuration
  refine ⟨same, fun e fails => ⟨state_of_load_fails fails, ?_⟩⟩
  have ended := Outcome.ending_eq_error_iff.mpr fails
  exact first_of_enrol_fails (same.symm.trans ended)

/-- A registry of one function. -/
def knownDistance : Registry :=
  ⟨⟨[("d", Call.distance)], List.pairwise_singleton _ _, by decide +kernel⟩⟩

/-- Two functions, of which the second has the name of that one in capitals. -/
def takenName : Configuration :=
  ⟨.denyAll, [⟨"near", some "ST_DWithin", 3, none, ["postgresql"]⟩,
    ⟨"D", none, 1, some 2, []⟩]⟩

def takenNameText : String :=
  "[\"deny_all\",[[\"near\",\"ST_DWithin\",3,null,[\"postgresql\"]],
    [\"D\",null,1,2]]]"

theorem taken_name_is_not_loaded :
    Configuration.ofJson takenNameText = .ok takenName ∧
      (loadJson takenNameText knownDistance).result =
        .error (.duplicateFunction "D") ∧
      (loadJson takenNameText knownDistance).state = knownDistance ∧
      (takenName.enrol knownDistance).ending =
        .error (.duplicateFunction "D") := by
  have read : Configuration.ofJson takenNameText = .ok takenName := by
    decide +kernel
  have fails : (load takenName knownDistance).result =
      .error (.duplicateFunction "D") := by decide +kernel
  obtain ⟨loading, reading, -⟩ := loading_is_registering
  obtain ⟨same, unchanged⟩ := loading knownDistance takenName
  rw [reading knownDistance takenNameText takenName read, ← same]
  exact ⟨read, fails, (unchanged _ fails).1, congrArg (Except.map _) fails⟩

end Registry

end SpatialSql
