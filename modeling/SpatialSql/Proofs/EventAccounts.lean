import SpatialSql.Proofs.DocumentOrder
import SpatialSql.Proofs.RegistryInvariant

/-!
# The log accounts for the registry

A registry notes what goes into it in three places: each registration by an
event of its own, a configuration by one event with the number of its functions,
and a catalog by one event at the end, which counts again what was registered
one by one before. The first two add up to what the registry holds, at every
moment and whatever failed in between.

They do because nothing is ever put in the place of something else: a function
goes in under a name that is free, and so makes one entry more. The number that
is noted for a configuration is that of a table, in which functions of like
names would have become one; but such a configuration is refused.

`Accounts` is what the events of an operation have to do with the sizes before
and after it. It holds of operations that fail, which note nothing and change
nothing, and adds up along a run.
-/

namespace SpatialSql

open SpatialSql.Action

namespace Event

/-- The event tells that one function was registered. -/
def isRegistration : Event → Bool
  | registered .. => true
  | _ => false

/-- The number of functions that the event tells were loaded together. -/
def loaded : Event → Nat
  | loadedConfiguration functions => functions
  | _ => 0

/-- How many functions were registered, one by one. -/
def registrations (log : List Event) : Nat :=
  log.countP isRegistration

/-- How many functions were loaded, over all configurations. -/
def loadedFunctions (log : List Event) : Nat :=
  log.foldr (fun event functions => event.loaded + functions) 0

theorem registrations_append (log log' : List Event) :
    registrations (log ++ log') = registrations log + registrations log' :=
  List.countP_append

theorem loadedFunctions_append (log log' : List Event) :
    loadedFunctions (log ++ log') =
      loadedFunctions log + loadedFunctions log' := by
  induction log with
  | nil => exact (Nat.zero_add _).symm
  | cons event log ih =>
      show event.loaded + loadedFunctions (log ++ log') =
        event.loaded + loadedFunctions log + loadedFunctions log'
      omega

end Event

namespace Registry

/-- The events account for the growth from the one size to the other. -/
def Accounts (before : Nat) (log : List Event) (after : Nat) : Prop :=
  after = before + Event.registrations log + Event.loadedFunctions log

theorem Accounts.refl (size : Nat) : Accounts size [] size := rfl

theorem Accounts.trans {a b c : Nat} {log log' : List Event}
    (h : Accounts a log b) (h' : Accounts b log' c) :
    Accounts a (log ++ log') c := by
  unfold Accounts at h h' ⊢
  rw [Event.registrations_append, Event.loadedFunctions_append]
  omega

/-- What is noted of the operation if it succeeds. -/
def Operation.Announces : Operation → Event → Prop
  | register name definition, event => event = .registered name definition.name
  | loadJson text, event => ∃ configuration,
      Configuration.ofJson text = .ok configuration ∧
        event = .loadedConfiguration configuration.functions.length

/-- The operation has left its event once if it succeeded, and none if it
failed. -/
structure Operation.Noted (operation : Operation)
    (out : Outcome Registry Unit) : Prop where
  once : out.result = .ok () →
    ∃ event, operation.Announces event ∧ out.events = [event]
  silent : ∀ e, out.result = .error e → out.events = []

variable {r : Registry}

/-! ## Sizes -/

theorem size_insert {name : String} (free : r.contains name = false)
    (d : Definition) :
    (Registry.mk (r.functions.insert name d)).size = r.size + 1 := by
  have fresh : Name.fold name ∉ r.entries.map Prod.fst := by
    rw [← contains_iff_mem_keys, free]
    exact Bool.false_ne_true
  exact (entries_insert_perm fresh d).length_eq

theorem size_of_stage {policy : AllowList.Policy}
    {entries : List Configuration.Entry} {staged staged' : Name.Table Definition}
    (h : stage r policy staged entries = .ok staged') :
    staged'.size = staged.size + entries.length := by
  induction entries generalizing staged with
  | nil =>
      obtain rfl := Except.ok.inj h
      rfl
  | cons entry entries ih =>
      rw [stage] at h
      obtain ⟨d, -, h⟩ := bind_eq_ok_iff.mp h
      split at h
      · cases h
      · next free =>
          rw [Bool.or_eq_true, not_or] at free
          have grown : (staged.insert entry.name d).size = staged.size + 1 :=
            @size_insert ⟨staged⟩ _ (Bool.eq_false_iff.mpr free.2) d
          rw [ih h, grown, List.length_cons]
          omega

theorem size_of_load {configuration : Configuration}
    (h : (load configuration r).result = .ok ()) :
    (load configuration r).state.size =
      r.size + configuration.functions.length := by
  obtain ⟨added, defines, listed⟩ := entries_of_load h
  have lengths := listed.length_eq
  rw [List.length_append, ← defines.length_eq] at lengths
  exact lengths

/-! ## Operations -/

theorem events_of_load {configuration : Configuration}
    (h : (load configuration r).result = .ok ()) :
    (load configuration r).events =
      [.loadedConfiguration configuration.functions.length] := by
  rw [load_apply] at h ⊢
  cases gathered : stage r configuration.policy .empty
      configuration.functions with
  | error e =>
      rw [gathered] at h
      cases h
  | ok staged =>
      have size : staged.size = 0 + configuration.functions.length :=
        size_of_stage gathered
      rw [Nat.zero_add] at size
      rw [← size]

theorem events_of_load_fails {configuration : Configuration} {e : Error}
    (h : (load configuration r).result = .error e) :
    (load configuration r).events = [] := by
  rw [load_apply] at h ⊢
  split at h
  · cases h
  · rfl

theorem noted_perform (r : Registry) (operation : Operation) :
    operation.Noted (operation.perform r) := by
  cases operation with
  | register name d =>
      show Operation.Noted _ (register name d r)
      rw [register_apply]
      split
      · exact ⟨nofun, fun _ _ => rfl⟩
      · exact ⟨fun _ => ⟨_, rfl, rfl⟩, nofun⟩
  | loadJson text =>
      show Operation.Noted _ (loadJson text r)
      cases read : Configuration.ofJson text with
      | error fault =>
          rw [loadJson_unreadable read]
          exact ⟨nofun, fun _ _ => rfl⟩
      | ok configuration =>
          rw [loadJson_apply read]
          exact ⟨fun h => ⟨_, ⟨configuration, read, rfl⟩, events_of_load h⟩,
            fun _ h => events_of_load_fails h⟩

theorem accounts_register (name : String) (d : Definition) :
    Accounts r.size (register name d r).events
      (register name d r).state.size := by
  rw [register_apply]
  split
  · exact .refl r.size
  · next free => exact size_insert (Bool.eq_false_iff.mpr free) d

theorem accounts_load (configuration : Configuration) :
    Accounts r.size (load configuration r).events
      (load configuration r).state.size := by
  cases h : (load configuration r).result with
  | ok _ =>
      rw [events_of_load h]
      exact size_of_load h
  | error e =>
      rw [events_of_load_fails h, state_of_load_fails h]
      exact .refl r.size

theorem accounts_loadJson (text : String) :
    Accounts r.size (loadJson text r).events (loadJson text r).state.size := by
  cases read : Configuration.ofJson text with
  | error fault =>
      rw [loadJson_unreadable read]
      exact .refl r.size
  | ok configuration =>
      rw [loadJson_apply read]
      exact accounts_load configuration

theorem accounts_perform (r : Registry) (operation : Operation) :
    Accounts r.size (operation.perform r).events
      (operation.perform r).state.size := by
  cases operation with
  | register name d => exact accounts_register name d
  | loadJson text => exact accounts_loadJson text

/-! ## Catalogs -/

/-- What is noted of the functions of a catalog. -/
def announcements (entries : List Catalog.Entry) : List Event :=
  entries.map fun entry => .registered entry.name entry.name

theorem registrations_announcements (entries : List Catalog.Entry) :
    Event.registrations (announcements entries) = entries.length := by
  unfold Event.registrations announcements
  rw [List.countP_map]
  exact List.countP_eq_length.mpr fun _ _ => rfl

theorem loadedFunctions_announcements (entries : List Catalog.Entry) :
    Event.loadedFunctions (announcements entries) = 0 := by
  induction entries with
  | nil => rfl
  | cons entry entries ih => exact (Nat.zero_add _).trans ih

theorem events_registerAll_cons {entry : Catalog.Entry} {d : Definition}
    (defined : entry.definition = .ok d)
    (free : r.contains entry.name = false) (entries : List Catalog.Entry) :
    (registerAll (entry :: entries) r).events =
      .registered entry.name d.name ::
        (registerAll entries ⟨r.functions.insert entry.name d⟩).events := by
  have first : register entry.name d r =
      ⟨.ok (), ⟨r.functions.insert entry.name d⟩,
        [.registered entry.name d.name]⟩ := by
    rw [register_apply, free]
    rfl
  rw [registerAll, defined]
  show (((pure d : Action Registry Definition) >>= _) r).events = _
  rw [pure_bind_apply, bind_apply, first]
  rfl

theorem registerAll_notes {entries : List Catalog.Entry} {u : Unit}
    {r' : Registry} (h : (registerAll entries).Yields r u r') :
    (registerAll entries r).events = announcements entries ∧
      r'.size = r.size + entries.length := by
  induction entries generalizing r with
  | nil =>
      obtain ⟨-, rfl⟩ := yields_pure.mp h
      exact ⟨rfl, rfl⟩
  | cons entry entries ih =>
      obtain ⟨d, middle, defined, first, others⟩ := yields_registerAll_cons.mp h
      obtain ⟨absent, rfl⟩ := yields_register.mp first
      obtain ⟨events, size⟩ := ih others
      have free : r.contains entry.name = false := congrArg Option.isSome absent
      refine ⟨?_, ?_⟩
      · rw [events_registerAll_cons defined free, events,
          Catalog.Entry.name_of_definition defined]
        rfl
      · rw [size, size_insert free d, List.length_cons]
        omega

theorem ofCatalog_of_yields {entries : List Catalog.Entry} {made : Registry}
    (h : (registerAll entries).Yields empty () made) :
    ofCatalog entries = ⟨.ok (), made,
      (registerAll entries empty).events ++ [.builtFromCatalog made.size]⟩ := by
  obtain ⟨result, state⟩ := h
  rw [ofCatalog, bind_apply]
  generalize registerAll entries empty = out at result state ⊢
  obtain ⟨_, _, events⟩ := out
  obtain rfl : _ = Except.ok () := result
  obtain rfl : _ = made := state
  rfl

/-- The registry of a catalog has an entry for each of its lines. They were all
noted one by one before they were counted. -/
theorem ofCatalog_notes {entries : List Catalog.Entry}
    (built : (ofCatalog entries).result = .ok ()) :
    (ofCatalog entries).events =
        announcements entries ++ [.builtFromCatalog entries.length] ∧
      (ofCatalog entries).state.size = entries.length := by
  obtain ⟨_, made, registered, -⟩ := yields_bind.mp
    (show Yields _ empty () (ofCatalog entries).state from ⟨built, rfl⟩)
  obtain ⟨events, size⟩ := registerAll_notes registered
  have counted : made.size = entries.length := size.trans (Nat.zero_add _)
  rw [ofCatalog_of_yields registered, events, ← counted]
  exact ⟨rfl, rfl⟩

theorem accounts_ofCatalog {entries : List Catalog.Entry}
    (built : (ofCatalog entries).result = .ok ()) :
    Accounts 0 (ofCatalog entries).events (ofCatalog entries).state.size := by
  obtain ⟨events, size⟩ := ofCatalog_notes built
  unfold Accounts
  rw [events, size, Event.registrations_append, Event.loadedFunctions_append,
    registrations_announcements, loadedFunctions_announcements]
  exact (Nat.zero_add _).symm

/-! ## Runs -/

theorem accounts_origin {origin : Origin}
    (built : origin.build.result = .ok ()) :
    Accounts 0 origin.build.events origin.build.state.size := by
  cases origin with
  | base start =>
      cases start with
      | empty => exact .refl 0
      | catalog entries => exact accounts_ofCatalog built
  | postgresql => exact accounts_ofCatalog built
  | mysql => exact accounts_ofCatalog built
  | document text => exact @accounts_loadJson empty text
  | stream attempts =>
      rw [Origin.build] at built ⊢
      cases read : Stream.text attempts with
      | error e =>
          rw [ofStream_of_error read] at built
          cases built
      | ok text =>
          rw [ofStream_of_text read]
          exact @accounts_loadJson empty text

/-- All that was noted in the steps of a run. -/
def eventsOf (steps : List (Operation × Outcome Registry Unit)) : List Event :=
  steps.flatMap fun step => step.2.events

theorem accounts_run (r : Registry) (operations : List Operation) :
    Accounts r.size (eventsOf (run r operations)) (after r operations).size := by
  induction operations generalizing r with
  | nil => exact .refl r.size
  | cons operation operations ih =>
      exact (accounts_perform r operation).trans
        (ih (operation.perform r).state)

/-- The first steps of a run are the run of the first operations. -/
theorem take_run (r : Registry) (operations : List Operation) (k : Nat) :
    (run r operations).take k = run r (operations.take k) := by
  induction operations generalizing r k with
  | nil => rw [List.take_nil, run, List.take_nil]
  | cons operation operations ih =>
      cases k with
      | zero => rfl
      | succ k => exact congrArg (List.cons _) (ih _ k)

/-- All that was noted from the building of a registry on, up to the end of so
many operations of a run. -/
def log (origin : Origin) (operations : List Operation) (steps : Nat) :
    List Event :=
  origin.build.events ++
    eventsOf ((run origin.build.state operations).take steps)

theorem accounts_log {origin : Origin} (built : origin.build.result = .ok ())
    (operations : List Operation) (steps : Nat) :
    Accounts 0 (log origin operations steps)
      (after origin.build.state (operations.take steps)).size := by
  unfold log
  rw [take_run]
  exact (accounts_origin built).trans (accounts_run _ _)

/-- After each step of a run on a registry that was built, the registry holds as
many functions as were noted so far, those registered one by one and those
loaded together. An operation notes what it did once, and nothing if it failed,
on whatever registry it works; so does the building of a registry from a
document. A registry built from a catalog has noted every line of it in order,
and at last how many there are. -/
theorem log_accounts_for_registry (origin : Origin)
    (built : origin.build.result = .ok ()) (operations : List Operation) :
    (∀ steps, (after origin.build.state (operations.take steps)).size =
      Event.registrations (log origin operations steps) +
        Event.loadedFunctions (log origin operations steps)) ∧
    (∀ r operation, Operation.Noted operation (operation.perform r)) ∧
    (∀ text, (Operation.loadJson text).Noted (ofJson text)) ∧
    ∀ entries, (ofCatalog entries).result = .ok () →
      (ofCatalog entries).events =
        entries.map (fun entry => .registered entry.name entry.name) ++
          [.builtFromCatalog entries.length] := by
  refine ⟨fun steps => ?_, noted_perform,
    fun text => noted_perform empty (.loadJson text),
    fun _ done => (ofCatalog_notes done).1⟩
  have whole := accounts_log built operations steps
  unfold Accounts at whole
  rwa [Nat.zero_add] at whole

/-- The catalog of one function is noted twice and counts once, and the last two
operations fail. -/
theorem accented_run_is_accounted_for :
    (Origin.base abscissaBase).build.result = .ok () ∧
      log (.base abscissaBase) accentedRun 4 =
        [.registered "X" "X", .builtFromCatalog 1,
          .registered "É" "ST_Distance", .loadedConfiguration 1] ∧
      (after abscissaBase.build.state (accentedRun.take 4)).size = 3 := by
  have built : (Origin.base abscissaBase).build.result = .ok () := by
    decide +kernel
  have noted : log (.base abscissaBase) accentedRun 4 =
      [.registered "X" "X", .builtFromCatalog 1,
        .registered "É" "ST_Distance", .loadedConfiguration 1] := by
    decide +kernel
  obtain ⟨accounted, -⟩ :=
    log_accounts_for_registry (.base abscissaBase) built accentedRun
  refine ⟨built, noted, (accounted 4).trans ?_⟩
  rw [noted]
  rfl

end Registry

end SpatialSql
