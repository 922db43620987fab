import SpatialSql.Proofs.StagedLoading

/-!
# A registry is its history

A registry begins empty or with a catalog and is changed by operations, some of
which fail. Each operation that succeeds contributes names with definitions, and
what the registry finds at the end is read off these contributions alone: under
a name, the first definition contributed under a name that is alike. Whatever
came later found the name taken, and what failed left nothing behind.

`Extends` is the step. A registry extends another by some contributions if it
finds what the other found, and else the first of them; so nothing that was
found is ever found differently, and the steps of a run compose to one.
-/

namespace SpatialSql

open SpatialSql.Action

/-- Definitions under names, in the order in which they were given. -/
abbrev Contribution := List (String × Definition)

/-- The first definition given under a name like this one. -/
def earliest (n : String) (given : Contribution) : Option Definition :=
  (given.find? fun c => Name.Alike n c.1).map Prod.snd

/-- What an entry gives to a registry: its function under its name. -/
def Configuration.Entry.given (policy : AllowList.Policy) (entry : Entry) :
    Except Error (String × Definition) := do
  return (entry.name, ← entry.definition policy)

/-- What a configuration gives to a registry. -/
def Configuration.contribution (configuration : Configuration) :
    Except Error Contribution :=
  configuration.functions.mapM (·.given configuration.policy)

/-- What a catalog gives to a registry. -/
def Catalog.contribution (catalog : List Entry) : Except Error Contribution :=
  catalog.mapM fun entry => do return (entry.name, ← entry.definition)

namespace Registry

/-- What a registry may begin with. -/
inductive Base
  | empty
  | catalog (entries : List Catalog.Entry)

/-- Builds the registry that is begun with. -/
def Base.build : Base → Outcome Registry Unit
  | empty => ⟨.ok (), .empty, []⟩
  | catalog entries => ofCatalog entries

def Base.contribution : Base → Except Error Contribution
  | empty => .ok []
  | catalog entries => Catalog.contribution entries

/-- A way to change a registry. -/
inductive Operation
  | register (name : String) (definition : Definition)
  | loadJson (text : String)

def Operation.perform : Operation → Action Registry Unit
  | register name definition => Registry.register name definition
  | loadJson text => Registry.loadJson text

/-- What the operation gives to a registry if it succeeds. -/
def Operation.contribution : Operation → Except Error Contribution
  | register name definition => .ok [(name, definition)]
  | loadJson text => do
    (← (Configuration.ofJson text).mapError .configuration).contribution

/-- Performs the operations one after the other, whether they succeed or fail,
and keeps the outcome of each. -/
def run (registry : Registry) :
    List Operation → List (Operation × Outcome Registry Unit)
  | [] => []
  | operation :: operations =>
    (operation, operation.perform registry) ::
      run (operation.perform registry).state operations

/-- The registry after the operations. -/
def after (registry : Registry) (operations : List Operation) : Registry :=
  operations.foldl (fun r operation => (operation.perform r).state) registry

/-- The operations of a run that succeeded, with their outcomes. -/
def successes (registry : Registry) (operations : List Operation) :
    List (Operation × Outcome Registry Unit) :=
  (run registry operations).filter fun step => step.2.result.isOk

/-! ## Contributions -/

section

variable {r r' r'' : Registry} {given given' : Contribution}

theorem earliest_append (n : String) (given given' : Contribution) :
    earliest n (given ++ given') =
      (earliest n given).or (earliest n given') := by
  unfold earliest
  rw [List.find?_append, Option.map_or]

/-- The second registry finds what the first did, and else the first of these
contributions. -/
def Extends (r : Registry) (given : Contribution) (r' : Registry) : Prop :=
  ∀ n, r'.get? n = (r.get? n).or (earliest n given)

theorem Extends.refl (r : Registry) : Extends r [] r :=
  fun _ => Option.or_none.symm

theorem Extends.trans (h : Extends r given r') (h' : Extends r' given' r'') :
    Extends r (given ++ given') r'' := by
  intro n
  rw [h' n, h n, earliest_append, Option.or_assoc]

theorem Extends.keeps (h : Extends r given r') {n : String} {d : Definition}
    (found : r.get? n = some d) : r'.get? n = some d := by
  rw [h n, found, Option.some_or]

theorem extends_insert {name : String} (free : r.get? name = none)
    (d : Definition) :
    Extends r [(name, d)] ⟨r.functions.insert name d⟩ := by
  intro n
  refine Eq.trans (Name.Table.find?_insert r.functions name n d) ?_
  unfold earliest
  rw [List.find?_cons]
  by_cases alike : Name.Alike n name
  · have same : Name.fold n = Name.fold name := Name.fold_eq_fold_iff.mpr alike
    have absent : r.get? n = none := (get?_congr same).trans free
    rw [if_pos same, absent, decide_eq_true alike]
    rfl
  · have other : Name.fold n ≠ Name.fold name :=
      fun same => alike (Name.fold_eq_fold_iff.mp same)
    rw [if_neg other, decide_eq_false alike]
    exact Option.or_none.symm

/-! ## Steps -/

theorem extends_register {name : String} {d : Definition} {u : Unit}
    (h : (register name d).Yields r u r') : Extends r [(name, d)] r' := by
  obtain ⟨free, rfl⟩ := yields_register.mp h
  exact extends_insert free d

theorem contribution_cons {policy : AllowList.Policy}
    {entry : Configuration.Entry} {entries : List Configuration.Entry}
    {d : Definition} (defined : entry.definition policy = .ok d)
    (others : Configuration.contribution ⟨policy, entries⟩ = .ok given) :
    Configuration.contribution ⟨policy, entry :: entries⟩ =
      .ok ((entry.name, d) :: given) := by
  unfold Configuration.contribution at others ⊢
  rw [List.mapM_cons, Configuration.Entry.given, defined, others]
  rfl

theorem extends_enrol {policy : AllowList.Policy}
    {entries : List Configuration.Entry}
    (h : (Configuration.enrol ⟨policy, entries⟩ r).ending = .ok r') :
    ∃ given, Configuration.contribution ⟨policy, entries⟩ = .ok given ∧
      Extends r given r' := by
  induction entries generalizing r with
  | nil =>
      obtain rfl := Except.ok.inj h
      exact ⟨[], rfl, .refl r⟩
  | cons entry entries ih =>
      have step := (ending_forM_cons _ entry entries r).symm.trans h
      obtain ⟨r₁, first, later⟩ := bind_eq_ok_iff.mp step
      rw [ending_enrol] at first
      obtain ⟨d, defined, registered⟩ := bind_eq_ok_iff.mp first
      obtain ⟨⟨u, hu⟩, hs⟩ := Outcome.ending_eq_ok_iff.mp registered
      obtain ⟨given, hg, extended⟩ := ih later
      exact ⟨_, contribution_cons defined hg,
        (extends_register ⟨hu, hs⟩).trans extended⟩

theorem extends_load {configuration : Configuration}
    (h : (load configuration r).ending = .ok r') :
    ∃ given, configuration.contribution = .ok given ∧ Extends r given r' :=
  extends_enrol ((ending_load r configuration).symm.trans h)

theorem contribution_configuration (catalog : List Catalog.Entry) :
    (Catalog.configuration catalog).contribution =
      Catalog.contribution catalog := by
  unfold Configuration.contribution Catalog.configuration Catalog.contribution
  rw [List.mapM_map]
  refine congrArg (catalog.mapM ·) (funext fun e => ?_)
  show Configuration.Entry.given .allowAll e.configured = _
  rw [Configuration.Entry.given, e.definition_configured]
  rfl

theorem extends_build {base : Base} (built : base.build.result = .ok ()) :
    ∃ given, base.contribution = .ok given ∧
      Extends empty given base.build.state := by
  cases base with
  | empty => exact ⟨[], rfl, .refl empty⟩
  | catalog entries =>
      have ended : (ofCatalog entries).ending =
          .ok (ofCatalog entries).state :=
        Outcome.ending_eq_ok_iff.mpr ⟨⟨(), built⟩, rfl⟩
      rw [ending_ofCatalog] at ended
      obtain ⟨given, hg, extended⟩ := extends_load ended
      exact ⟨given, (contribution_configuration entries).symm.trans hg,
        extended⟩

theorem contribution_loadJson {text : String} {configuration : Configuration}
    (read : Configuration.ofJson text = .ok configuration) :
    (Operation.loadJson text).contribution = configuration.contribution := by
  rw [Operation.contribution, read]
  rfl

theorem extends_perform {operation : Operation}
    (h : (operation.perform r).result = .ok ()) :
    ∃ given, operation.contribution = .ok given ∧
      Extends r given (operation.perform r).state := by
  cases operation with
  | register name d => exact ⟨_, rfl, extends_register ⟨h, rfl⟩⟩
  | loadJson text =>
      change (loadJson text r).result = .ok () at h
      show ∃ given, _ ∧ Extends r given (loadJson text r).state
      cases read : Configuration.ofJson text with
      | error fault =>
          rw [loadJson_unreadable read] at h
          cases h
      | ok configuration =>
          rw [contribution_loadJson read]
          rw [loadJson_apply read] at h ⊢
          exact extends_load (Outcome.ending_eq_ok_iff.mpr ⟨⟨(), h⟩, rfl⟩)

theorem state_of_register_fails {name : String} {d : Definition} {e : Error}
    (h : (register name d r).result = .error e) :
    (register name d r).state = r := by
  rw [register_apply] at h ⊢
  split at h
  · next taken => rw [if_pos taken]
  · cases h

/-- An operation that fails changes nothing. -/
theorem state_of_perform_fails {operation : Operation} {e : Error}
    (h : (operation.perform r).result = .error e) :
    (operation.perform r).state = r := by
  cases operation with
  | register name d => exact state_of_register_fails h
  | loadJson text =>
      change (loadJson text r).result = .error e at h
      show (loadJson text r).state = r
      cases read : Configuration.ofJson text with
      | error fault => rw [loadJson_unreadable read]
      | ok configuration =>
          rw [loadJson_apply read] at h ⊢
          exact state_of_load_fails h

/-! ## Runs -/

theorem successes_cons_of_ok {operation : Operation}
    (h : (operation.perform r).result = .ok ()) (operations : List Operation) :
    successes r (operation :: operations) =
      (operation, operation.perform r) ::
        successes (operation.perform r).state operations :=
  List.filter_cons_of_pos (congrArg Except.isOk h)

theorem successes_cons_of_fails {operation : Operation} {e : Error}
    (h : (operation.perform r).result = .error e)
    (operations : List Operation) :
    successes r (operation :: operations) = successes r operations := by
  have failed : ¬ (operation.perform r).result.isOk = true := by
    rw [h]
    exact Bool.false_ne_true
  have dropped : successes r (operation :: operations) =
      successes (operation.perform r).state operations :=
    List.filter_cons_of_neg failed
  rw [dropped, state_of_perform_fails h]

theorem after_cons_of_fails {operation : Operation} {e : Error}
    (h : (operation.perform r).result = .error e)
    (operations : List Operation) :
    after r (operation :: operations) = after r operations := by
  show after (operation.perform r).state operations = _
  rw [state_of_perform_fails h]

theorem after_append (r : Registry) (operations more : List Operation) :
    after r (operations ++ more) = after (after r operations) more :=
  List.foldl_append

theorem extends_after (r : Registry) (operations : List Operation) :
    ∃ given, (successes r operations).mapM (·.1.contribution) = .ok given ∧
      Extends r given.flatten (after r operations) := by
  induction operations generalizing r with
  | nil => exact ⟨[], rfl, .refl r⟩
  | cons operation operations ih =>
      cases h : (operation.perform r).result with
      | ok _ =>
          obtain ⟨given, hg, step⟩ := extends_perform h
          obtain ⟨later, hl, extended⟩ := ih (operation.perform r).state
          refine ⟨given :: later, ?_, step.trans extended⟩
          rw [successes_cons_of_ok h, List.mapM_cons, hg, hl]
          rfl
      | error e =>
          rw [successes_cons_of_fails h, after_cons_of_fails h]
          exact ih r

/-- What failed may be left out of a run: all else goes as it did. -/
theorem run_successes (r : Registry) (operations : List Operation) :
    run r ((successes r operations).map Prod.fst) = successes r operations ∧
      after r ((successes r operations).map Prod.fst) = after r operations := by
  induction operations generalizing r with
  | nil => exact ⟨rfl, rfl⟩
  | cons operation operations ih =>
      cases h : (operation.perform r).result with
      | ok _ =>
          obtain ⟨same, left⟩ := ih (operation.perform r).state
          rw [successes_cons_of_ok h]
          exact ⟨congrArg (List.cons _) same, left⟩
      | error e =>
          rw [successes_cons_of_fails h, after_cons_of_fails h]
          exact ih r

end

/-- A registry finds under a name the first definition that was given to it
under a name like that one, by its base or by an operation that succeeded. So
what it finds it finds for good; the operations that failed have no part in
it; and names are alike only if they have the same characters beyond ASCII. -/
theorem finds_the_earliest (base : Base) (built : base.build.result = .ok ())
    (operations : List Operation) :
    (∃ first later, base.contribution = .ok first ∧
      (successes base.build.state operations).mapM (·.1.contribution) =
        .ok later ∧
      ∀ n, (after base.build.state operations).get? n =
        earliest n (first ++ later.flatten)) ∧
    (∀ more n d, (after base.build.state operations).get? n = some d →
      (after base.build.state (operations ++ more)).get? n = some d) ∧
    (run base.build.state
        ((successes base.build.state operations).map Prod.fst) =
        successes base.build.state operations ∧
      after base.build.state
        ((successes base.build.state operations).map Prod.fst) =
        after base.build.state operations) ∧
    ∀ (a b : String) (i : Nat) (c : Char), a.toList[i]? = some c →
      128 ≤ c.toNat → b.toList[i]? ≠ some c → ¬ Name.Alike a b := by
  refine ⟨?_, ?_, run_successes _ operations, ?_⟩
  · obtain ⟨first, hf, begun⟩ := extends_build built
    obtain ⟨later, hl, changed⟩ := extends_after base.build.state operations
    refine ⟨first, later, hf, hl, fun n => ?_⟩
    rw [begun.trans changed n, get?_empty, Option.none_or]
  · intro more n d found
    obtain ⟨_, -, extended⟩ :=
      extends_after (after base.build.state operations) more
    rw [after_append]
    exact extended.keeps found
  · intro a b i c at_i beyond other alike
    exact other (alike.getElem? at_i beyond)

def abscissa : Definition :=
  ⟨"X", ⟨1, some 1, by decide, by decide⟩, .ofList ["mysql"], by decide⟩

/-- The catalog of that function alone. -/
def abscissaBase : Base :=
  .catalog [⟨"X", 1, some 1, ["mysql"]⟩]

/-- What a document says of the name `é`. -/
def accented : Definition :=
  ⟨"é", ⟨1, none, by decide, nofun⟩, AllowList.unrestricted.withPolicy .denyAll,
    by decide⟩

/-- Two names apart by an accented capital, a name that is taken and a document
that cannot be read. -/
def accentedRun : List Operation :=
  [.register "É" Call.distance, .loadJson "[\"deny_all\",[[\"é\",null,1]]]",
    .register "X" Call.distance, .loadJson "["]

theorem accented_run_finds_the_earliest :
    abscissaBase.build.result = .ok () ∧
      (after abscissaBase.build.state accentedRun).get? "x" = some abscissa ∧
      (after abscissaBase.build.state accentedRun).get? "É" =
        some Call.distance ∧
      (after abscissaBase.build.state accentedRun).get? "é" = some accented ∧
      (after abscissaBase.build.state accentedRun).get? "y" = none := by
  have built : abscissaBase.build.result = .ok () := by decide +kernel
  obtain ⟨⟨first, later, hf, hl, found⟩, -⟩ :=
    finds_the_earliest abscissaBase built accentedRun
  have first_eq : abscissaBase.contribution = .ok [("X", abscissa)] := by
    decide +kernel
  have later_eq : (successes abscissaBase.build.state accentedRun).mapM
      (·.1.contribution) =
        .ok [[("É", Call.distance)], [("é", accented)]] := by decide +kernel
  obtain rfl := Except.ok.inj (hf.symm.trans first_eq)
  obtain rfl := Except.ok.inj (hl.symm.trans later_eq)
  refine ⟨built, ?_, ?_, ?_, ?_⟩
  · exact (found "x").trans (by decide +kernel)
  · exact (found "É").trans (by decide +kernel)
  · exact (found "é").trans (by decide +kernel)
  · exact (found "y").trans (by decide +kernel)

end Registry

end SpatialSql
