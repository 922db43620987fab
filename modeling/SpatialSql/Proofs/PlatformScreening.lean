import SpatialSql.Backend
import SpatialSql.Proofs.SqlText

/-!
# Which queries a platform is given

A call asks its own allow-list and no other, and nested calls are asked only
when their turn to be written comes. Yet a whole query is written just if every
function in it may be used on the platform, for the first refusal ends the walk
and goes out through all the calls around it unchanged. Since the walk meets
the calls in reading order, an outer one before those within it, the refusal is
that of the first barred function in this order, and it is the only event.

`Screened` is the invariant: how a walk over some of the functions may end.
Walks one after the other are screened for the functions of both.
-/

namespace SpatialSql

open SpatialSql.Action

/-- The platform is one of those that are declared, or none is declared and that
means that all are allowed. -/
def AllowList.Allows (list : AllowList) (platform : String) : Prop :=
  (list.platforms ≠ [] ∧ platform ∈ list.platforms) ∨
    (list.platforms = [] ∧ list.policy = .allowAll)

theorem AllowList.permits_iff {list : AllowList} {platform : String} :
    list.permits platform = true ↔ list.Allows platform := by
  unfold permits isEmpty Allows
  cases list.platforms with
  | nil => simp
  | cons p ps => simp

theorem AllowList.check_of_allows {list : AllowList} {platform : String}
    (h : list.Allows platform) : list.check platform = .ok () :=
  Query.check_eq_ok_iff.mpr (permits_iff.mpr h)

theorem AllowList.check_of_not_allows {list : AllowList} {platform : String}
    (h : ¬ list.Allows platform) :
    list.check platform = .error (.unsupportedPlatform platform) :=
  if_neg fun permitted => h (permits_iff.mp permitted)

/-- Where the function may be used, writing its call is writing the arguments and
putting their texts together. -/
theorem Call.write_of_allows {ρ : Type} {definition : Definition}
    {platform : String} (allowed : definition.platforms.Allows platform)
    (arguments : Action ρ (List String)) :
    write definition platform arguments =
      (fun texts => definition.name ++ "(" ++ ", ".intercalate texts ++ ")") <$>
        arguments := by
  rw [write, AllowList.check_of_allows allowed, ← bind_pure_comp]

theorem Call.write_of_not_allows {ρ : Type} {definition : Definition}
    {platform : String} (barred : ¬ definition.platforms.Allows platform)
    (arguments : Action ρ (List String)) (s : ρ) :
    write definition platform arguments s =
      ⟨.error (.unsupportedPlatform platform), s,
        [.platformRejected definition.name platform]⟩ := by
  rw [write, AllowList.check_of_not_allows barred]
  rfl

namespace Query

variable {ρ α β : Type} {platform : String}

/-- The function that an expression calls, if it is a call. -/
def Expr.function? : Expr → Option Definition
  | .call definition _ => some definition
  | _ => none

/-- The functions called within an expression, in reading order: that of a call
before those of its arguments. -/
def Expr.functions (e : Expr) : List Definition :=
  e.preorder.filterMap Expr.function?

theorem functions_call (definition : Definition) (es : List Expr) :
    (Expr.call definition es).functions =
      definition :: es.flatMap Expr.functions := by
  show definition :: (Expr.eachPreorder es).filterMap Expr.function? = _
  rw [eachPreorder_eq_flatMap, List.filterMap_flatMap]
  rfl

/-- Of these functions, this is the first that may not be used on the
platform. -/
def FirstBarred (platform : String) (functions : List Definition)
    (d : Definition) : Prop :=
  ∃ before after, functions = before ++ d :: after ∧
    (∀ b ∈ before, b.platforms.Allows platform) ∧
    ¬ d.platforms.Allows platform

theorem FirstBarred.append {fs gs : List Definition} {d : Definition}
    (h : FirstBarred platform fs d) : FirstBarred platform (fs ++ gs) d := by
  obtain ⟨before, after, rfl, allowed, barred⟩ := h
  exact ⟨before, after ++ gs, List.append_assoc _ _ _, allowed, barred⟩

theorem FirstBarred.prepend {fs gs : List Definition} {d : Definition}
    (allowed : ∀ f ∈ fs, f.platforms.Allows platform)
    (h : FirstBarred platform gs d) : FirstBarred platform (fs ++ gs) d := by
  obtain ⟨before, after, rfl, later, barred⟩ := h
  refine ⟨fs ++ before, after, (List.append_assoc _ _ _).symm, ?_, barred⟩
  intro b hb
  exact (List.mem_append.mp hb).elim (allowed b) (later b)

theorem FirstBarred.not_all {fs : List Definition} {d : Definition}
    (h : FirstBarred platform fs d) :
    ¬ ∀ f ∈ fs, f.platforms.Allows platform := by
  obtain ⟨before, after, rfl, -, barred⟩ := h
  exact fun all => barred (all d (List.mem_append_right _ List.mem_cons_self))

/-! ## The walk -/

/-- A walk over these functions ends well and in silence if all of them may be
used on the platform, and otherwise with the refusal of the first that may
not. -/
inductive Screened (platform : String) (functions : List Definition) :
    Outcome ρ α → Prop
  | passed {a : α} {s : ρ}
      (allowed : ∀ d ∈ functions, d.platforms.Allows platform) :
      Screened platform functions ⟨.ok a, s, []⟩
  | stopped {d : Definition} {s : ρ}
      (first : FirstBarred platform functions d) :
      Screened platform functions ⟨.error (.unsupportedPlatform platform), s,
        [.platformRejected d.name platform]⟩

theorem screened_pure (a : α) (s : ρ) :
    Screened platform [] ((pure a : Action ρ α) s) :=
  .passed fun _ h => absurd h List.not_mem_nil

theorem Screened.bind {action : Action ρ α} {next : α → Action ρ β} {s : ρ}
    {fs gs : List Definition} (h : Screened platform fs (action s))
    (hn : ∀ a s', Screened platform gs (next a s')) :
    Screened platform (fs ++ gs) ((action >>= next) s) := by
  rw [bind_apply]
  generalize action s = out at h
  cases h with
  | stopped first => exact .stopped first.append
  | @passed a s' allowed =>
      -- the log is that of the second walk alone, since the first was silent
      have later := hn a s'
      show Screened platform (fs ++ gs) ⟨(next a s').result, (next a s').state,
        (next a s').events⟩
      generalize next a s' = out at later
      cases later with
      | stopped first => exact .stopped (first.prepend allowed)
      | passed allowed' =>
          refine .passed fun d hd => ?_
          exact (List.mem_append.mp hd).elim (allowed d) (allowed' d)

theorem Screened.map {action : Action ρ α} {f : α → β} {s : ρ}
    {fs : List Definition} (h : Screened platform fs (action s)) :
    Screened platform fs ((f <$> action) s) := by
  rw [← bind_pure_comp, ← List.append_nil fs]
  exact h.bind fun a s' => screened_pure (f a) s'

theorem Screened.cons {definition : Definition} {fs : List Definition}
    {out : Outcome ρ α} (allowed : definition.platforms.Allows platform)
    (h : Screened platform fs out) : Screened platform (definition :: fs) out := by
  have one : ∀ f ∈ [definition], f.platforms.Allows platform :=
    List.forall_mem_singleton.mpr allowed
  cases h with
  | passed others => exact .passed (List.forall_mem_cons.mpr ⟨allowed, others⟩)
  | stopped first => exact .stopped (first.prepend one)

theorem screened_write {definition : Definition} {fs : List Definition}
    {arguments : Action ρ (List String)}
    (h : ∀ s, Screened platform fs (arguments s)) (s : ρ) :
    Screened platform (definition :: fs)
      (Call.write definition platform arguments s) := by
  by_cases allowed : definition.platforms.Allows platform
  · rw [Call.write_of_allows allowed]
    exact (h s).map.cons allowed
  · rw [Call.write_of_not_allows allowed]
    exact .stopped ⟨[], fs, rfl, fun _ h => absurd h List.not_mem_nil, allowed⟩

theorem screened_eachToSql {es : List Expr}
    (h : ∀ e ∈ es, ∀ s, Screened platform e.functions (e.toSql platform s))
    (s : List String) :
    Screened platform (es.flatMap Expr.functions)
      (Expr.eachToSql platform es s) := by
  induction es generalizing s with
  | nil =>
      rw [Expr.eachToSql]
      exact screened_pure [] s
  | cons e es ih =>
      rw [Expr.eachToSql, List.flatMap_cons]
      refine (h e List.mem_cons_self s).bind fun text s' => ?_
      exact (ih (fun e he => h e (List.mem_cons_of_mem _ he)) s').map

theorem screened_toSql (e : Expr) (s : List String) :
    Screened platform e.functions (e.toSql platform s) := by
  induction e using Expr.induct generalizing s with
  | path w | number w | text w =>
      rw [Expr.toSql]
      exact screened_pure w s
  | parameter name => exact .passed fun _ h => absurd h List.not_mem_nil
  | call definition es ih =>
      rw [Expr.toSql, functions_call]
      exact screened_write (screened_eachToSql ih) s

/-! ## Queries -/

/-- What is promised of an attempt to write a tree of these functions for a
platform. -/
structure Screening (platform : String) (functions : List Definition)
    (attempt : Outcome ρ α) : Prop where
  written_iff : (∃ sql, attempt.result = .ok sql) ↔
    ∀ d ∈ functions, d.platforms.Allows platform
  silent : ∀ sql, attempt.result = .ok sql → attempt.events = []
  refused : ∀ e, attempt.result = .error e →
    e = .unsupportedPlatform platform ∧
      ∃ d, FirstBarred platform functions d ∧
        attempt.events = [.platformRejected d.name platform]

theorem Screened.screening {attempt : Outcome ρ α}
    {functions : List Definition} (h : Screened platform functions attempt) :
    Screening platform functions attempt := by
  cases h with
  | passed allowed => exact ⟨⟨fun _ => allowed, fun _ => ⟨_, rfl⟩⟩,
      fun _ _ => rfl, nofun⟩
  | @stopped d _ first =>
      refine ⟨⟨nofun, fun all => absurd all first.not_all⟩, nofun, ?_⟩
      intro e he
      exact ⟨(Except.error.inj he).symm, d, first, rfl⟩

/-- No text is written for a query that calls a function, at whatever depth,
which may not be used on the platform, whether the query is compiled or rendered
for a back end or made a literal for it. The first such function is the one that is
reported. -/
theorem query_is_screened (call : Call Expr) (parameters : List String) :
    (∀ platform, Screening platform (Expr.ofCall call).functions
      (call.compile (compiler platform) parameters)) ∧
    ∀ backend : Backend,
      Screening backend.platform (Expr.ofCall call).functions
        (backend.renderFor call (Expr.toSql backend.platform) parameters) ∧
      Screening backend.platform (Expr.ofCall call).functions
        (backend.sqlLiteral call (Expr.toSql backend.platform) parameters) := by
  have compiled : ∀ platform, Screened platform (Expr.ofCall call).functions
      (call.compile (compiler platform) parameters) := by
    intro platform
    rw [← toSql_ofCall]
    exact screened_toSql (Expr.ofCall call) parameters
  refine ⟨fun platform => (compiled platform).screening, fun backend => ?_⟩
  have rendered : Screened backend.platform (Expr.ofCall call).functions
      (backend.renderFor call (Expr.toSql backend.platform) parameters) :=
    compiled backend.platform
  exact ⟨rendered.screening, rendered.map.screening⟩

end Query

end SpatialSql
