import Mathlib.Data.List.TakeWhile
import SpatialSql.Proofs.CorrectPrefix
import SpatialSql.Proofs.PlatformScreening

/-!
# Parameters come in reading order

Writing an expression collects the names of its parameters on the way, and the
question marks are bound to them by position. The walk meets the nodes in
reading order and ends at the first call of a function that may not be used on
the platform, so what it has met is known from the tree: `reached` are the nodes
before that call, all of them if there is none.

The step is `finalState_bind`. A first walk that ended well has reached all of
its nodes, and the second goes on behind them; one that failed has reached what
it will, and the second does not start. Which of the two it was is known from
the screening.

For a query that was read, reading order is the order of the input.
-/

namespace SpatialSql.Query

open SpatialSql.Action

variable {registry : Registry} {platform : String}

/-- The name of the parameter that an expression is, if it is one. -/
def Expr.parameter? : Expr → Option String
  | .parameter name => some name
  | _ => none

/-- The names of the parameters within an expression, in reading order. -/
def Expr.parameters (e : Expr) : List String :=
  e.preorder.filterMap Expr.parameter?

/-- It is no call, or one of a function that may be used on the platform. -/
def Expr.permitted (platform : String) (e : Expr) : Bool :=
  e.function?.all fun d => d.platforms.permits platform

/-- The nodes before the first call of a function that may not be used on the
platform. -/
def reached (platform : String) (nodes : List Expr) : List Expr :=
  nodes.takeWhile (Expr.permitted platform)

/-! ## The nodes that are reached -/

theorem reached_cons_of_permitted {n : Expr} (h : n.permitted platform = true)
    (nodes : List Expr) :
    reached platform (n :: nodes) = n :: reached platform nodes :=
  List.takeWhile_cons_of_pos h

theorem reached_cons_of_barred {n : Expr} (h : ¬ n.permitted platform = true)
    (nodes : List Expr) : reached platform (n :: nodes) = [] :=
  List.takeWhile_cons_of_neg h

theorem reached_of_permitted {nodes : List Expr}
    (h : ∀ n ∈ nodes, n.permitted platform = true) :
    reached platform nodes = nodes :=
  List.takeWhile_eq_self_iff.mpr h

theorem reached_append_of_permitted {nodes : List Expr}
    (h : ∀ n ∈ nodes, n.permitted platform = true) (more : List Expr) :
    reached platform (nodes ++ more) = nodes ++ reached platform more :=
  List.takeWhile_append_of_pos h

theorem reached_append_of_barred {nodes : List Expr}
    (h : ¬ ∀ n ∈ nodes, n.permitted platform = true) (more : List Expr) :
    reached platform (nodes ++ more) = reached platform nodes := by
  induction nodes with
  | nil => exact absurd (List.forall_mem_nil _) h
  | cons n nodes ih =>
      rw [List.cons_append]
      by_cases first : n.permitted platform = true
      · have later : ¬ ∀ n ∈ nodes, n.permitted platform = true :=
          fun all => h (List.forall_mem_cons.mpr ⟨first, all⟩)
        rw [reached_cons_of_permitted first, reached_cons_of_permitted first,
          ih later]
      · rw [reached_cons_of_barred first, reached_cons_of_barred first]

/-- Where not all nodes are reached, the next one is a call of a function that
may not be used. -/
theorem split_at_reached {nodes : List Expr}
    (h : ¬ ∀ n ∈ nodes, n.permitted platform = true) :
    ∃ d es after, nodes = reached platform nodes ++ .call d es :: after ∧
      ¬ d.platforms.Allows platform := by
  have unreached : nodes.dropWhile (Expr.permitted platform) ≠ [] :=
    fun none => h (List.dropWhile_eq_nil_iff.mp none)
  have barred := List.head_dropWhile_not (Expr.permitted platform) unreached
  obtain ⟨n, after, rest⟩ := List.exists_cons_of_ne_nil unreached
  have split := List.takeWhile_append_dropWhile (p := Expr.permitted platform)
    (l := nodes)
  simp only [rest, List.head_cons] at barred split
  cases n with
  | call d es =>
      refine ⟨d, es, after, split.symm, fun allowed => ?_⟩
      have permitted : (Expr.call d es).permitted platform = true :=
        AllowList.permits_iff.mpr allowed
      rw [permitted] at barred
      cases barred
  | path w | number w | text w | parameter w => cases barred

theorem allows_of_mem_reached {nodes : List Expr} {d : Definition}
    {es : List Expr} (h : .call d es ∈ reached platform nodes) :
    d.platforms.Allows platform := by
  have permitted : (Expr.call d es).permitted platform = true :=
    List.mem_takeWhile_imp h
  exact AllowList.permits_iff.mp permitted

theorem permitted_iff_allows (e : Expr) :
    (∀ n ∈ e.preorder, n.permitted platform = true) ↔
      ∀ d ∈ e.functions, d.platforms.Allows platform := by
  unfold Expr.functions Expr.permitted
  simp only [List.mem_filterMap, forall_exists_index, and_imp]
  constructor
  · intro h d n hn called
    have permitted := h n hn
    rw [called] at permitted
    exact AllowList.permits_iff.mp permitted
  · intro h n hn
    cases called : n.function? with
    | none => rfl
    | some d => exact AllowList.permits_iff.mpr (h d n hn called)

/-! ## The walk -/

theorem toSql_yields_iff (e : Expr) (s : List String) :
    (∃ sql, (e.toSql platform s).result = .ok sql) ↔
      ∀ n ∈ e.preorder, n.permitted platform = true := by
  rw [permitted_iff_allows]
  exact (screened_toSql e s).screening.written_iff

theorem state_write (d : Definition) (s : List String)
    (arguments : Action (List String) (List String)) :
    (Call.write d platform arguments s).state =
      if d.platforms.permits platform then (arguments s).state else s := by
  by_cases permitted : d.platforms.permits platform = true
  · rw [Call.write_of_allows (AllowList.permits_iff.mp permitted),
      if_pos permitted, ← bind_pure_comp, finalState_bind]
    cases (arguments s).result with
    | ok texts => rfl
    | error e => rfl
  · have barred := mt AllowList.permits_iff.mpr permitted
    rw [Call.write_of_not_allows barred, if_neg permitted]

/-- A walk adds the parameters of the nodes that it reaches to those collected
before. -/
def Collects (platform : String) (nodes : List Expr) {α : Type}
    (action : Action (List String) α) : Prop :=
  ∀ s, (action s).state =
    s ++ (reached platform nodes).filterMap Expr.parameter?

theorem collects_cons {e : Expr} {es : List Expr}
    (first : Collects platform e.preorder (e.toSql platform))
    (others : Collects platform (es.flatMap Expr.preorder)
      (Expr.eachToSql platform es)) :
    Collects platform ((e :: es).flatMap Expr.preorder)
      (Expr.eachToSql platform (e :: es)) := by
  intro s
  have yields := @toSql_yields_iff platform e s
  rw [Expr.eachToSql, finalState_bind, first s, List.flatMap_cons]
  cases ended : (e.toSql platform s).result with
  | ok sql =>
      -- the first walk reached all its nodes, so the second goes on behind them
      have all := yields.mp ⟨sql, ended⟩
      rw [reached_append_of_permitted all, reached_of_permitted all,
        List.filterMap_append, ← List.append_assoc, ← others]
      simp only [finalState_bind]
      cases (Expr.eachToSql platform es
        (s ++ e.preorder.filterMap Expr.parameter?)).result with
      | ok texts => rfl
      | error e => rfl
  | error refusal =>
      have barred : ¬ ∀ n ∈ e.preorder, n.permitted platform = true := by
        intro all
        obtain ⟨sql, ok⟩ := yields.mpr all
        rw [ended] at ok
        cases ok
      rw [reached_append_of_barred barred]

theorem collects_eachToSql {es : List Expr}
    (h : ∀ e ∈ es, Collects platform e.preorder (e.toSql platform)) :
    Collects platform (es.flatMap Expr.preorder)
      (Expr.eachToSql platform es) := by
  induction es with
  | nil =>
      intro s
      exact (List.append_nil s).symm
  | cons e es ih =>
      exact collects_cons (h e List.mem_cons_self)
        (ih fun e he => h e (List.mem_cons_of_mem _ he))

theorem collects_toSql (e : Expr) :
    Collects platform e.preorder (e.toSql platform) := by
  induction e using Expr.induct with
  | path w | number w | text w =>
      intro s
      exact (List.append_nil s).symm
  | parameter name => exact fun s => rfl
  | call d es ih =>
      intro s
      rw [Expr.toSql, state_write, collects_eachToSql ih s, Expr.preorder,
        eachPreorder_eq_flatMap]
      by_cases permitted : d.platforms.permits platform = true
      · have first : (Expr.call d es).permitted platform = true := permitted
        rw [if_pos permitted, reached_cons_of_permitted first]
        rfl
      · have first : ¬ (Expr.call d es).permitted platform = true := permitted
        rw [if_neg permitted, reached_cons_of_barred first]
        exact (List.append_nil s).symm

/-! ## Reading order -/

/-- The name of the parameter that a token is, if it is one. -/
def parameterNamed? (t : Token) : Option String :=
  match t.kind, t.text.toList with
  | .other, ':' :: name => some (String.ofList name)
  | _, _ => none

theorem parameterNamed?_of_kind {t : Token} (h : t.kind ≠ .other) :
    parameterNamed? t = none := by
  unfold parameterNamed?
  split
  · next isOther _ => exact absurd isOther h
  · rfl

theorem parameterNamed?_of_no_colon {t : Token}
    (h : t.text.toList.head? ≠ some ':') : parameterNamed? t = none := by
  unfold parameterNamed?
  split
  · next colon =>
      rw [colon] at h
      exact absurd rfl h
  · rfl

theorem parameters_call (d : Definition) (es : List Expr) :
    (Expr.call d es).parameters = es.flatMap Expr.parameters := by
  show (Expr.eachPreorder es).filterMap Expr.parameter? = _
  rw [eachPreorder_eq_flatMap, List.filterMap_flatMap]
  rfl

theorem parameters_of_separated {ts : List Token} {es : List Expr}
    (h : Separated (fun ts e => ts.filterMap parameterNamed? = e.parameters)
      ts es) : ts.filterMap parameterNamed? = es.flatMap Expr.parameters := by
  induction h with
  | one head => rw [head, List.flatMap_cons, List.flatMap_nil, List.append_nil]
  | more head kind _ ih =>
      have comma := parameterNamed?_of_kind (by rw [kind]; exact nofun)
      rw [List.filterMap_append, List.filterMap_cons_none comma, head, ih,
        List.flatMap_cons]

/-- The parameters of an expression are those among its tokens. -/
theorem parameters_of_derives {ts : List Token} {e : Expr}
    (h : Derives registry ts e) :
    ts.filterMap parameterNamed? = e.parameters := by
  induction h using Derives.induct with
  | path t kind free =>
      exact List.filterMap_cons_none
        (parameterNamed?_of_kind (by rw [kind]; exact nofun))
  | text t cs kind quoted =>
      exact List.filterMap_cons_none
        (parameterNamed?_of_no_colon (by rw [quoted]; exact nofun))
  | parameter t cs kind colon =>
      have named : parameterNamed? t = some (String.ofList cs) := by
        unfold parameterNamed?
        rw [kind, colon]
        rfl
      exact List.filterMap_cons_some named
  | number t kind unquoted noColon =>
      exact List.filterMap_cons_none (parameterNamed?_of_no_colon noColon)
  | call name opening closing ts d es isName registered isOpening arguments
      isClosing admits ih =>
      have named := parameterNamed?_of_kind (t := name)
        (by rw [isName]; exact nofun)
      have opened := parameterNamed?_of_kind (t := opening)
        (by rw [isOpening]; exact nofun)
      have closed := parameterNamed?_of_kind (t := closing)
        (by rw [isClosing]; exact nofun)
      rw [List.filterMap_cons_none named, List.filterMap_cons_none opened,
        List.filterMap_append, List.filterMap_cons_none closed,
        List.filterMap_nil, List.append_nil, parameters_call]
      exact parameters_of_separated (ih.imp fun _ _ h => h.choose_spec)

/-- Compiling a call adds the names of its parameters to those collected before,
in reading order, once for each time they occur. When it fails it has added
those that stand before the first call of a function that may not be used on the
platform, and none from within that call or behind it. For a call that was read
from an input, reading order is the order of the input. -/
theorem parameters_come_in_reading_order (call : Call Expr) (platform : String)
    (earlier : List String) :
    (∀ sql, (call.compile (compiler platform) earlier).result = .ok sql →
      (call.compile (compiler platform) earlier).state =
        earlier ++ (Expr.ofCall call).parameters) ∧
    (∀ e, (call.compile (compiler platform) earlier).result = .error e →
      ∃ before d es after,
        (Expr.ofCall call).preorder = before ++ .call d es :: after ∧
        (∀ d' es', .call d' es' ∈ before → d'.platforms.Allows platform) ∧
        ¬ d.platforms.Allows platform ∧
        (call.compile (compiler platform) earlier).state =
          earlier ++ before.filterMap Expr.parameter?) ∧
    ∀ registry input, (parse registry input).result = .ok call →
      (Expr.ofCall call).parameters =
        (lex input).filterMap parameterNamed? := by
  rw [← toSql_ofCall]
  have collected := @collects_toSql platform (Expr.ofCall call) earlier
  have yields := @toSql_yields_iff platform (Expr.ofCall call) earlier
  refine ⟨fun sql written => ?_, fun e refused => ?_, fun registry input read =>
    (parameters_of_derives (parse_eq_ok_iff.mp read)).symm⟩
  · rw [collected, reached_of_permitted (yields.mp ⟨sql, written⟩)]
    rfl
  · have barred : ¬ ∀ n ∈ (Expr.ofCall call).preorder,
        n.permitted platform = true := by
      intro all
      obtain ⟨sql, written⟩ := yields.mpr all
      rw [refused] at written
      cases written
    obtain ⟨d, es, after, split, disallowed⟩ := split_at_reached barred
    exact ⟨_, d, es, after, split, fun _ _ => allows_of_mem_reached, disallowed,
      collected⟩

/-- A function for one platform, with the bounds of the distance. -/
def buffer : Definition :=
  ⟨"ST_Buffer", Call.distance.arity, .ofList ["postgresql"], by decide⟩

/-- `st_distance(:a, st_buffer(:b, :a), :c)`. -/
def bufferedDistance : Call Expr :=
  ⟨Call.distance, [.parameter "a",
    .call buffer [.parameter "b", .parameter "a"], .parameter "c"]⟩

theorem buffered_distance_parameters :
    (bufferedDistance.compile (compiler "postgresql") ["z"]).result =
        .ok "ST_Distance(?, ST_Buffer(?, ?), ?)" ∧
      (bufferedDistance.compile (compiler "postgresql") ["z"]).state =
        ["z", "a", "b", "a", "c"] ∧
      (bufferedDistance.compile (compiler "mysql") ["z"]).result =
        .error (.unsupportedPlatform "mysql") ∧
      (∃ before d es after, (Expr.ofCall bufferedDistance).preorder =
          before ++ .call d es :: after ∧ ¬ d.platforms.Allows "mysql" ∧
        before.filterMap Expr.parameter? = ["a"]) ∧
      (parse distanceOnly "st_distance(a, :b)").result = .ok distanceOfPath ∧
      (Expr.ofCall distanceOfPath).parameters =
        (lex "st_distance(a, :b)").filterMap parameterNamed? := by
  have written :
      (bufferedDistance.compile (compiler "postgresql") ["z"]).result =
        .ok "ST_Distance(?, ST_Buffer(?, ?), ?)" :=
    congrArg Except.ok (by decide +kernel)
  have refused : (bufferedDistance.compile (compiler "mysql") ["z"]).result =
      .error (.unsupportedPlatform "mysql") := rfl
  have tokens : lex "st_distance(a, :b)" = Call.distanceTokens := by
    decide +kernel
  have read : (parse distanceOnly "st_distance(a, :b)").result =
      .ok distanceOfPath :=
    parse_eq_ok_iff.mpr (tokens ▸ derives_distanceOfPath)
  obtain ⟨collected, -⟩ :=
    parameters_come_in_reading_order bufferedDistance "postgresql" ["z"]
  obtain ⟨-, cut, -⟩ :=
    parameters_come_in_reading_order bufferedDistance "mysql" ["z"]
  obtain ⟨before, d, es, after, split, -, barred, state⟩ := cut _ refused
  have kept : ["z"] ++ before.filterMap Expr.parameter? = ["z"] ++ ["a"] :=
    state.symm
  obtain ⟨-, -, named⟩ :=
    parameters_come_in_reading_order distanceOfPath "any" []
  exact ⟨written, collected _ written, refused,
    ⟨before, d, es, after, split, barred, List.append_cancel_left kept⟩, read,
    named _ _ read⟩

end SpatialSql.Query
