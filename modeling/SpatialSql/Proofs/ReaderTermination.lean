import SpatialSql.Proofs.Runs
import SpatialSql.Query.Parser

/-!
# The readers halt on the tokens there are

Two readers count down: the loop over further arguments and the reader of
nested expressions. Their count is bookkeeping and no bound. Every further
argument costs a comma and every nested call costs a name, so the number of
tokens that are left always covers the recursion, and any two counts that
cover it give the same outcome: state, value or error, and log.

That makes the counts disappear. `furtherArguments` and `readExpression` are
the two readers at the number of tokens they stand before, and the equations
`furtherArguments_eq` and `readExpression_eq` are the loops as one would write
them without counting. Everything after this file argues from these
equations. The one thing they ask of a host's reader is that it is forward.
-/

namespace SpatialSql.Action

variable {σ α β : Type}

/-- Two sequences agree where their first actions agree and their second ones
agree on what the first one hands over. -/
theorem bind_congr_at {a b : Action σ α} {f g : α → Action σ β} {s : σ}
    (h : a s = b s)
    (hn : ∀ x s', a.Yields s x s' → f x s' = g x s') :
    (a >>= f) s = (b >>= g) s := by
  rw [bind_apply, bind_apply, ← h]
  rcases hs : a s with ⟨_ | x, s', events⟩
  · rfl
  · have hx : a.Yields s x s' := by rw [Yields, hs]; exact ⟨rfl, rfl⟩
    simp only [hn x s' hx]

theorem map_congr_at {a b : Action σ α} (f : α → β) {s : σ} (h : a s = b s) :
    (f <$> a) s = (f <$> b) s := by
  rw [← bind_pure_comp, ← bind_pure_comp]
  exact bind_congr_at h fun _ _ _ => rfl

end SpatialSql.Action

namespace SpatialSql.Call

open SpatialSql.Action TokenSource

variable {σ E : Type} [TokenSource σ]

/-! ## The loop over further arguments -/

theorem expect_at_end {kind : Token.Kind} {s : σ} (h : remaining s = []) :
    (expect kind : Action σ Unit) s =
      ⟨.error (.unexpectedToken kind (found s)), s, []⟩ := by
  exact expect_of_other (by rw [atKind, peek, h]; rfl)

theorem parseFurther_at_end {arity : Arity} {argument : Action σ E}
    {tokens count : Nat} {s : σ} (h : remaining s = []) :
    parseFurther arity argument tokens count s =
      if wantsAnother arity count s then
        ⟨.error (.unexpectedToken .comma (found s)), s, []⟩
      else ⟨.ok [], s, []⟩ := by
  cases tokens with
  | zero =>
      rw [parseFurther, state_bind]
      split
      · rw [bind_apply, expect_at_end h]
      · rfl
  | succ tokens =>
      rw [parseFurther, state_bind]
      split
      · rw [bind_apply, expect_at_end h]
      · rfl

/-- The loop in step: counts that cover the tokens, and readers that agree on
what the loop can hand to them, give one outcome. -/
theorem parseFurther_congr {arity : Arity} {a b : Action σ E}
    (forward : Forward a) :
    ∀ {m n count : Nat} {s : σ},
      (remaining s).length ≤ m → (remaining s).length ≤ n →
      (∀ s', remaining s' <:+ remaining s → a s' = b s') →
      parseFurther arity a m count s = parseFurther arity b n count s := by
  intro m
  induction m with
  | zero =>
      intro n count s hm _ _
      have h : remaining s = [] := List.length_eq_zero_iff.mp (by omega)
      rw [parseFurther_at_end h, parseFurther_at_end h]
  | succ m ih =>
      intro n count s hm hn hab
      by_cases h : remaining s = []
      · rw [parseFurther_at_end h, parseFurther_at_end h]
      · have hpos := List.length_pos_iff.mpr h
        obtain ⟨k, rfl⟩ : ∃ k, n = k + 1 := ⟨n - 1, by omega⟩
        rw [parseFurther, parseFurther, state_bind, state_bind]
        split
        · refine bind_congr_at rfl fun _ s₁ h₁ => ?_
          have comma := yields_expect.mp h₁
          have hl₁ := comma.length
          refine bind_congr_at (hab s₁ comma.suffix) fun x s₂ h₂ => ?_
          have behind := (forward.yields h₂).trans comma.suffix
          have hl₂ := (forward.yields h₂).length_le
          exact bind_congr_at
            (ih (by omega) (by omega) fun s' hs' => hab s' (hs'.trans behind))
            fun _ _ _ => rfl
        · rfl

/-- The arguments after the first `count`, read with as many rounds as there
are tokens. -/
def furtherArguments (arity : Arity) (argument : Action σ E) (count : Nat) :
    Action σ (List E) :=
  fun s => parseFurther arity argument (remaining s).length count s

theorem furtherArguments_apply {arity : Arity} {argument : Action σ E}
    (forward : Forward argument) {tokens count : Nat} {s : σ}
    (h : (remaining s).length ≤ tokens) :
    furtherArguments arity argument count s =
      parseFurther arity argument tokens count s :=
  parseFurther_congr forward (Nat.le_refl _) h fun _ _ => rfl

/-- The loop: while another argument is wanted, a comma and the argument. -/
theorem furtherArguments_eq (arity : Arity) {argument : Action σ E}
    (forward : Forward argument) (count : Nat) :
    furtherArguments arity argument count = (do
      if wantsAnother arity count (← Action.state) then
        expect .comma
        let next ← argument
        let others ← furtherArguments arity argument (count + 1)
        pure (next :: others)
      else pure []) := by
  funext s
  rw [furtherArguments_apply forward (Nat.le_succ _), parseFurther, state_bind,
    state_bind]
  split
  · refine bind_congr_at rfl fun _ s₁ h₁ => ?_
    have hl₁ := (yields_expect.mp h₁).length
    refine bind_congr_at rfl fun x s₂ h₂ => ?_
    have hl₂ := (forward.yields h₂).length_le
    exact bind_congr_at (furtherArguments_apply forward (by omega)).symm
      fun _ _ _ => rfl
  · rfl

theorem parseArguments_eq (arity : Arity) (argument : Action σ E) :
    parseArguments arity argument = (do
      let first ← argument
      let others ← furtherArguments arity argument 1
      pure (first :: others)) := rfl

/-- `s'` is within the call that begins at `s`, behind its name and its opening
parenthesis. -/
def Within (s s' : σ) : Prop :=
  ∃ s₁ s₂, Takes .identifier s s₁ ∧ Takes .openParenthesis s₁ s₂ ∧
    remaining s' <:+ remaining s₂

theorem Within.length_lt {s s' : σ} (h : Within s s') :
    (remaining s').length < (remaining s).length := by
  obtain ⟨s₁, s₂, name, opening, behind⟩ := h
  have hl₁ := name.length
  have hl₂ := opening.length
  have hl := behind.length_le
  omega

/-- A call read with two readers that agree on all that is within it. -/
theorem parse_congr {definition : Definition} {a b : Action σ E} {s : σ}
    (forward : Forward a) (h : ∀ s', Within s s' → a s' = b s') :
    parse definition a s = parse definition b s := by
  refine bind_congr_at rfl fun _ s₁ h₁ => ?_
  refine bind_congr_at rfl fun _ s₂ h₂ => ?_
  have within : ∀ s', remaining s' <:+ remaining s₂ → a s' = b s' :=
    fun s' behind => h s' ⟨s₁, s₂, yields_expect.mp h₁, yields_expect.mp h₂,
      behind⟩
  refine bind_congr_at ?_ fun _ _ _ => rfl
  rw [parseArguments_eq, parseArguments_eq]
  refine bind_congr_at (within s₂ (List.suffix_refl _)) fun _ s₃ h₃ => ?_
  have behind := forward.yields h₃
  refine bind_congr_at ?_ fun _ _ _ => rfl
  exact parseFurther_congr forward (Nat.le_refl _) (Nat.le_refl _)
    fun s' hs' => within s' (hs'.trans behind)

/-! ## What calls keep -/

section

variable {inv : σ → Prop}

theorem keeps_parseFurther (stable : Stable inv) (arity : Arity)
    {argument : Action σ E} (h : Keeps inv argument) (tokens : Nat) :
    ∀ count, Keeps inv (parseFurther arity argument tokens count) := by
  induction tokens with
  | zero =>
      intro count
      rw [parseFurther]
      refine keeps_state_bind fun s => ?_
      split
      · exact keeps_bind (keeps_expect stable _) fun _ => keeps_pure _
      · exact keeps_pure _
  | succ tokens ih =>
      intro count
      rw [parseFurther]
      refine keeps_state_bind fun s => ?_
      split
      · refine keeps_bind (keeps_expect stable _) fun _ => ?_
        refine keeps_bind h fun _ => ?_
        exact keeps_bind (ih _) fun _ => keeps_pure _
      · exact keeps_pure _

theorem keeps_furtherArguments (stable : Stable inv) (arity : Arity)
    {argument : Action σ E} (h : Keeps inv argument) (count : Nat) :
    Keeps inv (furtherArguments arity argument count) :=
  fun s => keeps_parseFurther stable arity h (remaining s).length count s

theorem keeps_parseArguments (stable : Stable inv) (arity : Arity)
    {argument : Action σ E} (h : Keeps inv argument) :
    Keeps inv (parseArguments arity argument) := by
  rw [parseArguments_eq]
  refine keeps_bind h fun _ => ?_
  exact keeps_bind (keeps_furtherArguments stable _ h _) fun _ => keeps_pure _

theorem keeps_parse (stable : Stable inv) (definition : Definition)
    {argument : Action σ E} (h : Keeps inv argument) :
    Keeps inv (parse definition argument) := by
  refine keeps_bind (keeps_expect stable _) fun _ => ?_
  refine keeps_bind (keeps_expect stable _) fun _ => ?_
  refine keeps_bind (keeps_parseArguments stable _ h) fun _ => ?_
  refine keeps_bind (keeps_expect stable _) fun _ => ?_
  exact keeps_bind (keeps_emit _) fun _ => keeps_pure _

end

theorem forward_furtherArguments (arity : Arity) {argument : Action σ E}
    (forward : Forward argument) (count : Nat) :
    Forward (furtherArguments arity argument count) :=
  forward_iff_keeps.mpr fun ts => keeps_furtherArguments (stable_suffix ts)
    arity (forward_iff_keeps.mp forward ts) count

end SpatialSql.Call

namespace SpatialSql.Registry

open SpatialSql.Action TokenSource

variable {σ E : Type} [TokenSource σ]

theorem keeps_definitionAhead {inv : σ → Prop} (registry : Registry) :
    Keeps inv (registry.definitionAhead : Action σ Definition) := by
  refine keeps_state_bind fun s => ?_
  split
  · split
    · exact keeps_pure _
    · exact keeps_fail _
  · exact keeps_fail _

theorem keeps_parseCall {inv : σ → Prop} (stable : Stable inv)
    (registry : Registry) {argument : Action σ E} (h : Keeps inv argument) :
    Keeps inv (registry.parseCall argument) :=
  keeps_bind registry.keeps_definitionAhead fun _ =>
    Call.keeps_parse stable _ h

theorem definitionAhead_eq (registry : Registry) {s : σ} {t : Token}
    (hp : peek s = some t) :
    registry.definitionAhead s =
      if t.kind = .identifier then
        match registry.get? t.text with
        | some definition => ⟨.ok definition, s, []⟩
        | none => ⟨.error (.unknownFunction t.text), s, []⟩
      else ⟨.error (.unexpectedToken .identifier (.token t)), s, []⟩ := by
  have hf : found s = .token t := by rw [found, hp]
  obtain ⟨kind, text, position⟩ := t
  rw [definitionAhead, state_bind, hp, hf]
  cases kind with
  | identifier =>
      rw [if_pos rfl]
      cases hg : registry.get? text with
      | none => simp only [hg]; rfl
      | some definition => simp only [hg]; rfl
  | openParenthesis | closeParenthesis | comma | other => rfl

theorem parseCall_congr (registry : Registry) {a b : Action σ E} {s : σ}
    (forward : Forward a) (h : ∀ s', Call.Within s s' → a s' = b s') :
    registry.parseCall a s = registry.parseCall b s := by
  refine bind_congr_at rfl fun definition s₁ h₁ => ?_
  have still : Keeps (· = s) (registry.definitionAhead : Action σ Definition) :=
    registry.keeps_definitionAhead
  obtain rfl := (still s rfl).symm.trans h₁.2
  exact Call.parse_congr forward h

end SpatialSql.Registry

namespace SpatialSql.Query

open SpatialSql.Action TokenSource

variable {σ : Type} [TokenSource σ]

/-! ## Nested expressions -/

/-- One round of the reader of expressions, with `nested` for the arguments of
a call. -/
def expressionWith (registry : Registry) (nested : Action σ Expr) :
    Action σ Expr := do
  match peek (← Action.state) with
  | none => Action.fail .missingExpression
  | some token =>
    match token.kind with
    | .identifier =>
      if registry.contains token.text then
        Expr.ofCall <$> registry.parseCall nested
      else do
        skip
        pure (.path token.text)
    | .other => do
      skip
      pure (.ofOther token.text)
    | _ => Action.fail (.notAnExpression token.text)

theorem expression_succ (registry : Registry) (tokens : Nat) :
    (expression registry (tokens + 1) : Action σ Expr) =
      expressionWith registry (expression registry tokens) := rfl

theorem expressionWith_at_end (registry : Registry) {nested : Action σ Expr}
    {s : σ} (h : remaining s = []) :
    expressionWith registry nested s = ⟨.error .missingExpression, s, []⟩ := by
  rw [expressionWith, state_bind, peek_eq_none.mpr h]
  rfl

theorem keeps_expressionWith {inv : σ → Prop} (stable : Stable inv)
    (registry : Registry) {nested : Action σ Expr} (h : Keeps inv nested) :
    Keeps inv (expressionWith registry nested) := by
  refine keeps_state_bind fun s => ?_
  split
  · exact keeps_fail _
  · split
    · split
      · exact keeps_map _ (Registry.keeps_parseCall stable registry h)
      · exact keeps_bind (keeps_skip stable) fun _ => keeps_pure _
    · exact keeps_bind (keeps_skip stable) fun _ => keeps_pure _
    · exact keeps_fail _

theorem keeps_expression {inv : σ → Prop} (stable : Stable inv)
    (registry : Registry) (tokens : Nat) :
    Keeps inv (expression registry tokens : Action σ Expr) := by
  induction tokens with
  | zero => exact keeps_fail _
  | succ tokens ih => exact keeps_expressionWith stable registry ih

theorem forward_expression (registry : Registry) (tokens : Nat) :
    Forward (expression registry tokens : Action σ Expr) :=
  forward_iff_keeps.mpr fun ts =>
    keeps_expression (stable_suffix ts) registry tokens

theorem expressionWith_congr (registry : Registry) {a b : Action σ Expr} {s : σ}
    (forward : Forward a) (h : ∀ s', Call.Within s s' → a s' = b s') :
    expressionWith registry a s = expressionWith registry b s := by
  rw [expressionWith, expressionWith, state_bind, state_bind]
  cases peek s with
  | none => rfl
  | some t =>
      obtain ⟨kind, text, position⟩ := t
      cases kind with
      | identifier =>
          simp only []
          split
          · exact map_congr_at _ (registry.parseCall_congr forward h)
          · rfl
      | openParenthesis | closeParenthesis | comma | other => rfl

/-- Counts that cover the tokens read the same expression: a nested call takes
its name before it reads an argument, so the smaller counts below still cover
what is left for them. -/
theorem expression_congr (registry : Registry) :
    ∀ {m n : Nat} {s : σ}, (remaining s).length ≤ m →
      (remaining s).length ≤ n →
      expression registry m s = expression registry n s := by
  intro m
  induction m with
  | zero =>
      intro n s hm hn
      have h : remaining s = [] := List.length_eq_zero_iff.mp (by omega)
      cases n with
      | zero => rfl
      | succ n => exact (expressionWith_at_end registry h).symm
  | succ m ih =>
      intro n s hm hn
      cases n with
      | zero =>
          have h : remaining s = [] := List.length_eq_zero_iff.mp (by omega)
          exact expressionWith_at_end registry h
      | succ n =>
          rw [expression_succ, expression_succ]
          refine expressionWith_congr registry (forward_expression registry m)
            fun s' within => ?_
          have hl := within.length_lt
          exact ih (by omega) (by omega)

/-- Reads an expression with as many rounds as there are tokens. -/
def readExpression (registry : Registry) : Action σ Expr :=
  fun s => expression registry (remaining s).length s

theorem forward_readExpression (registry : Registry) :
    Forward (readExpression registry : Action σ Expr) :=
  fun s => forward_expression registry (remaining s).length s

theorem readExpression_apply (registry : Registry) {tokens : Nat} {s : σ}
    (h : (remaining s).length ≤ tokens) :
    readExpression registry s = expression registry tokens s :=
  expression_congr registry (Nat.le_refl _) h

/-- The reader of expressions calls itself for the arguments of a call. -/
theorem readExpression_eq (registry : Registry) :
    (readExpression registry : Action σ Expr) =
      expressionWith registry (readExpression registry) := by
  funext s
  rw [readExpression_apply registry (Nat.le_succ _), expression_succ]
  exact expressionWith_congr registry (forward_expression registry _)
    fun s' within =>
      (readExpression_apply registry (Nat.le_of_lt within.length_lt)).symm

/-- A query's call is read with the reader of expressions for its arguments. -/
theorem parseCall_eq (registry : Registry) :
    (parseCall registry : Action σ (Call Expr)) =
      registry.parseCall (readExpression registry) := by
  funext s
  exact registry.parseCall_congr (forward_expression registry _) fun s' within =>
    (readExpression_apply registry (Nat.le_of_lt within.length_lt)).symm

end SpatialSql.Query
