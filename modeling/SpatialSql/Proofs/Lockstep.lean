import SpatialSql.Proofs.Lookahead
import SpatialSql.Proofs.QueryGrammar

/-!
# Readers in lockstep

Two runs of a reader, on sources that are not the same but look alike, take
every step together: they make the same choices, pass the same number of
tokens and end alike. What "alike" means is left open. `Lockstep` has a
relation on the states and one on the errors as parameters, and is kept by
sequencing whatever they are. The two sources may be of different types.

What the readers need of the relations is little. To read a call it is enough
that the kinds of the tokens agree (`InStep`); the texts matter only to the
choice of the function and in the leaves of an expression, and there only as
far as the registries tell them apart (`InStepOver`).
-/

namespace SpatialSql.Action

variable {σ τ α β : Type}

section

variable (look : σ → τ → Prop) (blame : Error → Error → Prop)

/-- The runs ended alike: both in the same value, or both in errors that lay the
same `blame`; with the same log; and in states that `look` alike. -/
inductive Abreast : Outcome σ α → Outcome τ α → Prop
  | yields {a : α} {s : σ} {s' : τ} {log : List Event} (states : look s s') :
      Abreast ⟨.ok a, s, log⟩ ⟨.ok a, s', log⟩
  | fails {e e' : Error} {s : σ} {s' : τ} {log : List Event}
      (errors : blame e e') (states : look s s') :
      Abreast ⟨.error e, s, log⟩ ⟨.error e', s', log⟩

/-- From states that look alike the actions run to an end alike. -/
def Lockstep (action : Action σ α) (action' : Action τ α) : Prop :=
  ∀ s s', look s s' → Abreast look blame (action s) (action' s')

end

variable {look : σ → τ → Prop} {blame : Error → Error → Prop}

theorem Abreast.states {out : Outcome σ α} {out' : Outcome τ α}
    (h : Abreast look blame out out') : look out.state out'.state := by
  cases h with
  | yields states | fails _ states => exact states

theorem lockstep_pure (a : α) :
    Lockstep look blame (pure a : Action σ α) (pure a : Action τ α) :=
  fun _ _ states => .yields states

theorem lockstep_fail {e e' : Error} (errors : blame e e') :
    Lockstep look blame (fail e : Action σ α) (fail e' : Action τ α) :=
  fun _ _ states => .fails errors states

theorem lockstep_emit (event : Event) :
    Lockstep look blame (emit event : Action σ Unit)
      (emit event : Action τ Unit) :=
  fun _ _ states => .yields states

theorem lockstep_bind {action : Action σ α} {action' : Action τ α}
    {next : α → Action σ β} {next' : α → Action τ β}
    (h : Lockstep look blame action action')
    (hn : ∀ a, Lockstep look blame (next a) (next' a)) :
    Lockstep look blame (action >>= next) (action' >>= next') := by
  intro s s' states
  have first := h s s' states
  rw [bind_apply, bind_apply]
  generalize action s = out at first
  generalize action' s' = out' at first
  cases first with
  | fails errors states => exact .fails errors states
  | @yields a t t' log states =>
      have second := hn a t t' states
      simp only []
      generalize next a t = out at second
      generalize next' a t' = out' at second
      cases second with
      | fails errors states => exact .fails errors states
      | yields states => exact .yields states

theorem lockstep_state_bind {next : σ → Action σ α} {next' : τ → Action τ α}
    (h : ∀ s s', look s s' → Abreast look blame (next s s) (next' s' s')) :
    Lockstep look blame (state >>= next) (state >>= next') :=
  h

theorem lockstep_map {action : Action σ α} {action' : Action τ α} (f : α → β)
    (h : Lockstep look blame action action') :
    Lockstep look blame (f <$> action) (f <$> action') := by
  rw [← bind_pure_comp, ← bind_pure_comp]
  exact lockstep_bind h fun a => lockstep_pure (f a)

end SpatialSql.Action

namespace SpatialSql

open SpatialSql.Action TokenSource

variable {σ τ E : Type} [TokenSource σ] [TokenSource τ]

/-- Sources that look alike have tokens of the same kinds and stay alike when one
is passed, and a token that is wanted is missed with the same blame. -/
structure InStep (look : σ → τ → Prop) (blame : Error → Error → Prop) :
    Prop where
  kinds : ∀ {s s'}, look s s' →
    (remaining s).map Token.kind = (remaining s').map Token.kind
  advances : ∀ {s s'}, look s s' → look (advance s) (advance s')
  misses : ∀ {s s'} (kind : Token.Kind), look s s' →
    blame (.unexpectedToken kind (found s)) (.unexpectedToken kind (found s'))

/-- A reader over the one registry takes the one token as a reader over the other
takes the other: for the same function, or for the same text. -/
structure ReadAlike (registry registry' : Registry) (t t' : Token) : Prop where
  kind : t.kind = t'.kind
  function : t.kind = .identifier →
    registry.get? t.text = registry'.get? t'.text
  text : (t.kind = .identifier → registry.get? t.text = none) →
    t.text = t'.text

/-- Sources that look alike are in step, and the next tokens are taken for the
same. -/
structure InStepOver (registry registry' : Registry) (look : σ → τ → Prop)
    (blame : Error → Error → Prop) : Prop extends InStep look blame where
  alike : ∀ {s s'}, look s s' → ∀ {t t'}, peek s = some t →
    peek s' = some t' → ReadAlike registry registry' t t'
  same : ∀ e, blame e e

section

variable {look : σ → τ → Prop} {blame : Error → Error → Prop}

namespace InStep

variable (h : InStep look blame)

include h

theorem length_eq {s : σ} {s' : τ} (states : look s s') :
    (remaining s).length = (remaining s').length := by
  have := congrArg List.length (h.kinds states)
  rwa [List.length_map, List.length_map] at this

theorem peeks {s : σ} {s' : τ} (states : look s s') :
    (peek s = none ∧ peek s' = none) ∨
      ∃ t t', peek s = some t ∧ peek s' = some t' ∧ t.kind = t'.kind := by
  have kinds := h.kinds states
  unfold peek
  cases hr : remaining s with
  | nil =>
      rw [hr, List.map_nil] at kinds
      rw [List.map_eq_nil_iff.mp kinds.symm]
      exact Or.inl ⟨rfl, rfl⟩
  | cons t rest =>
      rw [hr, List.map_cons] at kinds
      obtain ⟨t', rest', hr', same, -⟩ := List.map_eq_cons_iff.mp kinds.symm
      rw [hr']
      exact Or.inr ⟨t, t', rfl, rfl, same.symm⟩

theorem atKind_eq {s : σ} {s' : τ} (states : look s s') (kind : Token.Kind) :
    atKind kind s = atKind kind s' := by
  rcases h.peeks states with ⟨hp, hp'⟩ | ⟨t, t', hp, hp', same⟩
  · rw [atKind, atKind, hp, hp']
  · rw [atKind, atKind, hp, hp', Option.any_some, Option.any_some, same]

theorem lockstep_expect (kind : Token.Kind) :
    Lockstep look blame (expect kind : Action σ Unit)
      (expect kind : Action τ Unit) := by
  intro s s' states
  rw [expect, expect, h.atKind_eq states]
  split
  · exact .yields (h.advances states)
  · exact .fails (h.misses kind states) states

theorem wantsAnother_eq {s : σ} {s' : τ} (states : look s s') (arity : Arity)
    (count : Nat) :
    Call.wantsAnother arity count s = Call.wantsAnother arity count s' := by
  rw [Call.wantsAnother, Call.wantsAnother, h.atKind_eq states]

/-- The name ahead is taken for the same function, or is unknown to both. -/
theorem lockstep_definitionAhead {registry registry' : Registry}
    (alike : ∀ {s s'}, look s s' → ∀ {t t'}, peek s = some t →
      peek s' = some t' → ReadAlike registry registry' t t')
    (unknown : ∀ name, blame (.unknownFunction name) (.unknownFunction name)) :
    Lockstep look blame registry.definitionAhead registry'.definitionAhead := by
  intro s s' states
  rcases h.peeks states with ⟨hp, hp'⟩ | ⟨t, t', hp, hp', same⟩
  · have wanted := h.misses .identifier states
    rw [Registry.definitionAhead, Registry.definitionAhead, state_bind,
      state_bind, hp, hp']
    exact .fails wanted states
  · have alike := alike states hp hp'
    have wanted := h.misses .identifier states
    rw [found_of_peek hp, found_of_peek hp'] at wanted
    rw [registry.definitionAhead_eq hp, registry'.definitionAhead_eq hp', same]
    split
    · next hk =>
        have known := alike.function (same.trans hk)
        rw [← known]
        cases hg : registry.get? t.text with
        | some d => exact .yields states
        | none =>
            rw [alike.text fun _ => hg]
            exact .fails (unknown _) states
    · exact .fails wanted states

variable {argument : Action σ E} {argument' : Action τ E}
  (ha : Lockstep look blame argument argument')

include ha

theorem lockstep_parseFurther (arity : Arity) (tokens : Nat) :
    ∀ count, Lockstep look blame
      (Call.parseFurther arity argument tokens count)
      (Call.parseFurther arity argument' tokens count) := by
  induction tokens with
  | zero =>
      intro count
      rw [Call.parseFurther, Call.parseFurther]
      refine lockstep_state_bind fun s s' states => ?_
      rw [h.wantsAnother_eq states]
      split
      · exact lockstep_bind (h.lockstep_expect _) (fun _ => lockstep_pure _)
          s s' states
      · exact .yields states
  | succ tokens ih =>
      intro count
      rw [Call.parseFurther, Call.parseFurther]
      refine lockstep_state_bind fun s s' states => ?_
      rw [h.wantsAnother_eq states]
      split
      · refine lockstep_bind (h.lockstep_expect _) (fun _ => ?_) s s' states
        refine lockstep_bind ha fun _ => ?_
        exact lockstep_bind (ih _) fun _ => lockstep_pure _
      · exact .yields states

theorem lockstep_parse (definition : Definition) :
    Lockstep look blame (Call.parse definition argument)
      (Call.parse definition argument') := by
  refine lockstep_bind (h.lockstep_expect _) fun _ => ?_
  refine lockstep_bind (h.lockstep_expect _) fun _ => ?_
  refine lockstep_bind (lockstep_bind ha fun _ => ?_) fun _ => ?_
  · refine lockstep_state_bind fun s s' states => ?_
    rw [h.length_eq states]
    exact lockstep_bind (h.lockstep_parseFurther ha _ _ 1)
      (fun _ => lockstep_pure _) s s' states
  · refine lockstep_bind (h.lockstep_expect _) fun _ => ?_
    exact lockstep_bind (lockstep_emit _) fun _ => lockstep_pure _

theorem lockstep_parseCall {registry registry' : Registry}
    (alike : ∀ {s s'}, look s s' → ∀ {t t'}, peek s = some t →
      peek s' = some t' → ReadAlike registry registry' t t')
    (unknown : ∀ name, blame (.unknownFunction name) (.unknownFunction name)) :
    Lockstep look blame (registry.parseCall argument)
      (registry'.parseCall argument') :=
  lockstep_bind (h.lockstep_definitionAhead alike unknown) fun d =>
    h.lockstep_parse ha d

end InStep

namespace InStepOver

variable {registry registry' : Registry}
  (h : InStepOver registry registry' look blame)

include h

theorem lockstep_parseCall {argument : Action σ E} {argument' : Action τ E}
    (ha : Lockstep look blame argument argument') :
    Lockstep look blame (registry.parseCall argument)
      (registry'.parseCall argument') :=
  h.toInStep.lockstep_parseCall ha h.alike fun _ => h.same _

theorem lockstep_expression (tokens : Nat) :
    Lockstep look blame (Query.expression registry tokens)
      (Query.expression registry' tokens) := by
  induction tokens with
  | zero => exact lockstep_fail (h.same _)
  | succ tokens ih =>
      intro s s' states
      rw [Query.expression_succ, Query.expression_succ]
      rcases h.peeks states with ⟨hp, hp'⟩ | ⟨t, t', hp, hp', same⟩
      · rw [Query.expressionWith_at_end registry (peek_eq_none.mp hp),
          Query.expressionWith_at_end registry' (peek_eq_none.mp hp')]
        exact .fails (h.same _) states
      · have alike := h.alike states hp hp'
        rw [Query.expressionWith_at registry _ hp,
          Query.expressionWith_at registry' _ hp', ← same]
        split
        · next hk =>
            have known : registry.contains t.text = registry'.contains t'.text :=
              congrArg Option.isSome (alike.function hk)
            rw [← known]
            split
            · exact lockstep_map _ (h.lockstep_parseCall ih) s s' states
            · next free =>
                have unknown : registry.get? t.text = none :=
                  Registry.not_contains_iff.mp (Bool.eq_false_iff.mpr free)
                rw [alike.text fun _ => unknown]
                exact .yields (h.advances states)
        · next hk =>
            rw [alike.text fun hk' => by rw [hk] at hk'; cases hk']
            exact .yields (h.advances states)
        · next hi ho =>
            rw [alike.text fun hk => absurd hk hi]
            exact .fails (h.same _) states

theorem lockstep_query :
    Lockstep look blame (Query.parseCall registry)
      (Query.parseCall registry') := by
  refine lockstep_state_bind fun s s' states => ?_
  rw [h.length_eq states]
  exact h.lockstep_parseCall (h.lockstep_expression _) s s' states

end InStepOver

end

end SpatialSql
