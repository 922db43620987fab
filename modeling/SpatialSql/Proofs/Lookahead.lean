import SpatialSql.Proofs.ReaderTermination

/-!
# The readers look one token ahead

A reader is `Local` when it decides by the tokens up to the one it stops at,
that one included: another source with the same tokens so far is read the same
way, to the same value or error, with the same log, and up to the same place.
What stands behind the first unread token has no say.

The property holds of taking a token and of every choice made on the next
token, and sequences keep it, so it holds of every reader here by walking
through its definition. Only the counts of the two loops look at all the
tokens, and they were shown to be of no consequence.
-/

namespace SpatialSql

open SpatialSql.Action TokenSource

variable {σ α β : Type} [TokenSource σ]

/-- Both lists begin, and with the same token. -/
def SameHead (u v : List Token) : Prop :=
  ∃ t, u.head? = some t ∧ v.head? = some t

theorem SameHead.append {u v : List Token} (h : SameHead u v) (c : List Token) :
    SameHead (c ++ u) (c ++ v) := by
  cases c with
  | nil => exact h
  | cons t c => exact ⟨t, rfl, rfl⟩

/-- The action is forward, and sources with the same tokens up to where it
stops on the first, and with the same token there, are acted on alike. -/
structure Local (action : Action σ α) : Prop where
  forward : Forward action
  alike : ∀ (s₁ s₂ : σ) (c u v : List Token), SameHead u v →
    remaining s₁ = c ++ u → remaining s₂ = c ++ v →
    remaining (action s₁).state = u →
    (action s₂).result = (action s₁).result ∧
      (action s₂).events = (action s₁).events ∧
      remaining (action s₂).state = v

/-! ## What is local -/

theorem local_of_unread {action : Action σ α}
    (still : ∀ s, (action s).state = s)
    (same : ∀ s₁ s₂, (action s₂).result = (action s₁).result ∧
      (action s₂).events = (action s₁).events) : Local action where
  forward s := by
    simpa only [still s] using List.suffix_refl (remaining s)
  alike s₁ s₂ c u v heads h₁ h₂ hu := by
    rw [still, h₁] at hu
    have hc : c = [] := List.append_left_eq_self.mp hu
    rw [hc, List.nil_append] at h₂
    exact ⟨(same s₁ s₂).1, (same s₁ s₂).2, by rw [still, h₂]⟩

theorem local_pure (a : α) : Local (pure a : Action σ α) :=
  local_of_unread (fun _ => rfl) fun _ _ => ⟨rfl, rfl⟩

theorem local_fail (e : Error) : Local (fail e : Action σ α) :=
  local_of_unread (fun _ => rfl) fun _ _ => ⟨rfl, rfl⟩

theorem local_emit (event : Event) : Local (emit event : Action σ Unit) :=
  local_of_unread (fun _ => rfl) fun _ _ => ⟨rfl, rfl⟩

theorem local_skip : Local (skip : Action σ Unit) where
  forward := forward_skip
  alike s₁ s₂ c u v heads h₁ h₂ hu := by
    have hu : remaining (advance s₁) = u := hu
    refine ⟨rfl, rfl, ?_⟩
    show remaining (advance s₂) = v
    rw [remaining_advance, h₁] at hu
    rw [remaining_advance, h₂]
    cases c with
    | nil =>
        obtain ⟨t, ht, -⟩ := heads
        obtain ⟨rest, rfl⟩ := List.head?_eq_some_iff.mp ht
        exact absurd hu.symm (List.cons_ne_self _ _)
    | cons t c =>
        have hc : c = [] := List.append_left_eq_self.mp hu
        rw [hc]
        rfl

theorem local_state_bind {next : σ → Action σ α}
    (same : ∀ s₁ s₂ t, peek s₁ = some t → peek s₂ = some t → next s₁ = next s₂)
    (h : ∀ s, Local (next s)) : Local (state >>= next) where
  forward := forward_state_bind fun s => (h s).forward
  alike s₁ s₂ c u v heads h₁ h₂ hu := by
    obtain ⟨t, hp₁, hp₂⟩ := heads.append c
    rw [← h₁] at hp₁
    rw [← h₂] at hp₂
    rw [state_bind, state_bind, ← same s₁ s₂ t hp₁ hp₂]
    exact (h s₁).alike s₁ s₂ c u v heads h₁ h₂ hu

theorem found_of_peek {s : σ} {t : Token} (h : peek s = some t) :
    found s = .token t := by rw [found, h]

theorem local_expect (kind : Token.Kind) :
    Local (expect kind : Action σ Unit) := by
  have heq : (expect kind : Action σ Unit) = state >>= fun s =>
      if atKind kind s then skip else fail (.unexpectedToken kind (found s)) := by
    funext s
    rw [state_bind, expect]
    split <;> rfl
  rw [heq]
  refine local_state_bind (fun s₁ s₂ t h₁ h₂ => ?_) fun s => ?_
  · rw [found_of_peek h₁, found_of_peek h₂, atKind, atKind, h₁, h₂]
  · split
    · exact local_skip
    · exact local_fail _

/-- Where the first action ends inside the common tokens, the second goes on
from the same ones. -/
theorem local_bind {action : Action σ α} {next : α → Action σ β}
    (h : Local action) (hn : ∀ a, Local (next a)) :
    Local (action >>= next) where
  forward := forward_bind h.forward fun a => (hn a).forward
  alike s₁ s₂ c u v heads h₁ h₂ hu := by
    rw [bind_apply] at hu ⊢
    rw [bind_apply]
    rcases ha : action s₁ with ⟨e | a, m₁, events⟩
    · rw [ha] at hu
      obtain ⟨result, noted, left⟩ :=
        h.alike s₁ s₂ c u v heads h₁ h₂ (by rw [ha]; exact hu)
      rw [ha] at result noted
      rcases hb : action s₂ with ⟨e' | b, m₂, events'⟩
      · rw [hb] at result noted left
        cases result
        cases noted
        exact ⟨rfl, rfl, left⟩
      · rw [hb] at result
        cases result
    · rw [ha] at hu
      obtain ⟨c₂, hc₂⟩ := (hn a).forward m₁
      obtain ⟨c₁, hc₁⟩ := h.forward s₁
      rw [ha] at hc₁
      simp only [] at hu hc₁
      rw [hu] at hc₂
      have hc : c = c₁ ++ c₂ := by
        rw [h₁, ← hc₂, ← List.append_assoc] at hc₁
        exact (List.append_cancel_right hc₁).symm
      rw [hc, List.append_assoc] at h₁ h₂
      obtain ⟨result, noted, left⟩ := h.alike s₁ s₂ c₁ _ _ (heads.append c₂)
        h₁ h₂ (by rw [ha]; exact hc₂.symm)
      rw [ha] at result noted
      rcases hb : action s₂ with ⟨e' | b, m₂, events'⟩
      · rw [hb] at result
        cases result
      · rw [hb] at result noted left
        cases result
        cases noted
        obtain ⟨result', noted', left'⟩ :=
          (hn a).alike m₁ m₂ c₂ u v heads hc₂.symm left hu
        exact ⟨result', by simp only [noted'], left'⟩

theorem local_map {action : Action σ α} (f : α → β) (h : Local action) :
    Local (f <$> action) := by
  rw [← bind_pure_comp]
  exact local_bind h fun a => local_pure (f a)

/-- An action that on any two sources is one and the same local action. -/
theorem local_of_eq {action : Action σ α} (forward : Forward action)
    (h : ∀ s₁ s₂, ∃ b, Local b ∧ action s₁ = b s₁ ∧ action s₂ = b s₂) :
    Local action where
  forward := forward
  alike s₁ s₂ c u v heads h₁ h₂ hu := by
    obtain ⟨b, hb, heq₁, heq₂⟩ := h s₁ s₂
    rw [heq₁] at hu ⊢
    rw [heq₂]
    exact hb.alike s₁ s₂ c u v heads h₁ h₂ hu

end SpatialSql

namespace SpatialSql.Call

open SpatialSql.Action TokenSource

variable {σ E : Type} [TokenSource σ]

/-! ## Calls -/

theorem wantsAnother_of_peek {arity : Arity} {count : Nat} {s₁ s₂ : σ}
    {t : Token} (h₁ : peek s₁ = some t) (h₂ : peek s₂ = some t) :
    wantsAnother arity count s₁ = wantsAnother arity count s₂ := by
  rw [wantsAnother, wantsAnother, atKind, atKind, h₁, h₂]

theorem local_parseFurther (arity : Arity) {argument : Action σ E}
    (h : Local argument) (tokens : Nat) :
    ∀ count, Local (parseFurther arity argument tokens count) := by
  induction tokens with
  | zero =>
      intro count
      rw [parseFurther]
      refine local_state_bind (fun s₁ s₂ t h₁ h₂ => ?_) fun s => ?_
      · rw [wantsAnother_of_peek h₁ h₂]
      · split
        · exact local_bind (local_expect _) fun _ => local_pure _
        · exact local_pure _
  | succ tokens ih =>
      intro count
      rw [parseFurther]
      refine local_state_bind (fun s₁ s₂ t h₁ h₂ => ?_) fun s => ?_
      · rw [wantsAnother_of_peek h₁ h₂]
      · split
        · refine local_bind (local_expect _) fun _ => ?_
          refine local_bind h fun _ => ?_
          exact local_bind (ih _) fun _ => local_pure _
        · exact local_pure _

theorem local_furtherArguments (arity : Arity) {argument : Action σ E}
    (h : Local argument) (count : Nat) :
    Local (furtherArguments arity argument count) := by
  refine local_of_eq (forward_furtherArguments arity h.forward count)
    fun s₁ s₂ => ?_
  refine ⟨_, local_parseFurther arity h
    ((remaining s₁).length + (remaining s₂).length) count, ?_, ?_⟩
  · exact furtherArguments_apply h.forward (Nat.le_add_right _ _)
  · exact furtherArguments_apply h.forward (Nat.le_add_left _ _)

theorem local_parse (definition : Definition) {argument : Action σ E}
    (h : Local argument) : Local (parse definition argument) := by
  refine local_bind (local_expect _) fun _ => ?_
  refine local_bind (local_expect _) fun _ => ?_
  refine local_bind ?_ fun _ => ?_
  · rw [parseArguments_eq]
    refine local_bind h fun _ => ?_
    exact local_bind (local_furtherArguments _ h 1) fun _ => local_pure _
  · refine local_bind (local_expect _) fun _ => ?_
    exact local_bind (local_emit _) fun _ => local_pure _

end SpatialSql.Call

namespace SpatialSql.Registry

open SpatialSql.Action TokenSource

variable {σ E : Type} [TokenSource σ]

/-! ## Queries -/

theorem local_definitionAhead (registry : Registry) :
    Local (registry.definitionAhead : Action σ Definition) := by
  refine local_state_bind (fun s₁ s₂ t h₁ h₂ => ?_) fun s => ?_
  · simp only [h₁, h₂, found_of_peek h₁, found_of_peek h₂]
  · split
    · split
      · exact local_pure _
      · exact local_fail _
    · exact local_fail _

theorem local_parseCall (registry : Registry) {argument : Action σ E}
    (h : Local argument) : Local (registry.parseCall argument) :=
  local_bind registry.local_definitionAhead fun _ => Call.local_parse _ h

end SpatialSql.Registry

namespace SpatialSql.Query

open SpatialSql.Action TokenSource

variable {σ : Type} [TokenSource σ]

theorem local_expressionWith (registry : Registry) {nested : Action σ Expr}
    (h : Local nested) : Local (expressionWith registry nested) := by
  refine local_state_bind (fun s₁ s₂ t h₁ h₂ => ?_) fun s => ?_
  · rw [h₁, h₂]
  · split
    · exact local_fail _
    · split
      · split
        · exact local_map _ (registry.local_parseCall h)
        · exact local_bind local_skip fun _ => local_pure _
      · exact local_bind local_skip fun _ => local_pure _
      · exact local_fail _

theorem local_expression (registry : Registry) (tokens : Nat) :
    Local (expression registry tokens : Action σ Expr) := by
  induction tokens with
  | zero => exact local_fail _
  | succ tokens ih => exact local_expressionWith registry ih

theorem local_readExpression (registry : Registry) :
    Local (readExpression registry : Action σ Expr) := by
  refine local_of_eq (forward_readExpression registry) fun s₁ s₂ => ?_
  refine ⟨_, local_expression registry
    ((remaining s₁).length + (remaining s₂).length), ?_, ?_⟩
  · exact readExpression_apply registry (Nat.le_add_right _ _)
  · exact readExpression_apply registry (Nat.le_add_left _ _)

theorem local_query (registry : Registry) :
    Local (parseCall registry : Action σ (Call Expr)) := by
  rw [parseCall_eq]
  exact registry.local_parseCall (local_readExpression registry)

end SpatialSql.Query
