import SpatialSql.Token.Cursor

/-!
# How a run of an action ends

A run either yields a value or fails, and either way it stops in some state.
`Yields` and `Fails` say so and leave the log open, which is all that the
grammars need: sequencing becomes composition of relations, and a `do` block
unfolds into the states between its steps.

An action `Keeps` a property of the state that holds after every run if it
held before. Sequences keep what their actions keep.

The last part is about sources. A run is `Forward` when what it leaves is an
end of what it was given, whether it yields or fails. Every reader of this
library is forward, and a host's reader is required to be: it is the whole
contract under which the loops below halt and mean what they say.
-/

namespace SpatialSql.Action

variable {σ α β : Type}

/-- Run in `s`, the action ends in `s'` with the value `a`. -/
def Yields (action : Action σ α) (s : σ) (a : α) (s' : σ) : Prop :=
  (action s).result = .ok a ∧ (action s).state = s'

/-- Run in `s`, the action fails, and it stops in `s'`. -/
def Fails (action : Action σ α) (s : σ) (e : Error) (s' : σ) : Prop :=
  (action s).result = .error e ∧ (action s).state = s'

theorem yields_or_fails (action : Action σ α) (s : σ) :
    (∃ a, action.Yields s a (action s).state) ∨
      ∃ e, action.Fails s e (action s).state := by
  cases h : (action s).result with
  | ok a => exact Or.inl ⟨a, h, rfl⟩
  | error e => exact Or.inr ⟨e, h, rfl⟩

theorem Yields.unique {action : Action σ α} {s : σ} {a a' : α} {s₁ s₂ : σ}
    (h₁ : action.Yields s a s₁) (h₂ : action.Yields s a' s₂) :
    a = a' ∧ s₁ = s₂ := by
  obtain ⟨hr₁, hs₁⟩ := h₁
  obtain ⟨hr₂, hs₂⟩ := h₂
  rw [hr₁] at hr₂
  exact ⟨Except.ok.inj hr₂, hs₁.symm.trans hs₂⟩

theorem Yields.not_fails {action : Action σ α} {a : α} {s s₁ s₂ : σ}
    {e : Error} (h : action.Yields s a s₁) : ¬ action.Fails s e s₂ := by
  rintro ⟨failed, -⟩
  rw [h.1] at failed
  cases failed

/-! ## Sequencing -/

theorem yields_pure {a b : α} {s s' : σ} :
    (pure a : Action σ α).Yields s b s' ↔ b = a ∧ s' = s := by
  constructor
  · rintro ⟨hr, hs⟩
    exact ⟨(Except.ok.inj hr).symm, hs.symm⟩
  · rintro ⟨rfl, rfl⟩
    exact ⟨rfl, rfl⟩

theorem fails_pure {a : α} {s s' : σ} {e : Error} :
    ¬ (pure a : Action σ α).Fails s e s' := by
  rintro ⟨hr, -⟩
  cases hr

theorem yields_fail {e : Error} {a : α} {s s' : σ} :
    ¬ (fail e : Action σ α).Yields s a s' := by
  rintro ⟨hr, -⟩
  cases hr

theorem yields_bind {action : Action σ α} {next : α → Action σ β} {s s' : σ}
    {b : β} :
    (action >>= next).Yields s b s' ↔
      ∃ a s₁, action.Yields s a s₁ ∧ (next a).Yields s₁ b s' := by
  simp only [Yields, bind_apply]
  rcases action s with ⟨e | a, s₁, events⟩
  · constructor
    · rintro ⟨hr, -⟩
      cases hr
    · rintro ⟨a, s₁, ⟨hr, -⟩, -⟩
      cases hr
  · constructor
    · exact fun h => ⟨a, s₁, ⟨rfl, rfl⟩, h⟩
    · rintro ⟨a', s₁', ⟨hr, hs⟩, h⟩
      cases hr
      cases hs
      exact h

theorem fails_bind {action : Action σ α} {next : α → Action σ β} {s s' : σ}
    {e : Error} :
    (action >>= next).Fails s e s' ↔
      action.Fails s e s' ∨
        ∃ a s₁, action.Yields s a s₁ ∧ (next a).Fails s₁ e s' := by
  simp only [Fails, Yields, bind_apply]
  rcases action s with ⟨e₁ | a, s₁, events⟩
  · constructor
    · rintro ⟨hr, hs⟩
      cases hr
      exact Or.inl ⟨rfl, hs⟩
    · rintro (⟨hr, hs⟩ | ⟨a, s₁, ⟨hr, -⟩, -⟩)
      · cases hr
        exact ⟨rfl, hs⟩
      · cases hr
  · constructor
    · exact fun h => Or.inr ⟨a, s₁, ⟨rfl, rfl⟩, h⟩
    · rintro (⟨hr, -⟩ | ⟨a', s₁', ⟨hr, hs⟩, h⟩)
      · cases hr
      · cases hr
        cases hs
        exact h

/-- The value of a sequence, or the error that ends it. -/
theorem result_bind (action : Action σ α) (next : α → Action σ β) (s : σ) :
    ((action >>= next) s).result =
      (action s).result >>= fun a => (next a (action s).state).result := by
  rw [bind_apply]
  rcases action s with ⟨_ | a, s', events⟩
  · rfl
  · rfl

/-- Where a sequence stops: its second half goes on from where the first ended,
unless that failed. -/
theorem finalState_bind (action : Action σ α) (next : α → Action σ β) (s : σ) :
    ((action >>= next) s).state =
      match (action s).result with
      | .ok a => (next a (action s).state).state
      | .error _ => (action s).state := by
  rw [bind_apply]
  rcases action s with ⟨_ | a, s', events⟩
  · rfl
  · rfl

theorem yields_map {action : Action σ α} {f : α → β} {s s' : σ} {b : β} :
    (f <$> action).Yields s b s' ↔ ∃ a, action.Yields s a s' ∧ b = f a := by
  rw [← bind_pure_comp, yields_bind]
  constructor
  · rintro ⟨a, s₁, ha, hp⟩
    obtain ⟨rfl, rfl⟩ := yields_pure.mp hp
    exact ⟨a, ha, rfl⟩
  · rintro ⟨a, ha, rfl⟩
    exact ⟨a, s', ha, yields_pure.mpr ⟨rfl, rfl⟩⟩

theorem fails_map {action : Action σ α} {f : α → β} {s s' : σ} {e : Error} :
    (f <$> action).Fails s e s' ↔ action.Fails s e s' := by
  rw [← bind_pure_comp, fails_bind]
  constructor
  · rintro (h | ⟨a, s₁, -, hp⟩)
    · exact h
    · exact absurd hp fails_pure
  · exact Or.inl

theorem yields_emit {event : Event} {s s' : σ} {u : Unit} :
    (emit event).Yields s u s' ↔ s' = s := by
  constructor
  · rintro ⟨-, hs⟩
    exact hs.symm
  · rintro rfl
    exact ⟨rfl, rfl⟩

theorem fails_emit {event : Event} {s s' : σ} {e : Error} :
    ¬ (emit event).Fails s e s' := by
  rintro ⟨hr, -⟩
  cases hr

/-- Asking for the state and going on is going on from the state. -/
theorem state_bind (next : σ → Action σ α) (s : σ) :
    (state >>= next) s = next s s := rfl

theorem yields_state_bind {next : σ → Action σ α} {s s' : σ} {a : α} :
    (state >>= next).Yields s a s' ↔ (next s).Yields s a s' := Iff.rfl

theorem fails_state_bind {next : σ → Action σ α} {s s' : σ} {e : Error} :
    (state >>= next).Fails s e s' ↔ (next s).Fails s e s' := Iff.rfl

/-! ## What an action keeps -/

/-- What holds of the state before the action holds after it, whether it
yields or fails. -/
def Keeps (inv : σ → Prop) (action : Action σ α) : Prop :=
  ∀ s, inv s → inv (action s).state

section

variable {inv : σ → Prop}

theorem keeps_pure (a : α) : Keeps inv (pure a : Action σ α) :=
  fun _ h => h

theorem keeps_fail (e : Error) : Keeps inv (fail e : Action σ α) :=
  fun _ h => h

theorem keeps_emit (event : Event) : Keeps inv (emit event : Action σ Unit) :=
  fun _ h => h

theorem keeps_bind {action : Action σ α} {next : α → Action σ β}
    (h : Keeps inv action) (hn : ∀ a, Keeps inv (next a)) :
    Keeps inv (action >>= next) := by
  intro s hs
  rcases yields_or_fails (action >>= next) s with ⟨b, hb⟩ | ⟨e, he⟩
  · obtain ⟨a, s₁, ha, hb⟩ := yields_bind.mp hb
    exact hb.2 ▸ hn a s₁ (ha.2 ▸ h s hs)
  · rcases fails_bind.mp he with he | ⟨a, s₁, ha, he⟩
    · exact he.2 ▸ h s hs
    · exact he.2 ▸ hn a s₁ (ha.2 ▸ h s hs)

theorem keeps_map {action : Action σ α} (f : α → β) (h : Keeps inv action) :
    Keeps inv (f <$> action) := by
  rw [← bind_pure_comp]
  exact keeps_bind h fun a => keeps_pure (f a)

theorem keeps_state_bind {next : σ → Action σ α} (h : ∀ s, Keeps inv (next s)) :
    Keeps inv (state >>= next) :=
  fun s => h s s

end

end SpatialSql.Action

namespace SpatialSql.TokenSource

open SpatialSql.Action

variable {σ α β : Type} [TokenSource σ]

/-! ## Taking a token -/

/-- A token of this kind stands at the head of `s`, and `s'` is the source
behind it. -/
def Takes (kind : Token.Kind) (s s' : σ) : Prop :=
  (∃ t, t.kind = kind ∧ remaining s = t :: remaining s') ∧ s' = advance s

theorem takes_iff {kind : Token.Kind} {s s' : σ} :
    Takes kind s s' ↔ atKind kind s = true ∧ s' = advance s := by
  unfold Takes atKind peek
  constructor
  · rintro ⟨⟨t, rfl, ht⟩, rfl⟩
    rw [ht]
    simp
  · rintro ⟨hk, rfl⟩
    refine ⟨?_, rfl⟩
    rw [remaining_advance]
    cases hr : remaining s with
    | nil => rw [hr] at hk; cases hk
    | cons t rest => rw [hr] at hk; exact ⟨t, by simpa using hk, rfl⟩

theorem Takes.not_atKind {kind kind' : Token.Kind} {s s' : σ}
    (h : Takes kind s s') (hne : kind ≠ kind') : atKind kind' s = false := by
  obtain ⟨⟨t, rfl, ht⟩, -⟩ := h
  unfold atKind peek
  rw [ht]
  simpa using hne

theorem peek_eq_some {s : σ} {t : Token} :
    peek s = some t ↔ ∃ rest, remaining s = t :: rest := by
  unfold peek
  cases remaining s with
  | nil => simp
  | cons u rest => simp

theorem peek_eq_none {s : σ} : peek s = none ↔ remaining s = [] := by
  unfold peek
  exact List.head?_eq_none_iff

theorem expect_of_takes {kind : Token.Kind} {s s' : σ} (h : Takes kind s s') :
    expect kind s = ⟨.ok (), s', []⟩ := by
  obtain ⟨hk, rfl⟩ := takes_iff.mp h
  rw [expect, if_pos hk]

theorem expect_of_other {kind : Token.Kind} {s : σ}
    (h : atKind kind s = false) :
    expect kind s = ⟨.error (.unexpectedToken kind (found s)), s, []⟩ := by
  rw [expect, h]
  rfl

theorem yields_expect {kind : Token.Kind} {s s' : σ} {u : Unit} :
    (expect kind).Yields s u s' ↔ Takes kind s s' := by
  rw [takes_iff, Yields, expect]
  split
  · next hk =>
      rw [hk]
      exact ⟨fun h => ⟨rfl, h.2.symm⟩, fun h => ⟨rfl, h.2.symm⟩⟩
  · next hk =>
      constructor
      · rintro ⟨hr, -⟩
        cases hr
      · rintro ⟨hk', -⟩
        exact absurd hk' hk

theorem fails_expect {kind : Token.Kind} {s s' : σ} {e : Error} :
    (expect kind).Fails s e s' ↔
      atKind kind s = false ∧ e = .unexpectedToken kind (found s) ∧ s' = s := by
  rw [Fails, expect]
  split
  · next hk =>
      rw [hk]
      constructor
      · rintro ⟨hr, -⟩
        cases hr
      · rintro ⟨hk', -⟩
        cases hk'
  · next hk =>
      constructor
      · rintro ⟨hr, rfl⟩
        exact ⟨by simpa using hk, (Except.error.inj hr).symm, rfl⟩
      · rintro ⟨-, rfl, rfl⟩
        exact ⟨rfl, rfl⟩

/-! ## What readers keep -/

/-- Moving past a token is all that the readers of this library do to a
source, so they keep what that keeps. -/
def Stable (inv : σ → Prop) : Prop :=
  ∀ s, inv s → inv (advance s)

theorem stable_toList (ts : List Token) :
    Stable fun cursor : Token.Cursor => cursor.toList = ts :=
  fun cursor h => cursor.toList_advance.trans h

theorem keeps_skip {inv : σ → Prop} (stable : Stable inv) :
    Keeps inv (skip : Action σ Unit) :=
  stable

theorem keeps_expect {inv : σ → Prop} (stable : Stable inv)
    (kind : Token.Kind) : Keeps inv (expect kind : Action σ Unit) := by
  intro s h
  rw [expect]
  split
  · exact stable s h
  · exact h

/-! ## Forward readers -/

/-- The action never puts tokens back: wherever it stops, and whether it yields
or fails, the tokens that are left are an end of those that were there. -/
def Forward (action : Action σ α) : Prop :=
  ∀ s, remaining (action s).state <:+ remaining s

theorem stable_suffix (ts : List Token) :
    Stable fun s : σ => remaining s <:+ ts := by
  intro s h
  rw [remaining_advance]
  exact (List.tail_suffix _).trans h

theorem forward_iff_keeps {action : Action σ α} :
    Forward action ↔ ∀ ts, Keeps (fun s => remaining s <:+ ts) action :=
  ⟨fun h _ s hs => (h s).trans hs, fun h s => h _ s (List.suffix_refl _)⟩

theorem Forward.yields {action : Action σ α} (h : Forward action) {s s' : σ}
    {a : α} (hy : action.Yields s a s') : remaining s' <:+ remaining s := by
  rw [← hy.2]
  exact h s

theorem Takes.length {kind : Token.Kind} {s s' : σ} (h : Takes kind s s') :
    (remaining s).length = (remaining s').length + 1 := by
  obtain ⟨⟨t, -, ht⟩, -⟩ := h
  rw [ht, List.length_cons]

theorem Takes.suffix {kind : Token.Kind} {s s' : σ} (h : Takes kind s s') :
    remaining s' <:+ remaining s := by
  obtain ⟨⟨t, -, ht⟩, -⟩ := h
  rw [ht]
  exact List.suffix_cons _ _

theorem forward_pure (a : α) : Forward (pure a : Action σ α) :=
  forward_iff_keeps.mpr fun _ => keeps_pure a

theorem forward_fail (e : Error) : Forward (fail e : Action σ α) :=
  forward_iff_keeps.mpr fun _ => keeps_fail e

theorem forward_skip : Forward (skip : Action σ Unit) :=
  forward_iff_keeps.mpr fun ts => keeps_skip (stable_suffix ts)

theorem forward_bind {action : Action σ α} {next : α → Action σ β}
    (h : Forward action) (hn : ∀ a, Forward (next a)) :
    Forward (action >>= next) :=
  forward_iff_keeps.mpr fun ts => keeps_bind (forward_iff_keeps.mp h ts)
    fun a => forward_iff_keeps.mp (hn a) ts

theorem forward_state_bind {next : σ → Action σ α} (h : ∀ s, Forward (next s)) :
    Forward (state >>= next) :=
  fun s => h s s

end SpatialSql.TokenSource
