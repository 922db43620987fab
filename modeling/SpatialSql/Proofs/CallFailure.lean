import Mathlib.Logic.ExistsUnique
import SpatialSql.Proofs.CallGrammar

/-!
# Why reading a call fails

A call that cannot be read has one cause, and the error tells which. `GivesUp`
lists the causes by what stands in the source: no name, no opening parenthesis,
or trouble with the argument of some number, whose run fails, or which is
followed by neither a comma nor the closing parenthesis where one of them has
to stand. The list says nothing about the loop and its two tests.

It is exact in both directions. That every failure is on the list is read off
the loop. That what is on the list makes the loop fail goes through
`argumentsFrom`, the loop as it stands before the argument of a given number:
as long as there is room for it, the loop gets there, so it does then what it
does from there on. That no failure is on the list twice holds because the
arguments before a given one determine where that one begins, and because the
loop goes on only from an argument that was read and has a comma behind it.

The second direction is also what counts the runs of the host's reader. A
reader that counts its own runs meets the same causes, so it fails where the
plain one does, and its count is the number that the cause names.
-/

namespace SpatialSql.Action

variable {σ α : Type} {action : Action σ α} {s s' : σ}

/-- The action with a count of its runs beside the state. -/
def counted (action : Action σ α) : Action (σ × Nat) α := fun s =>
  ⟨(action s.1).result, ((action s.1).state, s.2 + 1), (action s.1).events⟩

theorem Yields.counted {a : α} (h : action.Yields s a s') (n : Nat) :
    action.counted.Yields (s, n) a (s', n + 1) :=
  ⟨h.1, congrArg (·, n + 1) h.2⟩

theorem Fails.counted {e : Error} (h : action.Fails s e s') (n : Nat) :
    action.counted.Fails (s, n) e (s', n + 1) :=
  ⟨h.1, congrArg (·, n + 1) h.2⟩

end SpatialSql.Action

namespace SpatialSql

open SpatialSql.Action TokenSource

variable {σ E : Type} [TokenSource σ]

/-! ## Errors about a token -/

/-- The error says that a token of this kind is wanted, and what stands at the
head of `s` in its place: another token, or the end of the input. -/
def TokenSource.Blames (kind : Token.Kind) (e : Error) (s : σ) : Prop :=
  ∃ f, e = .unexpectedToken kind f ∧
    match remaining s with
    | t :: _ => t.kind ≠ kind ∧ f = .token t ∧
        f.label = "'" ++ t.text ++ "'" ∧ f.position = t.position
    | [] => f = .nothing (stop s) ∧
        f.label = "end of input" ∧ f.position = stop s

theorem TokenSource.blames_iff {kind : Token.Kind} {e : Error} {s : σ} :
    Blames kind e s ↔
      atKind kind s = false ∧ e = .unexpectedToken kind (found s) := by
  unfold Blames atKind found peek
  cases remaining s with
  | nil =>
      constructor
      · rintro ⟨_, rfl, rfl, -⟩
        exact ⟨rfl, rfl⟩
      · rintro ⟨-, rfl⟩
        exact ⟨_, rfl, rfl, rfl, rfl⟩
  | cons t rest =>
      have other : t.kind ≠ kind ↔ Option.any (·.kind = kind) (some t) = false := by
        simp
      constructor
      · rintro ⟨_, rfl, hk, rfl, -⟩
        exact ⟨other.mp hk, rfl⟩
      · rintro ⟨hk, rfl⟩
        exact ⟨_, rfl, other.mpr hk, rfl, rfl, rfl⟩

theorem TokenSource.Blames.not_takes {kind : Token.Kind} {e : Error} {s s' : σ}
    (h : Blames kind e s) : ¬ Takes kind s s' := by
  intro takes
  have other := (blames_iff.mp h).1
  rw [(takes_iff.mp takes).1] at other
  cases other

theorem TokenSource.fails_expect_iff {kind : Token.Kind} {e : Error}
    {s s' : σ} :
    (expect kind).Fails s e s' ↔ Blames kind e s ∧ s' = s := by
  rw [fails_expect, blames_iff, and_assoc]

theorem TokenSource.Takes.unique {kind : Token.Kind} {s s₁ s₂ : σ}
    (h₁ : Takes kind s s₁) (h₂ : Takes kind s s₂) : s₁ = s₂ :=
  h₁.2.trans h₂.2.symm

namespace Call

/-! ## The causes -/

/-- What can be wrong at an argument. -/
inductive Trouble
  /-- The run that was to read it failed. -/
  | failed
  /-- It was read, and behind it stands no comma. -/
  | noComma
  /-- It was read, and behind it the call does not end. -/
  | notClosed

/-- Why a call could not be read. Arguments are numbered from one. -/
inductive Cause
  | name
  | opening
  | argument (k : Nat) (trouble : Trouble)

/-- How often the reader of arguments has run. -/
def Cause.runs : Cause → Nat
  | name | opening => 0
  | argument k _ => k

/-- From `s` on `n` arguments are read, each with a comma behind it, and `s'`
is where the next one begins. -/
inductive ArgumentAt (argument : Action σ E) (s : σ) : Nat → σ → Prop
  | first : ArgumentAt argument s 0 s
  | next {n : Nat} {s₁ s₂ s₃ : σ} {x : E} (before : ArgumentAt argument s n s₁)
      (read : argument.Yields s₁ x s₂) (comma : Takes .comma s₂ s₃) :
      ArgumentAt argument s (n + 1) s₃

/-- Trouble at the `k`-th argument, which begins at `s`: the error, and what is
left in the end. -/
def AtFault (arity : Arity) (argument : Action σ E) (k : Nat) (s : σ)
    (e : Error) (s' : σ) : Trouble → Prop
  | .failed => (∀ m, arity.max = some m → k ≤ m) ∧ argument.Fails s e s'
  | .noComma => (∃ x, argument.Yields s x s') ∧
      (k < arity.min ∨
        (∀ m, arity.max = some m → k < m) ∧ atKind .closeParenthesis s' = false) ∧
      Blames .comma e s'
  | .notClosed => (∃ x, argument.Yields s x s') ∧ arity.max = some k ∧
      Blames .closeParenthesis e s'

/-- There is this cause for a call at the head of `s` not to be read; the error
is `e`, and `s'` is left. -/
def GivesUp (definition : Definition) (argument : Action σ E) (s : σ)
    (e : Error) (s' : σ) : Cause → Prop
  | .name => Blames .identifier e s ∧ s' = s
  | .opening => Takes .identifier s s' ∧ Blames .openParenthesis e s'
  | .argument k trouble => ∃ n s₁ s₂, k = n + 1 ∧ Opens s s₁ ∧
      ArgumentAt argument s₁ n s₂ ∧
      AtFault definition.arity argument k s₂ e s' trouble

/-! ## Places of arguments -/

section

variable {arity : Arity} {argument : Action σ E} {s s' : σ}

theorem ArgumentAt.unique {n : Nat} {a b : σ} (ha : ArgumentAt argument s n a)
    (hb : ArgumentAt argument s n b) : a = b := by
  induction ha generalizing b with
  | first => cases hb; rfl
  | next _ read comma ih =>
      cases hb with
      | next before' read' comma' =>
          obtain rfl := ih before'
          obtain ⟨-, rfl⟩ := read.unique read'
          exact comma.unique comma'

/-- Where a later argument begins, an earlier one was read and has a comma
behind it. -/
theorem ArgumentAt.read_of_lt {m n : Nat} {a b : σ}
    (ha : ArgumentAt argument s m a) (hb : ArgumentAt argument s n b)
    (hmn : m < n) :
    ∃ x t t', argument.Yields a x t ∧ Takes .comma t t' := by
  induction hb with
  | first => omega
  | @next n s₁ s₂ s₃ x before read comma ih =>
      rcases Nat.lt_succ_iff_lt_or_eq.mp hmn with h | rfl
      · exact ih h
      · obtain rfl := ha.unique before
        exact ⟨x, s₂, s₃, read, comma⟩

theorem ArgumentAt.of_further {es : List E} {s₁ : σ}
    (h : Further argument s₁ es s') :
    ∀ {n : Nat} {a : σ} {x : E}, ArgumentAt argument s n a →
      argument.Yields a x s₁ →
      ∃ b y, ArgumentAt argument s (n + es.length) b ∧ argument.Yields b y s' := by
  induction h with
  | done => exact fun at_ read => ⟨_, _, at_, read⟩
  | @more _ s₂ _ _ e es comma read' _ ih =>
      intro n a x at_ read
      obtain ⟨b, y, hb, hy⟩ := ih (at_.next read comma) read'
      refine ⟨b, y, ?_, hy⟩
      rw [List.length_cons, Nat.add_comm es.length, ← Nat.add_assoc]
      exact hb

/-! ## Every failure has a cause -/

theorem atFault_of_parseArguments_fails (forward : Forward argument) {e : Error}
    (h : (parseArguments arity argument).Fails s e s') :
    ∃ n a trouble, ArgumentAt argument s n a ∧
      AtFault arity argument (n + 1) a e s' trouble := by
  rw [parseArguments_eq] at h
  rcases fails_bind.mp h with h | ⟨x, s₁, read, h⟩
  · refine ⟨0, s, .failed, .first, fun m hm => ?_, h⟩
    have := arity.min_pos
    have := arity.min_le_max m hm
    omega
  rcases fails_bind.mp h with h | ⟨_, _, _, h⟩
  · obtain ⟨es, s₂, rest, wanted, stop⟩ :=
      furtherArguments_fails forward (Nat.le_refl _) h
    obtain ⟨b, y, hb, hy⟩ := ArgumentAt.of_further rest .first read
    rw [Nat.zero_add] at hb
    rw [Nat.add_comm] at wanted
    rcases stop with ⟨hk, rfl, rfl⟩ | ⟨s₃, comma, failed⟩
    · exact ⟨_, b, .noComma, hb, ⟨y, hy⟩, wantsAnother_iff.mp wanted,
        blames_iff.mpr ⟨hk, rfl⟩⟩
    · exact ⟨_, s₃, .failed, hb.next hy comma, lt_of_wantsAnother wanted, failed⟩
  · exact absurd h fails_pure

/-- Arguments after which something else than the closing parenthesis stands
are as many as there may be. -/
theorem atFault_of_not_closed (forward : Forward argument) {es : List E}
    {e : Error} (h : (parseArguments arity argument).Yields s es s')
    (blames : Blames .closeParenthesis e s') :
    ∃ n a, ArgumentAt argument s n a ∧
      AtFault arity argument (n + 1) a e s' .notClosed := by
  obtain ⟨x, s₁, others, read, loop, rfl⟩ := yields_parseArguments.mp h
  obtain ⟨rest, enough, bound⟩ := furtherArguments_sound forward loop
  obtain ⟨b, y, hb, hy⟩ := ArgumentAt.of_further rest .first read
  rw [Nat.zero_add] at hb
  rw [Nat.add_comm] at enough
  refine ⟨_, b, hb, ⟨y, hy⟩, ?_, blames⟩
  have full : ¬ ∀ m, arity.max = some m → others.length + 1 < m := by
    intro room
    rw [wantsAnother_iff.mpr (Or.inr ⟨room, (blames_iff.mp blames).1⟩)] at enough
    cases enough
  cases hm : arity.max with
  | none => exact absurd (fun m h => by rw [hm] at h; cases h) full
  | some m =>
      have least := arity.min_le_max m hm
      have positive := arity.min_pos
      have := bound m hm (by omega)
      have : ¬ others.length + 1 < m := fun h => full fun m' hm' => by
        rw [hm] at hm'
        exact Option.some.inj hm' ▸ h
      congr 1
      omega

/-! ## Every cause makes reading fail -/

/-- The loop before the argument with `n` others before it. -/
def argumentsFrom (arity : Arity) (argument : Action σ E) (n : Nat) :
    Action σ (List E) := do
  let next ← argument
  let others ← furtherArguments arity argument (n + 1)
  pure (next :: others)

/-- Behind an argument that has a comma behind it, with room for another one,
the loop goes on with that one. -/
theorem furtherArguments_at_comma (forward : Forward argument) {n : Nat}
    (room : ∀ m, arity.max = some m → n < m) (comma : Takes .comma s s') :
    furtherArguments arity argument n s = argumentsFrom arity argument n s' := by
  rw [furtherArguments_eq arity forward, state_bind,
    wantsAnother_of_comma room comma, if_pos rfl, bind_apply,
    expect_of_takes comma]
  rfl

/-- As long as there is room for it, the loop gets to each argument, and what
it does from there it does from the start. -/
theorem argumentsFrom_at (forward : Forward argument) {n : Nat} {a : σ}
    (at_ : ArgumentAt argument s n a) (room : ∀ m, arity.max = some m → n < m) :
    (∀ e s', (argumentsFrom arity argument n).Fails a e s' →
      (parseArguments arity argument).Fails s e s') ∧
    (∀ es s', (argumentsFrom arity argument n).Yields a es s' →
      ∃ es', (parseArguments arity argument).Yields s es' s') := by
  induction at_ with
  | first => exact ⟨fun _ _ h => h, fun es _ h => ⟨es, h⟩⟩
  | @next n s₁ s₂ s₃ x before read comma ih =>
      obtain ⟨fails, yields⟩ := ih fun m hm => Nat.lt_of_succ_lt (room m hm)
      have loop := furtherArguments_at_comma forward room comma
      refine ⟨fun e s' h => fails e s' ?_, fun es s' h => yields (x :: es) s' ?_⟩
      · refine fails_bind.mpr (Or.inr ⟨x, s₂, read, ?_⟩)
        refine fails_bind.mpr (Or.inl ?_)
        rw [Fails, loop]
        exact h
      · refine yields_bind.mpr ⟨x, s₂, read, ?_⟩
        refine yields_bind.mpr ⟨es, s', ?_, yields_pure.mpr ⟨rfl, rfl⟩⟩
        rw [Yields, loop]
        exact h

theorem AtFault.fits {k : Nat} {e : Error} {trouble : Trouble}
    (h : AtFault arity argument k s e s' trouble) :
    ∀ m, arity.max = some m → k ≤ m := by
  intro m hm
  cases trouble with
  | failed => exact h.1 m hm
  | noComma =>
      obtain ⟨-, few | ⟨room, -⟩, -⟩ := h
      · have := arity.min_le_max m hm
        omega
      · exact Nat.le_of_lt (room m hm)
  | notClosed =>
      obtain ⟨-, full, -⟩ := h
      rw [full] at hm
      exact Nat.le_of_eq (Option.some.inj hm)

/-- The loop ends where there are as many arguments as there may be. -/
theorem furtherArguments_full (forward : Forward argument) {m : Nat}
    (full : arity.max = some m) :
    (furtherArguments arity argument m).Yields s [] s := by
  have enough : wantsAnother arity m s = false := by
    refine Bool.eq_false_iff.mpr fun wanted => ?_
    exact Nat.lt_irrefl m (lt_of_wantsAnother wanted m full)
  rw [furtherArguments_eq arity forward, yields_state_bind, enough]
  exact yields_pure.mpr ⟨rfl, rfl⟩

end

variable {definition : Definition} {argument : Action σ E} {s s' : σ} {e : Error}

theorem fails_of_atFault (forward : Forward argument) {s₁ a : σ} {n : Nat}
    {trouble : Trouble} (opens : Opens s s₁) (at_ : ArgumentAt argument s₁ n a)
    (fault : AtFault definition.arity argument (n + 1) a e s' trouble) :
    (parse definition argument).Fails s e s' := by
  obtain ⟨fails, yields⟩ := argumentsFrom_at forward at_ fault.fits
  obtain ⟨_, name, opening⟩ := opens
  refine fails_parse.mpr (Or.inr ⟨_, name, Or.inr ⟨_, opening, ?_⟩⟩)
  cases trouble with
  | failed => exact Or.inl (fails e s' (fails_bind.mpr (Or.inl fault.2)))
  | noComma =>
      obtain ⟨⟨x, read⟩, wanted, blames⟩ := fault
      refine Or.inl (fails e s' (fails_bind.mpr (Or.inr ⟨x, s', read, ?_⟩)))
      refine fails_bind.mpr (Or.inl ?_)
      rw [furtherArguments_eq definition.arity forward, fails_state_bind,
        wantsAnother_iff.mpr wanted, if_pos rfl]
      exact fails_bind.mpr (Or.inl (fails_expect_iff.mpr ⟨blames, rfl⟩))
  | notClosed =>
      obtain ⟨⟨x, read⟩, full, blames⟩ := fault
      obtain ⟨es, arguments⟩ := yields [x] s' <| yields_bind.mpr ⟨x, s', read,
        yields_bind.mpr ⟨[], s', furtherArguments_full forward full,
          yields_pure.mpr ⟨rfl, rfl⟩⟩⟩
      obtain ⟨hk, he⟩ := blames_iff.mp blames
      exact Or.inr ⟨es, s', arguments, hk, he, rfl⟩

theorem fails_of_givesUp (forward : Forward argument) {cause : Cause}
    (h : GivesUp definition argument s e s' cause) :
    (parse definition argument).Fails s e s' := by
  cases cause with
  | name =>
      obtain ⟨blames, rfl⟩ := h
      obtain ⟨hk, he⟩ := blames_iff.mp blames
      exact fails_parse.mpr (Or.inl ⟨hk, he, rfl⟩)
  | opening =>
      obtain ⟨name, blames⟩ := h
      obtain ⟨hk, he⟩ := blames_iff.mp blames
      exact fails_parse.mpr (Or.inr ⟨s', name, Or.inl ⟨hk, he, rfl⟩⟩)
  | argument k trouble =>
      obtain ⟨n, s₁, a, rfl, opens, at_, fault⟩ := h
      exact fails_of_atFault forward opens at_ fault

theorem givesUp_of_fails (forward : Forward argument)
    (h : (parse definition argument).Fails s e s') :
    ∃ cause, GivesUp definition argument s e s' cause := by
  rcases fails_parse.mp h with ⟨hk, he, rfl⟩ | ⟨s₁, name, h⟩
  · exact ⟨.name, blames_iff.mpr ⟨hk, he⟩, rfl⟩
  rcases h with ⟨hk, he, rfl⟩ | ⟨s₂, opening, h⟩
  · exact ⟨.opening, name, blames_iff.mpr ⟨hk, he⟩⟩
  have opens : Opens s s₂ := ⟨s₁, name, opening⟩
  rcases h with h | ⟨es, s₃, arguments, hk, he, rfl⟩
  · obtain ⟨n, a, trouble, at_, fault⟩ :=
      atFault_of_parseArguments_fails forward h
    exact ⟨.argument (n + 1) trouble, n, s₂, a, rfl, opens, at_, fault⟩
  · obtain ⟨n, a, at_, fault⟩ :=
      atFault_of_not_closed forward arguments (blames_iff.mpr ⟨hk, he⟩)
    exact ⟨.argument (n + 1) .notClosed, n, s₂, a, rfl, opens, at_, fault⟩

/-! ## No failure has two causes -/

theorem Opens.unique {s₁ s₂ : σ} (h₁ : Opens s s₁) (h₂ : Opens s s₂) :
    s₁ = s₂ := by
  obtain ⟨_, name₁, opening₁⟩ := h₁
  obtain ⟨_, name₂, opening₂⟩ := h₂
  obtain rfl := name₁.unique name₂
  exact opening₁.unique opening₂

/-- Trouble at an argument leaves no room for trouble at a later one. -/
theorem AtFault.not_later {arity : Arity} {m n : Nat} {a b : σ} {e' : Error}
    {s'' : σ} {trouble trouble' : Trouble}
    (fault : AtFault arity argument (m + 1) a e s' trouble)
    (fault' : AtFault arity argument (n + 1) b e' s'' trouble')
    (ha : ArgumentAt argument s m a) (hb : ArgumentAt argument s n b) :
    ¬ m < n := by
  intro hmn
  obtain ⟨x, t, t', read, comma⟩ := ha.read_of_lt hb hmn
  cases trouble with
  | failed =>
      have failed := fault.2.1
      rw [read.1] at failed
      cases failed
  | noComma =>
      obtain ⟨⟨y, read'⟩, -, blames⟩ := fault
      obtain ⟨-, rfl⟩ := read.unique read'
      exact blames.not_takes comma
  | notClosed =>
      have := fault'.fits _ fault.2.1
      omega

/-- At one argument there is one trouble. -/
theorem AtFault.unique {arity : Arity} {k : Nat} {a : σ}
    {trouble trouble' : Trouble}
    (fault : AtFault arity argument k a e s' trouble)
    (fault' : AtFault arity argument k a e s' trouble') : trouble = trouble' := by
  have apart (h : Blames .comma e s') : ¬ Blames .closeParenthesis e s' := by
    obtain ⟨_, rfl, -⟩ := h
    rintro ⟨_, he, -⟩
    cases he
  cases trouble with
  | failed =>
      cases trouble' with
      | failed => rfl
      | noComma | notClosed =>
          obtain ⟨⟨x, read⟩, -⟩ := fault'
          exact absurd fault.2 read.not_fails
  | noComma =>
      obtain ⟨⟨x, read⟩, -, blames⟩ := fault
      cases trouble' with
      | failed => exact absurd fault'.2 read.not_fails
      | noComma => rfl
      | notClosed => exact absurd fault'.2.2 (apart blames)
  | notClosed =>
      obtain ⟨⟨x, read⟩, -, blames⟩ := fault
      cases trouble' with
      | failed => exact absurd fault'.2 read.not_fails
      | noComma => exact absurd blames (apart fault'.2.2)
      | notClosed => rfl

theorem GivesUp.unique {cause cause' : Cause}
    (h : GivesUp definition argument s e s' cause)
    (h' : GivesUp definition argument s e s' cause') : cause = cause' := by
  have unnamed {s₁ : σ} (blames : Blames .identifier e s) : ¬ Opens s s₁ :=
    fun ⟨_, name, _⟩ => blames.not_takes name
  have unopened {s₁ : σ} (h : Takes .identifier s s' ∧
      Blames .openParenthesis e s') : ¬ Opens s s₁ := by
    rintro ⟨_, name, opening⟩
    obtain rfl := name.unique h.1
    exact h.2.not_takes opening
  cases cause with
  | name =>
      cases cause' with
      | name => rfl
      | opening => exact absurd h'.1 h.1.not_takes
      | argument k trouble =>
          obtain ⟨_, _, _, -, opens, -⟩ := h'
          exact absurd opens (unnamed h.1)
  | opening =>
      cases cause' with
      | name => exact absurd h.1 h'.1.not_takes
      | opening => rfl
      | argument k trouble =>
          obtain ⟨_, _, _, -, opens, -⟩ := h'
          exact absurd opens (unopened h)
  | argument k trouble =>
      obtain ⟨m, s₁, a, rfl, opens, ha, fault⟩ := h
      cases cause' with
      | name => exact absurd opens (unnamed h'.1)
      | opening => exact absurd opens (unopened h')
      | argument k' trouble' =>
          obtain ⟨n, s₂, b, rfl, opens', hb, fault'⟩ := h'
          obtain rfl := opens.unique opens'
          obtain rfl : m = n := Nat.le_antisymm
            (Nat.le_of_not_lt (fault'.not_later fault hb ha))
            (Nat.le_of_not_lt (fault.not_later fault' ha hb))
          obtain rfl := ha.unique hb
          rw [fault.unique fault']

/-! ## Counting the runs -/

theorem forward_counted (forward : Forward argument) :
    Forward argument.counted :=
  fun s => forward s.1

theorem takes_counted {kind : Token.Kind} (h : Takes kind s s') (n : Nat) :
    Takes kind (s, n) (s', n) :=
  ⟨h.1, congrArg (·, n) h.2⟩

theorem Opens.counted {n : Nat} (h : Opens s s') : Opens (s, n) (s', n) := by
  obtain ⟨s₁, name, opening⟩ := h
  exact ⟨(s₁, n), takes_counted name n, takes_counted opening n⟩

theorem ArgumentAt.counted {n : Nat} (h : ArgumentAt argument s n s') :
    ArgumentAt argument.counted (s, 0) n (s', n) := by
  induction h with
  | first => exact .first
  | next _ read comma ih =>
      exact .next ih (read.counted _) (takes_counted comma _)

theorem Further.counted {es : List E} (h : Further argument s es s') :
    ∀ n, Further argument.counted (s, n) es (s', n + es.length) := by
  induction h with
  | done => exact fun n => .done
  | @more _ _ _ _ _ es comma read _ ih =>
      intro n
      have rest := ih (n + 1)
      rw [Nat.add_assoc, Nat.add_comm 1] at rest
      exact .more (takes_counted comma n) (read.counted n) rest

theorem GivesUp.counted {cause : Cause}
    (h : GivesUp definition argument s e s' cause) :
    GivesUp definition argument.counted (s, 0) e (s', cause.runs) cause := by
  cases cause with
  | name =>
      obtain ⟨blames, rfl⟩ := h
      exact ⟨blames, rfl⟩
  | opening => exact ⟨takes_counted h.1 0, h.2⟩
  | argument k trouble =>
      obtain ⟨n, s₁, a, rfl, opens, at_, fault⟩ := h
      refine ⟨n, (s₁, 0), (a, n), rfl, opens.counted, at_.counted, ?_⟩
      cases trouble with
      | failed => exact ⟨fault.1, fault.2.counted n⟩
      | noComma | notClosed =>
          obtain ⟨⟨x, read⟩, rest⟩ := fault
          exact ⟨⟨x, read.counted n⟩, rest⟩

/-- A call that is read has taken one run for each of its arguments. -/
theorem yields_parse_counted (forward : Forward argument) {call : Call E}
    (h : (parse definition argument).Yields s call s') :
    (parse definition argument.counted).Yields (s, 0) call
      (s', call.arguments.length) := by
  obtain ⟨hd, s₁, s₂, opens, arguments, close, admits⟩ :=
    (parse_yields_iff_spells forward).mp h
  refine (parse_yields_iff_spells (forward_counted forward)).mpr
    ⟨hd, (s₁, 0), (s₂, call.arguments.length), opens.counted, ?_,
      takes_counted close _, admits⟩
  generalize call.arguments = es at arguments
  obtain ⟨read, rest⟩ := arguments
  have rest := rest.counted (0 + 1)
  rw [Nat.zero_add, Nat.add_comm] at rest
  exact .mk (read.counted 0) rest

/-- However reading a call ends, the reader of arguments has run no more often
than the call may have arguments. -/
theorem runs_le (forward : Forward argument) {m : Nat}
    (full : definition.arity.max = some m) :
    (parse definition argument.counted (s, 0)).state.2 ≤ m := by
  rcases yields_or_fails (parse definition argument) s with ⟨call, hy⟩ | ⟨e, hf⟩
  · rw [(yields_parse_counted forward hy).2]
    obtain ⟨-, s₁, s₂, -, -, -, admits⟩ := (parse_yields_iff_spells forward).mp hy
    exact admits.2 m full
  · obtain ⟨cause, h⟩ := givesUp_of_fails forward hf
    rw [(fails_of_givesUp (forward_counted forward) h.counted).2]
    cases cause with
    | name | opening => exact Nat.zero_le m
    | argument k trouble =>
        obtain ⟨n, s₁, a, rfl, -, -, fault⟩ := h
        exact fault.fits m full

/-- If a call cannot be read there is exactly one cause, whatever the arity,
the source and the reader of arguments are. Every cause that there is makes
reading fail with the error that belongs to it, and it tells how often the
reader of arguments has run. In no run does that happen more often than the
call may have arguments. -/
theorem failure_has_one_cause (forward : Forward argument)
    (definition : Definition) (s : σ) :
    (∀ e s', (parse definition argument).Fails s e s' →
      ∃! cause, GivesUp definition argument s e s' cause) ∧
    (∀ e s' cause, GivesUp definition argument s e s' cause →
      (parse definition argument).Fails s e s' ∧
      (parse definition argument.counted).Fails (s, 0) e (s', cause.runs)) ∧
    (∀ m, definition.arity.max = some m →
      (parse definition argument.counted (s, 0)).state.2 ≤ m) := by
  refine ⟨fun e s' h => ?_, fun e s' cause h => ⟨?_, ?_⟩, fun m => runs_le forward⟩
  · obtain ⟨cause, h⟩ := givesUp_of_fails forward h
    exact ⟨cause, h, fun other h' => h'.unique h⟩
  · exact fails_of_givesUp forward h
  · exact fails_of_givesUp (forward_counted forward) h.counted

/-- The tokens of `st_distance(a, b, c, d)`, an argument too many. -/
def crowdedTokens : List Token :=
  [⟨.identifier, "st_distance", 0⟩, ⟨.openParenthesis, "(", 11⟩,
    ⟨.identifier, "a", 12⟩, ⟨.comma, ",", 13⟩, ⟨.identifier, "b", 15⟩,
    ⟨.comma, ",", 16⟩, ⟨.identifier, "c", 18⟩, ⟨.comma, ",", 19⟩,
    ⟨.identifier, "d", 21⟩, ⟨.closeParenthesis, ")", 22⟩]

/-- Before the `n`-th of them. -/
def crowdedAt (n : Nat) : Token.Cursor :=
  ⟨(crowdedTokens.take n).reverse, crowdedTokens.drop n⟩

theorem crowded_gives_up_at_the_third :
    Forward (Verbatim.readSingle : Action Token.Cursor String) ∧
      (∀ cause, GivesUp distance Verbatim.readSingle (crowdedAt 0)
          (.unexpectedToken .closeParenthesis (.token ⟨.comma, ",", 19⟩))
          (crowdedAt 7) cause ↔ cause = .argument 3 .notClosed) ∧
      (parse distance Verbatim.readSingle.counted (crowdedAt 0, 0)).state =
        (crowdedAt 7, 3) := by
  have here : GivesUp distance Verbatim.readSingle (crowdedAt 0)
      (.unexpectedToken .closeParenthesis (.token ⟨.comma, ",", 19⟩))
      (crowdedAt 7) (.argument 3 .notClosed) := by
    have behindA : ArgumentAt Verbatim.readSingle (crowdedAt 2) 1 (crowdedAt 4) :=
      .next (x := "a") .first ⟨rfl, rfl⟩ ⟨⟨_, rfl, rfl⟩, rfl⟩
    have behindB : ArgumentAt Verbatim.readSingle (crowdedAt 2) 2 (crowdedAt 6) :=
      .next (x := "b") behindA ⟨rfl, rfl⟩ ⟨⟨_, rfl, rfl⟩, rfl⟩
    refine ⟨2, crowdedAt 2, crowdedAt 6, rfl, ?_, behindB, ?_⟩
    · exact ⟨crowdedAt 1, ⟨⟨_, rfl, rfl⟩, rfl⟩, ⟨⟨_, rfl, rfl⟩, rfl⟩⟩
    · exact ⟨⟨"c", rfl, rfl⟩, rfl, blames_iff.mpr ⟨rfl, rfl⟩⟩
  obtain ⟨one, fails, -⟩ := failure_has_one_cause Verbatim.forward_readSingle
    distance (crowdedAt 0)
  obtain ⟨failed, runs⟩ := fails _ _ _ here
  obtain ⟨cause, -, only⟩ := one _ _ failed
  refine ⟨Verbatim.forward_readSingle, fun other => ⟨fun h => ?_, ?_⟩, runs.2⟩
  · rw [only other h, only _ here]
  · rintro rfl
    exact here

end Call

end SpatialSql
