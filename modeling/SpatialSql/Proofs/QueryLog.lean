import SpatialSql.Proofs.ClosingParentheses
import SpatialSql.Proofs.CorrectPrefix

/-!
# What reading a query notes

The note on a call is made by the reader of calls, which knows nothing of
nesting, and calls are nested by the reader of expressions, which notes
nothing. `NotesClosed` is the invariant that puts the two together: an action
notes the calls that are closed by the tokens it reads. It is kept by
sequencing, and it holds of an action that fails as well, so the calls that
were closed before a failure are accounted for, and the ones that were left
open are not.

Only the step that reads a closing parenthesis makes a note, so a call is cut
in two there, `openCall` and `closeCall`. That the parenthesis closes the call
that was read is known from the grammar.
-/

namespace SpatialSql

open SpatialSql.Action TokenSource

/-- What is noted when the call has been read. -/
def Call.note {E : Type} (call : Call E) : Event :=
  .parsedCall call.name call.arguments.length

namespace Query

variable {registry : Registry} {σ α β : Type} [TokenSource σ]

/-- Run in `s`, the action notes the calls that are closed by the tokens that it
reads, and nothing else. -/
def NotesClosed (registry : Registry) (action : Action σ α) (s : σ) : Prop :=
  ∃ c calls, remaining s = c ++ remaining (action s).state ∧
    ClosedCalls registry c calls ∧ (action s).events = calls.map Call.note

section

variable {s : σ}

theorem notesClosed_of_still {action : Action σ α}
    (still : (action s).state = s) (silent : (action s).events = []) :
    NotesClosed registry action s :=
  ⟨[], [], by rw [still]; rfl, closedCalls_nil, silent⟩

theorem notesClosed_pure (a : α) :
    NotesClosed registry (pure a : Action σ α) s :=
  notesClosed_of_still rfl rfl

theorem notesClosed_fail (e : Error) :
    NotesClosed registry (fail e : Action σ α) s :=
  notesClosed_of_still rfl rfl

theorem NotesClosed.bind {action : Action σ α} {next : α → Action σ β}
    (h : NotesClosed registry action s)
    (hn : ∀ a s', action.Yields s a s' → NotesClosed registry (next a) s') :
    NotesClosed registry (action >>= next) s := by
  obtain ⟨c, calls, split, closed, noted⟩ := h
  rw [NotesClosed, bind_apply]
  rcases ha : action s with ⟨e | a, s', log⟩
  · rw [ha] at split noted
    exact ⟨c, calls, split, closed, noted⟩
  · rw [ha] at split noted
    have hy : action.Yields s a s' := by rw [Yields, ha]; exact ⟨rfl, rfl⟩
    obtain ⟨d, calls', split', closed', noted'⟩ := hn a s' hy
    refine ⟨c ++ d, calls ++ calls', ?_, closed.append closed', ?_⟩
    · rw [split, List.append_assoc, ← split']
    · rw [List.map_append, ← noted, ← noted']

theorem notesClosed_state_bind {next : σ → Action σ α}
    (h : NotesClosed registry (next s) s) :
    NotesClosed registry (state >>= next) s := h

theorem NotesClosed.map {action : Action σ α} (f : α → β)
    (h : NotesClosed registry action s) :
    NotesClosed registry (f <$> action) s := by
  rw [← bind_pure_comp]
  exact h.bind fun a _ _ => notesClosed_pure (f a)

theorem notesClosed_advance {t : Token} {a : α} (next : peek s = some t)
    (h : t.kind ≠ .closeParenthesis) :
    NotesClosed registry (fun s => ⟨.ok a, advance s, []⟩) s := by
  obtain ⟨rest, hr⟩ := peek_eq_some.mp next
  refine ⟨[t], [], ?_, closedCalls_singleton h, rfl⟩
  rw [hr, ← (takes_of_cons hr).2]
  rfl

theorem notesClosed_expect {kind : Token.Kind} (h : kind ≠ .closeParenthesis) :
    NotesClosed registry (expect kind : Action σ Unit) s := by
  cases hk : atKind kind s with
  | false =>
      have other := expect_of_other hk
      exact notesClosed_of_still (by rw [other]) (by rw [other])
  | true =>
      have takes : Takes kind s (advance s) := takes_iff.mpr ⟨hk, rfl⟩
      rw [NotesClosed, expect_of_takes takes]
      obtain ⟨⟨t, rfl, ht⟩, -⟩ := takes
      exact ⟨[t], [], ht, closedCalls_singleton h, rfl⟩

end

/-! ## The readers -/

variable {nested : Action σ Expr}

theorem notesClosed_parseFurther (forward : Forward nested) {n : Nat}
    (h : ∀ s, (remaining s).length ≤ n → NotesClosed registry nested s)
    (arity : Arity) (tokens : Nat) :
    ∀ count s, (remaining s).length ≤ n →
      NotesClosed registry (Call.parseFurther arity nested tokens count) s := by
  induction tokens with
  | zero =>
      intro count s _
      rw [Call.parseFurther]
      refine notesClosed_state_bind ?_
      split
      · exact (notesClosed_expect (by decide)).bind
          fun _ _ _ => notesClosed_pure _
      · exact notesClosed_pure _
  | succ tokens ih =>
      intro count s hs
      rw [Call.parseFurther]
      refine notesClosed_state_bind ?_
      split
      · refine (notesClosed_expect (by decide)).bind fun _ s₁ comma => ?_
        have hl₁ := (yields_expect.mp comma).length
        refine (h s₁ (by omega)).bind fun e s₂ read => ?_
        have hl₂ := (forward.yields read).length_le
        exact (ih _ s₂ (by omega)).bind fun _ _ _ => notesClosed_pure _
      · exact notesClosed_pure _

theorem notesClosed_parseArguments (forward : Forward nested) {s : σ}
    (h : ∀ s', (remaining s').length ≤ (remaining s).length →
      NotesClosed registry nested s') (arity : Arity) :
    NotesClosed registry (Call.parseArguments arity nested) s := by
  rw [Call.parseArguments_eq]
  refine (h s (Nat.le_refl _)).bind fun e s₁ read => ?_
  have hl := (forward.yields read).length_le
  have others : NotesClosed registry
      (Call.furtherArguments arity nested 1) s₁ :=
    notesClosed_parseFurther forward h arity _ 1 s₁ hl
  exact others.bind fun _ _ _ => notesClosed_pure _

theorem notesClosed_definitionAhead (s : σ) :
    NotesClosed registry registry.definitionAhead s := by
  refine notesClosed_state_bind ?_
  split
  · split
    · exact notesClosed_pure _
    · exact notesClosed_fail _
  · exact notesClosed_fail _

/-- Reads a call up to its closing parenthesis. -/
def openCall (registry : Registry) (nested : Action σ Expr) :
    Action σ (Call Expr) := do
  let definition ← registry.definitionAhead
  expect .identifier
  expect .openParenthesis
  let arguments ← Call.parseArguments definition.arity nested
  pure ⟨definition, arguments⟩

/-- Reads the closing parenthesis of a call. -/
def closeCall (call : Call Expr) : Action σ (Call Expr) := do
  expect .closeParenthesis
  Action.emit call.note
  pure call

theorem parseCall_eq_openCall_bind (registry : Registry)
    (nested : Action σ Expr) :
    registry.parseCall nested = openCall registry nested >>= closeCall := by
  simp only [openCall, bind_assoc, pure_bind]
  rfl

theorem notesClosed_openCall (forward : Forward nested) {s : σ}
    (h : ∀ s', (remaining s').length < (remaining s).length →
      NotesClosed registry nested s') :
    NotesClosed registry (openCall registry nested) s := by
  refine (notesClosed_definitionAhead s).bind fun d s₁ ahead => ?_
  obtain ⟨-, rfl⟩ := registry.yields_definitionAhead.mp ahead
  refine (notesClosed_expect (by decide)).bind fun _ s₂ name => ?_
  have hl₁ := (yields_expect.mp name).length
  refine (notesClosed_expect (by decide)).bind fun _ s₃ opening => ?_
  have hl₂ := (yields_expect.mp opening).length
  refine NotesClosed.bind ?_ fun _ _ _ => notesClosed_pure _
  exact notesClosed_parseArguments forward (fun s' hs' => h s' (by omega)) _

theorem closeCall_of_takes {call : Call Expr} {s s' : σ}
    (h : Takes .closeParenthesis s s') :
    closeCall call s = ⟨.ok call, s', [call.note]⟩ := by
  rw [closeCall, bind_apply, expect_of_takes h]
  rfl

theorem closeCall_of_other {call : Call Expr} {s : σ}
    (h : atKind .closeParenthesis s = false) :
    closeCall call s =
      ⟨.error (.unexpectedToken .closeParenthesis (found s)), s, []⟩ := by
  rw [closeCall, bind_apply, expect_of_other h]

theorem notesClosed_parseCall (forward : Forward nested)
    (reads : ∀ s, Reads nested (Derives registry) s) {s : σ}
    (h : ∀ s', (remaining s').length < (remaining s).length →
      NotesClosed registry nested s') :
    NotesClosed registry (registry.parseCall nested) s := by
  obtain ⟨c, calls, split, closed, noted⟩ := notesClosed_openCall forward h
  have whole := reads_parseCall registry forward (s := s) fun s' _ => reads s'
  rw [parseCall_eq_openCall_bind] at whole ⊢
  rw [NotesClosed, bind_apply]
  rcases ho : openCall registry nested s with ⟨e | call, s₁, log⟩
  · rw [ho] at split noted
    exact ⟨c, calls, split, closed, noted⟩
  rw [ho] at split noted
  cases hk : atKind .closeParenthesis s₁ with
  | false =>
      simp only [closeCall_of_other hk, List.append_nil]
      exact ⟨c, calls, split, closed, noted⟩
  | true =>
      have takes : Takes .closeParenthesis s₁ (advance s₁) :=
        takes_iff.mpr ⟨hk, rfl⟩
      simp only [closeCall_of_takes takes]
      have opened : (openCall registry nested).Yields s call s₁ := by
        rw [Yields, ho]
        exact ⟨rfl, rfl⟩
      have ended : (closeCall call).Yields s₁ call (advance s₁) := by
        rw [Yields, closeCall_of_takes takes]
        exact ⟨rfl, rfl⟩
      obtain ⟨ts, derives, hs⟩ := (whole call _).mp
        ⟨_, yields_bind.mpr ⟨call, s₁, opened, ended⟩, rfl⟩
      obtain ⟨⟨closing, isClosing, hr⟩, -⟩ := takes
      have tokens : remaining s = (c ++ [closing]) ++ remaining (advance s₁) := by
        rw [split, hr, List.append_assoc]
        rfl
      obtain rfl : ts = c ++ [closing] :=
        List.append_cancel_right (hs.symm.trans tokens)
      refine ⟨_, _, tokens, closed.closed isClosing derives, ?_⟩
      rw [List.map_append, ← noted]
      rfl

theorem notesClosed_readExpression :
    ∀ {n : Nat} {s : σ}, (remaining s).length < n →
      NotesClosed registry (readExpression registry) s := by
  intro n
  induction n with
  | zero => intro s hs; omega
  | succ n ih =>
      intro s hs
      rw [readExpression_eq, NotesClosed]
      cases hp : peek s with
      | none =>
          rw [expressionWith_at_end registry (peek_eq_none.mp hp)]
          exact notesClosed_fail (α := Expr) .missingExpression
      | some t =>
          rw [expressionWith_at registry _ hp]
          split
          · next hk =>
              split
              · exact (notesClosed_parseCall (forward_readExpression registry)
                  (reads_readExpression registry)
                  fun s' hs' => ih (by omega)).map _
              · exact notesClosed_advance hp (by rw [hk]; decide)
          · next hk => exact notesClosed_advance hp (by rw [hk]; decide)
          · exact notesClosed_fail (α := Expr) (.notAnExpression t.text)

theorem notesClosed_query (registry : Registry) (s : σ) :
    NotesClosed registry (parseCall registry) s := by
  rw [parseCall_eq]
  exact notesClosed_parseCall (forward_readExpression registry)
    (reads_readExpression registry)
    fun s' _ => notesClosed_readExpression (Nat.lt_succ_self _)

/-- What reading a call notes can be told from the call. -/
theorem events_of_yields {s s' : σ} {call : Call Expr}
    (h : (parseCall registry).Yields s call s') :
    (parseCall registry s).events =
      (Expr.ofCall call).calls.map Call.note := by
  obtain ⟨c, calls, split, closed, noted⟩ := notesClosed_query registry s
  obtain ⟨ts, derives, hs⟩ := (reads_query registry s call _).mp ⟨s', h, rfl⟩
  rw [h.2] at split
  obtain rfl := List.append_cancel_right (split.symm.trans hs)
  rw [noted, closed.unique (closedCalls_of_derives derives)]

/-- Looking whether anything is behind a query takes nothing and notes nothing. -/
theorem parseAll_apply (registry : Registry) (s : σ) :
    (parseAll registry s).state = (parseCall registry s).state ∧
      (parseAll registry s).events = (parseCall registry s).events := by
  rw [parseAll, bind_apply]
  rcases parseCall registry s with ⟨e | call, s', log⟩
  · exact ⟨rfl, rfl⟩
  · simp only [state_bind]
    cases peek s' with
    | none => exact ⟨rfl, List.append_nil log⟩
    | some t => exact ⟨rfl, List.append_nil log⟩

/-! ## The log and the tokens -/

/-- The notes are of the calls that are closed by the tokens that were read, one
for each closing parenthesis and in their order, whether the query is accepted
or not. When it is, they are of the calls within it, inner ones first. -/
theorem log_is_of_closed_calls (registry : Registry) (input : String) :
    (∃ c calls, lex input = c ++ (parse registry input).state.remaining ∧
      List.Forall₂ (Closes registry) (closedBeginnings c) calls ∧
      (parse registry input).events = calls.map Call.note) ∧
    (∀ p call call', Closes registry p call → Closes registry p call' →
      call = call') ∧
    ∀ call, (parse registry input).result = .ok call →
      (parse registry input).events =
        (Expr.ofCall call).calls.map Call.note := by
  obtain ⟨state, events⟩ :=
    parseAll_apply registry (Token.Cursor.ofList (lex input))
  refine ⟨?_, fun _ _ _ => Closes.unique, fun call read => ?_⟩
  · obtain ⟨c, calls, split, closed, noted⟩ :=
      notesClosed_query registry (Token.Cursor.ofList (lex input))
    rw [← state] at split
    exact ⟨c, calls, split, closed, events.trans noted⟩
  · obtain ⟨call', s₁, hy, h⟩ := yields_bind.mp ⟨read, rfl⟩
    rw [yields_state_bind] at h
    split at h
    · obtain ⟨rfl, -⟩ := yields_pure.mp h
      exact events.trans (events_of_yields hy)
    · exact absurd h yields_fail

/-- One call is closed here, and two are left open. -/
example :
    (parse distanceOnly
        "st_distance(st_distance(a, b), st_distance(c, ").events =
      [.parsedCall "ST_Distance" 2] := by
  decide +kernel

/-- The tokens behind a call that was read have no say in it. -/
theorem call_is_settled_when_closed {τ : Type} [TokenSource τ]
    (registry : Registry) {s : σ} {s' : τ} {pre rest rest' : List Token}
    (hs : remaining s = pre ++ rest) (hs' : remaining s' = pre ++ rest')
    {call : Call Expr} (read : (parseCall registry s).result = .ok call)
    (left : remaining (parseCall registry s).state = rest) :
    (parseCall registry s').result = .ok call ∧
      remaining (parseCall registry s').state = rest' ∧
      (parseCall registry s').events = (parseCall registry s).events := by
  have here : (parseCall registry).Yields s call (parseCall registry s).state :=
    ⟨read, rfl⟩
  obtain ⟨ts, derives, split⟩ :=
    (reads_query registry s call rest).mp ⟨_, here, left⟩
  obtain rfl : pre = ts := List.append_cancel_right (hs.symm.trans split)
  obtain ⟨s₁, there, left'⟩ :=
    (reads_query registry s' call rest').mpr ⟨pre, derives, hs'⟩
  obtain ⟨read', rfl⟩ := there
  refine ⟨read', left', ?_⟩
  rw [events_of_yields here, events_of_yields ⟨read', rfl⟩]

/-- A name that would start another call behind it, and a stray comma. -/
theorem distance_is_settled_when_closed :
    (parseCall distanceOnly (Token.Cursor.ofList
        (Call.distanceTokens ++ [⟨.identifier, "st_distance", 18⟩]))).result =
      .ok distanceOfPath ∧
    (parseCall distanceOnly (Token.Cursor.ofList
        (Call.distanceTokens ++ [⟨.comma, ",", 18⟩]))).result =
      .ok distanceOfPath := by
  obtain ⟨read, left⟩ := reads_distance [⟨.identifier, "st_distance", 18⟩]
  have settled := @call_is_settled_when_closed Token.Cursor _ Token.Cursor _
    distanceOnly _ (Token.Cursor.ofList
      (Call.distanceTokens ++ [⟨.comma, ",", 18⟩])) Call.distanceTokens _ _
    rfl rfl _ read left
  exact ⟨read, settled.1⟩

end Query

end SpatialSql
