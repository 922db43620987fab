import SpatialSql.Proofs.CallFailure
import SpatialSql.Proofs.ClosingParentheses
import SpatialSql.Proofs.CorrectPrefix
import SpatialSql.Proofs.Lockstep

/-!
# Reading comes to an end

A loop that goes on while something is wanted, and readers that call each other,
might go on for ever, and that a function of this library is total says nothing
against it: its count could have cut them short. So the loop and the recursion
are unrolled here, as often as one likes, with `beyond` in the place of what
comes after. If the outcome is the same whatever `beyond` is, nothing of it was
ever reached, and the unrolled reader is the whole of what happens.

A round of the loop costs a comma, although the reader of arguments need not
take anything, so there are no more rounds than tokens, and one more to see
that no token is left. A nested call stands behind an opening parenthesis of the
call around it, so calls are nested no deeper than parentheses are opened.

The runs of a reader of arguments are counted by a reader that counts its own.
It reads in lockstep with the plain one, so the count is of what the plain one
does.
-/

namespace SpatialSql

open SpatialSql.Action TokenSource

variable {σ E : Type} [TokenSource σ]

namespace Call

/-- The loop over further arguments with so many of its rounds written out. All
that is left to do after them is left to `beyond`. -/
def unrolled (arity : Arity) (argument : Action σ E)
    (beyond : Nat → Action σ (List E)) :
    (rounds count : Nat) → Action σ (List E)
  | 0, count => beyond count
  | rounds + 1, count => do
    if wantsAnother arity count (← Action.state) then
      expect .comma
      let next ← argument
      let others ← unrolled arity argument beyond rounds (count + 1)
      pure (next :: others)
    else pure []

/-- Reads a call, with `further` for the arguments behind the first. -/
def parseWith (definition : Definition) (argument : Action σ E)
    (further : Action σ (List E)) : Action σ (Call E) := do
  expect .identifier
  expect .openParenthesis
  let first ← argument
  let others ← further
  expect .closeParenthesis
  Action.emit (.parsedCall definition.name (first :: others).length)
  pure ⟨definition, first :: others⟩

/-- The loop over further arguments has ended after so many rounds when a call is
read from `s`. -/
def EndsWithin (rounds : Nat) (definition : Definition) (argument : Action σ E)
    (s : σ) : Prop :=
  ∀ beyond, parseWith definition argument
      (unrolled definition.arity argument beyond rounds 1) s =
    parse definition argument s

section

variable {argument : Action σ E}

/-! ## The loop -/

theorem parse_eq_parseWith (definition : Definition) (argument : Action σ E) :
    parse definition argument =
      parseWith definition argument
        (furtherArguments definition.arity argument 1) := by
  rw [parse, parseArguments_eq]
  simp only [bind_assoc, pure_bind, parseWith]

/-- One round more than there are tokens, and the loop has ended. -/
theorem unrolled_eq (arity : Arity) (forward : Forward argument)
    (beyond : Nat → Action σ (List E)) :
    ∀ {rounds count : Nat} {s : σ}, (remaining s).length < rounds →
      unrolled arity argument beyond rounds count s =
        furtherArguments arity argument count s := by
  intro rounds
  induction rounds with
  | zero =>
      intro count s hs
      exact absurd hs (Nat.not_lt_zero _)
  | succ rounds ih =>
      intro count s hs
      rw [unrolled, furtherArguments_eq arity forward, state_bind, state_bind]
      split
      · refine bind_congr_at rfl fun _ s₁ h₁ => ?_
        have hl₁ := (yields_expect.mp h₁).length
        refine bind_congr_at rfl fun x s₂ h₂ => ?_
        have hl₂ := (forward.yields h₂).length_le
        exact bind_congr_at (ih (by omega)) fun _ _ _ => rfl
      · rfl

theorem endsWithin_length (definition : Definition) (forward : Forward argument)
    (s : σ) : EndsWithin (remaining s).length definition argument s := by
  intro beyond
  rw [parse_eq_parseWith]
  refine bind_congr_at rfl fun _ s₁ h₁ => ?_
  have hl₁ := (yields_expect.mp h₁).length
  refine bind_congr_at rfl fun _ s₂ h₂ => ?_
  have hl₂ := (yields_expect.mp h₂).length
  refine bind_congr_at rfl fun first s₃ h₃ => ?_
  have hl₃ := (forward.yields h₃).length_le
  refine bind_congr_at ?_ fun _ _ _ => rfl
  exact unrolled_eq definition.arity forward beyond (by omega)

/-! ## The runs of the reader of arguments -/

/-- Counting the runs goes beside reading and has no part in it. -/
theorem lockstep_counted (definition : Definition) (argument : Action σ E) :
    Lockstep (fun s (p : σ × Nat) => p.1 = s) Eq (parse definition argument)
      (parse definition argument.counted) := by
  have inStep : InStep (fun s (p : σ × Nat) => p.1 = s) Eq :=
    { kinds := fun h => by rw [← h]; rfl
      advances := fun h => by rw [← h]; rfl
      misses := fun _ h => by rw [← h]; rfl }
  refine inStep.lockstep_parse (fun s p h => ?_) definition
  obtain rfl := h
  rw [counted]
  cases argument p.1 with
  | mk result s' events =>
      cases result with
      | ok x => exact .yields rfl
      | error e => exact .fails rfl rfl

theorem ArgumentAt.length_le (forward : Forward argument) {n : Nat} {s s' : σ}
    (h : ArgumentAt argument s n s') :
    (remaining s').length + n ≤ (remaining s).length := by
  induction h with
  | first => exact Nat.le_refl _
  | next _ read comma ih =>
      have hl₁ := (forward.yields read).length_le
      have hl₂ := comma.length
      omega

theorem Further.length_le (forward : Forward argument) {s s' : σ} {es : List E}
    (h : Further argument s es s') :
    (remaining s').length + es.length ≤ (remaining s).length := by
  induction h with
  | done => exact Nat.le_refl _
  | more comma read _ ih =>
      have hl₁ := comma.length
      have hl₂ := (forward.yields read).length_le
      rw [List.length_cons]
      omega

/-- Every run but the first stands behind a comma of its own. -/
theorem runs_le_tokens (definition : Definition) (forward : Forward argument)
    (s : σ) :
    (parse definition argument.counted (s, 0)).state.2 ≤
      1 + (remaining s).length := by
  rcases yields_or_fails (parse definition argument) s with ⟨call, hy⟩ | ⟨e, hf⟩
  · rw [(yields_parse_counted forward hy).2]
    obtain ⟨-, s₁, s₂, opens, arguments, -⟩ :=
      (parse_yields_iff_spells forward).mp hy
    have hl := opens.length
    generalize call.arguments = es at arguments
    obtain ⟨read, rest⟩ := arguments
    have hl₁ := (forward.yields read).length_le
    have hl₂ := rest.length_le forward
    rw [List.length_cons]
    omega
  · obtain ⟨cause, h⟩ := givesUp_of_fails forward hf
    rw [(fails_of_givesUp (forward_counted forward) h.counted).2]
    cases cause with
    | name | opening => exact Nat.zero_le _
    | argument k trouble =>
        obtain ⟨n, s₁, a, rfl, opens, at_, -⟩ := h
        have hl := opens.length
        have hl₁ := at_.length_le forward
        show n + 1 ≤ _
        omega

theorem parse_counted (definition : Definition) (forward : Forward argument)
    (s : σ) :
    ∃ runs ≤ 1 + (remaining s).length,
      parse definition argument.counted (s, 0) =
        ⟨(parse definition argument s).result,
          ((parse definition argument s).state, runs),
          (parse definition argument s).events⟩ := by
  have bound := runs_le_tokens definition forward s
  have together := lockstep_counted definition argument s (s, 0) rfl
  generalize parse definition argument.counted (s, 0) = out at bound together
  generalize parse definition argument s = plain at together
  cases together with
  | @yields x s' p log same =>
      obtain rfl := same
      exact ⟨p.2, bound, rfl⟩
  | @fails e e' s' p log errors same =>
      obtain rfl := same
      obtain rfl := errors
      exact ⟨p.2, bound, rfl⟩

end

end Call

namespace Query

/-! ## Nested calls -/

/-- The reader of expressions, nested so many times. All that would be nested
deeper is left to `beyond`. -/
def nestedTo (registry : Registry) (beyond : Action σ Expr) :
    (depth : Nat) → Action σ Expr
  | 0 => beyond
  | depth + 1 => expressionWith registry (nestedTo registry beyond depth)

/-- What is within a call has the call's opening parenthesis before it. -/
theorem openings_of_within {s s' : σ} (h : Call.Within s s') :
    openings (remaining s') < openings (remaining s) := by
  obtain ⟨s₁, s₂, name, opening, behind⟩ := h
  obtain ⟨⟨t, isOpening, ht⟩, -⟩ := opening
  have later : openings (remaining s₁) = openings (remaining s₂) + 1 := by
    rw [ht]
    exact List.countP_cons_of_pos (decide_eq_true isOpening)
  have outer : openings (remaining s₁) ≤ openings (remaining s) :=
    name.suffix.sublist.countP_le
  have inner : openings (remaining s') ≤ openings (remaining s₂) :=
    behind.sublist.countP_le
  omega

variable (registry : Registry)

theorem nestedTo_eq (beyond : Action σ Expr) :
    ∀ {depth : Nat} {s : σ}, openings (remaining s) < depth →
      nestedTo registry beyond depth s = readExpression registry s := by
  intro depth
  induction depth with
  | zero =>
      intro s hs
      exact absurd hs (Nat.not_lt_zero _)
  | succ depth ih =>
      intro s hs
      rw [nestedTo, readExpression_eq]
      refine (expressionWith_congr registry (forward_readExpression registry)
        fun s' within => ?_).symm
      have deeper := openings_of_within within
      exact (ih (by omega)).symm

theorem parseCall_nestedTo (beyond : Action σ Expr) (s : σ) :
    registry.parseCall (nestedTo registry beyond (openings (remaining s))) s =
      parseCall registry s := by
  rw [parseCall_eq]
  refine (registry.parseCall_congr (forward_readExpression registry)
    fun s' within => ?_).symm
  exact (nestedTo_eq registry beyond (openings_of_within within)).symm

/-! ## What is taken -/

theorem forward_parseCall :
    Forward (parseCall registry : Action σ (Call Expr)) := by
  rw [parseCall_eq]
  refine forward_iff_keeps.mpr fun ts => ?_
  exact registry.keeps_parseCall (stable_suffix ts)
    (forward_iff_keeps.mp (forward_readExpression registry) ts)

variable {registry}

theorem length_pos_of_derives {ts : List Token} {e : Expr}
    (h : Derives registry ts e) : 0 < ts.length := by
  cases h with
  | path | text | parameter | number => exact Nat.one_pos
  | call => exact Nat.succ_pos _

/-- A name, two parentheses and an argument. -/
theorem four_le_of_derives_ofCall {ts : List Token} {call : Call Expr}
    (h : Derives registry ts (.ofCall call)) : 4 ≤ ts.length := by
  obtain ⟨-, tokens⟩ := derives_ofCall_iff.mp h
  generalize call.arguments = es at tokens
  obtain ⟨-, -, arguments, -, -⟩ := tokens
  cases arguments with
  | one head =>
      have := length_pos_of_derives head
      simp only [List.length_cons, List.length_append, List.length_nil]
      omega
  | more head kind others =>
      simp only [List.length_cons, List.length_append, List.length_nil]
      omega

/-- What a reader yields has taken the tokens of its derivation. -/
theorem length_of_reads {α : Type} {reader : Action σ α}
    {grammar : List Token → α → Prop} {s s' : σ} {a : α} {n : Nat}
    (reads : Reads reader grammar s) (h : reader.Yields s a s')
    (least : ∀ ts, grammar ts a → n ≤ ts.length) :
    (remaining s').length + n ≤ (remaining s).length := by
  obtain ⟨ts, derives, split⟩ := (reads a (remaining s')).mp ⟨s', h, rfl⟩
  have := least ts derives
  rw [split, List.length_append]
  omega

end Query

/-- Reading a call comes to an end: its loop takes no more rounds than there are
tokens, even if its reader of arguments takes none of them, and that reader runs
at most once more than there are tokens. Reading a query comes to an end, too.
It leaves an end of its tokens, whether it succeeds or fails; what it yields has
taken a token, or four of them if it is a call; and calls are nested at most
once more than parentheses are opened. -/
theorem reading_comes_to_an_end :
    (∀ (definition : Definition) (argument : Action σ E) (s : σ),
      Forward argument →
        Call.EndsWithin (remaining s).length definition argument s ∧
        ∃ runs ≤ 1 + (remaining s).length,
          Call.parse definition argument.counted (s, 0) =
            ⟨(Call.parse definition argument s).result,
              ((Call.parse definition argument s).state, runs),
              (Call.parse definition argument s).events⟩) ∧
    ∀ (registry : Registry) (s : σ),
      remaining (Query.readExpression registry s).state <:+ remaining s ∧
      remaining (Query.parseCall registry s).state <:+ remaining s ∧
      (∀ e s', (Query.readExpression registry).Yields s e s' →
        (remaining s').length + 1 ≤ (remaining s).length) ∧
      (∀ call s', (Query.parseCall registry).Yields s call s' →
        (remaining s').length + 4 ≤ (remaining s).length) ∧
      ∀ beyond,
        Query.nestedTo registry beyond (Query.openings (remaining s) + 1) s =
            Query.readExpression registry s ∧
          registry.parseCall (Query.nestedTo registry beyond
              (Query.openings (remaining s))) s =
            Query.parseCall registry s := by
  refine ⟨fun definition argument s forward => ?_, fun registry s => ?_⟩
  · exact ⟨Call.endsWithin_length definition forward s,
      Call.parse_counted definition forward s⟩
  · refine ⟨Query.forward_readExpression registry s,
      Query.forward_parseCall registry s, fun e s' h => ?_, fun call s' h => ?_,
      fun beyond => ⟨?_, Query.parseCall_nestedTo registry beyond s⟩⟩
    · exact Query.length_of_reads (Query.reads_readExpression registry s) h
        fun _ => Query.length_pos_of_derives
    · exact Query.length_of_reads (Query.reads_query registry s) h
        fun _ => Query.four_le_of_derives_ofCall
    · exact Query.nestedTo_eq registry beyond (Nat.lt_succ_self _)

/-- A function of two arguments or any number more. -/
def Call.collect : Definition where
  name := "ST_Collect"
  arity := ⟨2, none, Nat.two_pos, nofun⟩
  platforms := .unrestricted
  name_not_blank := by decide

/-- The tokens of `c(,,)`. -/
def Call.collectTokens : List Token :=
  [⟨.identifier, "c", 0⟩, ⟨.openParenthesis, "(", 1⟩, ⟨.comma, ",", 2⟩,
    ⟨.comma, ",", 3⟩, ⟨.closeParenthesis, ")", 4⟩]

/-- The reader of arguments takes nothing here. -/
theorem collecting_nothing_comes_to_an_end :
    Forward (Verbatim.read .nothing : Action Token.Cursor String) ∧
      Call.EndsWithin 5 Call.collect (Verbatim.read .nothing)
        (Token.Cursor.ofList Call.collectTokens) ∧
      (∃ runs ≤ 6,
        Call.parse Call.collect (Verbatim.read .nothing).counted
            (Token.Cursor.ofList Call.collectTokens, 0) =
          ⟨.ok ⟨Call.collect, ["<>", "<>", "<>"]⟩,
            (⟨Call.collectTokens.reverse, []⟩, runs),
            [.parsedCall "ST_Collect" 3]⟩) ∧
      ∃ s s', (Query.readExpression Query.distanceOnly).Yields
          (Token.Cursor.ofList Call.distanceTokens)
          (.ofCall Query.distanceOfPath) s ∧
        (remaining s).length + 1 ≤ 6 ∧
        (Query.parseCall Query.distanceOnly).Yields
          (Token.Cursor.ofList Call.distanceTokens)
          Query.distanceOfPath s' ∧
        (remaining s').length + 4 ≤ 6 := by
  have forward : Forward (Verbatim.read .nothing : Action Token.Cursor String) :=
    forward_pure "<>"
  obtain ⟨calls, queries⟩ := @reading_comes_to_an_end Token.Cursor String _
  obtain ⟨ended, counted⟩ := calls Call.collect (Verbatim.read .nothing)
    (Token.Cursor.ofList Call.collectTokens) forward
  obtain ⟨-, -, expressions, nested, -⟩ := queries Query.distanceOnly
    (Token.Cursor.ofList Call.distanceTokens)
  obtain ⟨s, read, -⟩ := (Query.reads_readExpression Query.distanceOnly
    (Token.Cursor.ofList Call.distanceTokens) (.ofCall Query.distanceOfPath)
      []).mpr ⟨_, Query.derives_distanceOfPath, rfl⟩
  obtain ⟨s', readCall, -⟩ := (Query.reads_query Query.distanceOnly
    (Token.Cursor.ofList Call.distanceTokens) Query.distanceOfPath
      []).mpr ⟨_, Query.derives_distanceOfPath, rfl⟩
  exact ⟨forward, ended, counted, s, s', read, expressions _ _ read, readCall,
    nested _ _ readCall⟩

end SpatialSql
