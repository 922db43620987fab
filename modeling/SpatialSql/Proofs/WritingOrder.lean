import SpatialSql.Proofs.CallGrammar
import SpatialSql.Proofs.PlatformScreening

/-!
# Arguments are written in turn

The host's writer has a state of its own and may fail, so it matters how often
it is run and on what. A call runs it on the arguments from left to right, each
time in the state that the run before left, and stops where it fails; for a
platform that the function may not be used on it is not run at all.

`recorded` is a writer that keeps account of its runs: behind the state of the
writer it stands for, it puts down every expression that it is given. A way to
write calls works with any writer, so it works with this one too, and what was
put down at the end is what the writer was run on. `Drives` pairs the two.

The four ways to write a call differ in where they get the platform and the
writer from, and in that the last of them hands out a literal, which is asked for
its SQL. `InTurn` is what is promised of one of them.
-/

namespace SpatialSql

open SpatialSql.Action

/-- Run in `s`, the action ends in `s'` with this value or error. -/
def Action.Ends {σ α : Type} (action : Action σ α) (s : σ)
    (result : Except Error α) (s' : σ) : Prop :=
  (action s).result = result ∧ (action s).state = s'

namespace Call

variable {ρ E : Type}

/-- A way to write a call, with any writer for its arguments. -/
abbrev Entry (E : Type) := {ρ : Type} → (E → Action ρ String) → Action ρ String

/-- Does what the writer does, and puts down what it was run on. -/
def recorded (argument : E → Action ρ String) (e : E) :
    Action (ρ × List E) String := fun ⟨s, ran⟩ =>
  ⟨(argument e s).result, ((argument e s).state, ran ++ [e]),
    (argument e s).events⟩

/-- Run on these expressions one after the other, the writer leads from the one
state to the other, and these are the texts. -/
inductive WritesEach (argument : E → Action ρ String) :
    ρ → List E → List String → ρ → Prop
  | nil (s : ρ) : WritesEach argument s [] [] s
  | cons {s s₁ s₂ : ρ} {e : E} {es : List E} {text : String}
      {texts : List String} (first : (argument e).Yields s text s₁)
      (others : WritesEach argument s₁ es texts s₂) :
      WritesEach argument s (e :: es) (text :: texts) s₂

/-- Run in `s`, this way to write a call ends in `s'` as told, having run the
writer on these expressions, in this order, and on nothing else. -/
structure Drives (entry : Entry E) (argument : E → Action ρ String) (s : ρ)
    (result : Except Error String) (s' : ρ) (ran : List E) : Prop where
  ends : (entry argument).Ends s result s'
  runs : (entry (recorded argument)).Ends (s, []) result (s', ran)

/-- What is promised of a way to write a call for a platform. -/
structure InTurn (call : Call E) (platform : String) (entry : Entry E) :
    Prop where
  refused : ¬ call.definition.platforms.Allows platform →
    ∀ {ρ : Type} (argument : E → Action ρ String) (s : ρ),
      Drives entry argument s (.error (.unsupportedPlatform platform)) s []
  written : call.definition.platforms.Allows platform →
    ∀ {ρ : Type} {argument : E → Action ρ String} {s s' : ρ}
      {texts : List String}, WritesEach argument s call.arguments texts s' →
      Drives entry argument s
        (.ok (call.name ++ "(" ++ ", ".intercalate texts ++ ")")) s'
        call.arguments
  broken_off : call.definition.platforms.Allows platform →
    ∀ {ρ : Type} {argument : E → Action ρ String} {s s₁ s' : ρ}
      {before after : List E} {e : E} {texts : List String} {error : Error},
      call.arguments = before ++ e :: after →
      WritesEach argument s before texts s₁ →
      (argument e).Fails s₁ error s' →
      Drives entry argument s (.error error) s' (before ++ [e])

section

variable {argument : E → Action ρ String} {s s₁ s' : ρ} {e : E}
  {es before after : List E} {texts : List String} {error : Error}

/-! ## The writer and its record -/

theorem yields_recorded {text : String} (h : (argument e).Yields s text s')
    (ran : List E) :
    (recorded argument e).Yields (s, ran) text (s', ran ++ [e]) := by
  obtain ⟨result, rfl⟩ := h
  exact ⟨result, rfl⟩

theorem fails_recorded (h : (argument e).Fails s error s') (ran : List E) :
    (recorded argument e).Fails (s, ran) error (s', ran ++ [e]) := by
  obtain ⟨result, rfl⟩ := h
  exact ⟨result, rfl⟩

theorem writesEach_recorded (h : WritesEach argument s es texts s')
    (ran : List E) :
    WritesEach (recorded argument) (s, ran) es texts (s', ran ++ es) := by
  induction h generalizing ran with
  | nil s =>
      rw [List.append_nil]
      exact .nil _
  | @cons _ _ _ e _ _ _ first others ih =>
      rw [List.append_cons]
      exact .cons (yields_recorded first ran) (ih (ran ++ [e]))

theorem WritesEach.length (h : WritesEach argument s es texts s') :
    texts.length = es.length := by
  induction h with
  | nil => rfl
  | cons _ _ ih => exact congrArg (· + 1) ih

/-! ## All arguments -/

theorem yields_renderEach (h : WritesEach argument s es texts s') :
    (renderEach argument es).Yields s texts s' := by
  induction h with
  | nil s => exact yields_pure.mpr ⟨rfl, rfl⟩
  | cons first others ih =>
      exact yields_bind.mpr ⟨_, _, first,
        yields_bind.mpr ⟨_, _, ih, yields_pure.mpr ⟨rfl, rfl⟩⟩⟩

theorem fails_renderEach (h : WritesEach argument s before texts s₁)
    (fails : (argument e).Fails s₁ error s') (after : List E) :
    (renderEach argument (before ++ e :: after)).Fails s error s' := by
  induction h with
  | nil s => exact fails_bind.mpr (.inl fails)
  | cons first others ih =>
      exact fails_bind.mpr (.inr ⟨_, _, first, fails_bind.mpr (.inl (ih fails))⟩)

/-- Either the writer writes all of them, or there is a first one that it fails
on. -/
theorem writes_each_or_breaks_off (argument : E → Action ρ String) (s : ρ)
    (es : List E) :
    (∃ texts s', WritesEach argument s es texts s') ∨
      ∃ before e after texts s₁ error s', es = before ++ e :: after ∧
        WritesEach argument s before texts s₁ ∧
        (argument e).Fails s₁ error s' := by
  induction es generalizing s with
  | nil => exact .inl ⟨[], s, .nil s⟩
  | cons e es ih =>
      obtain ⟨text, first⟩ | ⟨error, fails⟩ := yields_or_fails (argument e) s
      · obtain ⟨texts, s', others⟩ |
          ⟨before, e', after, texts, s₁, error, s', rfl, others, fails⟩ := ih _
        · exact .inl ⟨text :: texts, s', .cons first others⟩
        · exact .inr ⟨e :: before, e', after, text :: texts, s₁, error, s', rfl,
            .cons first others, fails⟩
      · exact .inr ⟨[], e, es, [], s, error, _, rfl, .nil s, fails⟩

/-! ## The ways to write a call -/

variable {call : Call E} {platform : String}

theorem yields_render (allowed : call.definition.platforms.Allows platform)
    (h : WritesEach argument s call.arguments texts s') :
    (call.render platform argument).Yields s
      (call.name ++ "(" ++ ", ".intercalate texts ++ ")") s' := by
  rw [render, write_of_allows allowed]
  exact yields_map.mpr ⟨texts, yields_renderEach h, rfl⟩

theorem fails_render (allowed : call.definition.platforms.Allows platform)
    (parts : call.arguments = before ++ e :: after)
    (h : WritesEach argument s before texts s₁)
    (fails : (argument e).Fails s₁ error s') :
    (call.render platform argument).Fails s error s' := by
  rw [render, write_of_allows allowed, parts]
  exact fails_map.mpr (fails_renderEach h fails after)

theorem fails_render_of_not_allows
    (barred : ¬ call.definition.platforms.Allows platform)
    (argument : E → Action ρ String) (s : ρ) :
    (call.render platform argument).Fails s (.unsupportedPlatform platform)
      s := by
  unfold Fails
  rw [render, write_of_not_allows barred]
  exact ⟨rfl, rfl⟩

end

theorem inTurn_render (call : Call E) (platform : String) :
    InTurn call platform (call.render platform) where
  refused barred _ argument s :=
    ⟨fails_render_of_not_allows barred argument s,
      fails_render_of_not_allows barred (recorded argument) (s, [])⟩
  written allowed _ _ _ _ _ h :=
    ⟨yields_render allowed h, yields_render allowed (writesEach_recorded h [])⟩
  broken_off allowed _ _ _ _ _ before _ _ _ _ parts h fails :=
    ⟨fails_render allowed parts h fails,
      fails_render allowed parts (writesEach_recorded h [])
        (fails_recorded fails before)⟩

/-- However a call is written, the writer of its arguments is not run at all if
the function may not be used on the platform, and else on one argument after the
other, up to the first that it fails on. Its error is the answer; if there is
none, the texts of all arguments are put together. -/
theorem arguments_are_written_in_turn (call : Call E) :
    (∀ platform,
      InTurn call platform (call.render platform) ∧
      InTurn call platform fun argument =>
        call.compile ⟨platform, argument⟩) ∧
    (∀ backend : Backend,
      InTurn call backend.platform (backend.renderFor call) ∧
      InTurn call backend.platform fun argument =>
        SqlLiteral.sql <$> backend.sqlLiteral call argument) ∧
    ∀ {ρ : Type} (argument : E → Action ρ String) (s : ρ),
      (∃ texts s', texts.length = call.arguments.length ∧
        WritesEach argument s call.arguments texts s') ∨
      ∃ before e after texts s₁ error s',
        call.arguments = before ++ e :: after ∧
        WritesEach argument s before texts s₁ ∧
        (argument e).Fails s₁ error s' := by
  refine ⟨fun platform => ?_, fun backend => ?_, fun argument s => ?_⟩
  · exact ⟨inTurn_render call platform, inTurn_render call platform⟩
  · have rendered := inTurn_render call backend.platform
    refine ⟨rendered, ?_⟩
    simp only [Backend.sql_sqlLiteral]
    exact rendered
  · obtain ⟨texts, s', each⟩ | breaks :=
      writes_each_or_breaks_off argument s call.arguments
    · exact .inl ⟨texts, s', each.length, each⟩
    · exact .inr breaks

/-- Writes a piece of text as it is, unless there is nothing to write, and
counts how often it was run. -/
def pieceWriter (piece : String) : Action Nat String := fun runs =>
  if piece = "" then ⟨.error (.refused "nothing to write"), runs + 1, []⟩
  else ⟨.ok piece, runs + 1, []⟩

/-- A call for one platform, with an argument that is not written. -/
def gappedCall : Call String :=
  ⟨{ distance with platforms := .ofList ["postgresql"] }, ["a", "", "b"]⟩

/-- The last argument is not looked at, and on the other platform none is. -/
theorem gapped_call_breaks_off :
    Drives (Backend.postgresql.renderFor gappedCall) pieceWriter 0
        (.error (.refused "nothing to write")) 2 ["a", ""] ∧
      Drives (fun argument => SqlLiteral.sql <$>
          Backend.postgresql.sqlLiteral gappedCall argument) pieceWriter 0
        (.error (.refused "nothing to write")) 2 ["a", ""] ∧
      Drives (Backend.mysql.renderFor gappedCall) pieceWriter 0
        (.error (.unsupportedPlatform "mysql")) 0 [] := by
  obtain ⟨-, inTurn, -⟩ := arguments_are_written_in_turn gappedCall
  have allowed : gappedCall.definition.platforms.Allows "postgresql" :=
    AllowList.permits_iff.mp (by decide +kernel)
  have barred : ¬ gappedCall.definition.platforms.Allows "mysql" :=
    fun h => absurd (AllowList.permits_iff.mpr h) (by decide +kernel)
  have before : WritesEach pieceWriter 0 ["a"] ["a"] 1 :=
    .cons ⟨rfl, rfl⟩ (.nil 1)
  exact ⟨(inTurn .postgresql).1.broken_off allowed rfl before ⟨rfl, rfl⟩,
    (inTurn .postgresql).2.broken_off allowed rfl before ⟨rfl, rfl⟩,
    (inTurn .mysql).1.refused barred pieceWriter 0⟩

end Call

end SpatialSql
