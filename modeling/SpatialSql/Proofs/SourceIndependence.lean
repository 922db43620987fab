import SpatialSql.Proofs.CallFailure
import SpatialSql.Proofs.CursorRuns
import SpatialSql.Proofs.Lockstep
import SpatialSql.Verbatim.Reader

/-!
# Any source is read alike

A call can be read from any source, and of what kind the source is makes no
difference: from sources that present the same tokens the runs are in lockstep.
The one thing in which they may differ is the end that each reports, and it
shows in one place only, in an error about a token that was wanted there.

That needs a reader of arguments which is itself blind to the source. Such a
reader is an `Onlooker`: a procedure that goes by what it remembers and by what
it has seen ahead of it, and whose only move is to pass a token. It is no action
on one kind of source but drives one on each, and two actions that it drives
are in lockstep because all that it ever sees is the same.
-/

namespace SpatialSql

open SpatialSql.Action

namespace TokenSource

/-! ## Sources that present tokens -/

/-- The source hands out these tokens, and reports this end whatever steps are
taken. -/
structure Presents {σ : Type} [TokenSource σ] (tokens : List Token) (stop : Nat)
    (s : σ) : Prop where
  remaining : remaining s = tokens
  steady : ∀ steps, TokenSource.stop (afterSteps steps s) = stop

section

variable {σ : Type} [TokenSource σ] {tokens : List Token} {stop : Nat} {s : σ}

theorem Presents.advance (h : Presents tokens stop s) :
    Presents tokens.tail stop (advance s) where
  remaining := by rw [remaining_advance, h.remaining]
  steady steps := h.steady (.advance :: steps)

theorem Presents.loan (h : Presents tokens stop s) :
    Presents tokens stop (⟨s⟩ : Loan σ) where
  remaining := h.remaining
  steady steps := by
    rw [afterSteps_loan]
    exact h.steady steps

end

theorem presents_cursor (tokens : List Token) :
    Presents tokens ((tokens.getLast?.map Token.stop).getD 0)
      (Token.Cursor.ofList tokens) where
  remaining := rfl
  steady steps := Token.Cursor.stop_of_toList
    (keeps_afterSteps (stable_toList tokens) steps rfl)

theorem presents_feed (tokens : List Token) (stop : Nat) :
    Presents tokens stop (⟨tokens, stop⟩ : Token.Feed) where
  remaining := rfl
  steady steps := by
    have steady : Stable fun feed : Token.Feed => feed.stop = stop :=
      fun _ h => h
    exact keeps_afterSteps steady steps rfl

/-! ## Onlookers -/

/-- What an onlooker does: it passes the token ahead, or is done. Then it has a
result, has left events, and remembers something for its next run. -/
inductive Move (ρ E : Type)
  | pass
  | finish (result : Except Error E) (memory : ρ) (log : List Event)

/-- A reader by what it remembers from earlier runs and by what it has seen
ahead of it in this one, the latest first. -/
def Onlooker (ρ E : Type) : Type :=
  ρ → (seen : List (Option Token)) → Move ρ E

namespace Onlooker

variable {σ τ ρ E : Type} [TokenSource σ] [TokenSource τ]

/-- With this memory, and having seen so much, the onlooker comes from `s` to
this outcome. -/
inductive Runs (onlooker : Onlooker ρ E) (memory : ρ) :
    List (Option Token) → σ → Outcome (σ × ρ) E → Prop
  | pass {seen : List (Option Token)} {s : σ} {out : Outcome (σ × ρ) E}
      (move : onlooker memory (peek s :: seen) = .pass)
      (rest : Runs onlooker memory (peek s :: seen) (advance s) out) :
      Runs onlooker memory seen s out
  | finish {seen : List (Option Token)} {s : σ} {result : Except Error E}
      {memory' : ρ} {log : List Event}
      (move : onlooker memory (peek s :: seen) = .finish result memory' log) :
      Runs onlooker memory seen s ⟨result, (s, memory'), log⟩

/-- The action does what the onlooker says. -/
def Drives (onlooker : Onlooker ρ E) (action : Action (σ × ρ) E) : Prop :=
  ∀ s memory, onlooker.Runs memory [] s (action (s, memory))

end Onlooker

/-! ## What is alike -/

section

variable {σ τ ρ E : Type} [TokenSource σ] [TokenSource τ]

/-- The sources present the same tokens, each with its end, and the same is
remembered beside them. -/
structure SamePlace (stop stop' : Nat) (p : σ × ρ) (p' : τ × ρ) : Prop where
  presents : ∃ left, Presents left stop p.1 ∧ Presents left stop' p'.1
  memory : p.2 = p'.2

/-- The errors are the same, except that one about a token which is wanted at
the end of the input names the end of its own source. -/
inductive SameFault (stop stop' : Nat) (argument : Action (σ × ρ) E)
    (argument' : Action (τ × ρ) E) : Error → Error → Prop
  | token {kind : Token.Kind} {t : Token} :
      SameFault stop stop' argument argument'
        (.unexpectedToken kind (.token t)) (.unexpectedToken kind (.token t))
  | ended {kind : Token.Kind} :
      SameFault stop stop' argument argument'
        (.unexpectedToken kind (.nothing stop))
        (.unexpectedToken kind (.nothing stop'))
  | unknown {name : String} :
      SameFault stop stop' argument argument' (.unknownFunction name)
        (.unknownFunction name)
  /-- The readers of arguments failed with it, at the same place. -/
  | refused {e : Error} {p q : σ × ρ} {p' q' : τ × ρ}
      (place : SamePlace stop stop' p p') (fails : argument.Fails p e q)
      (fails' : argument'.Fails p' e q') :
      SameFault stop stop' argument argument' e e

end

variable {σ τ ρ E : Type} [TokenSource σ] [TokenSource τ] {stop stop' : Nat}

theorem SamePlace.remaining_eq {p : σ × ρ} {p' : τ × ρ}
    (h : SamePlace stop stop' p p') : remaining p = remaining p' := by
  obtain ⟨left, presents, presents'⟩ := h.presents
  exact presents.remaining.trans presents'.remaining.symm

theorem SamePlace.peek_eq {p : σ × ρ} {p' : τ × ρ}
    (h : SamePlace stop stop' p p') : peek p = peek p' :=
  congrArg List.head? h.remaining_eq

theorem SamePlace.advance {p : σ × ρ} {p' : τ × ρ}
    (h : SamePlace stop stop' p p') :
    SamePlace stop stop' (advance p) (advance p') := by
  obtain ⟨left, presents, presents'⟩ := h.presents
  exact ⟨⟨left.tail, presents.advance, presents'.advance⟩, h.memory⟩

/-- Of one onlooker, two runs from the same place end alike, in errors that are
the same. -/
theorem Onlooker.Runs.abreast {onlooker : Onlooker ρ E} {memory : ρ}
    {seen : List (Option Token)} {s : σ} {out : Outcome (σ × ρ) E}
    (h : onlooker.Runs memory seen s out) :
    ∀ {s' : τ} {out' : Outcome (τ × ρ) E},
      onlooker.Runs memory seen s' out' →
      SamePlace stop stop' (s, memory) (s', memory) →
      Abreast (SamePlace stop stop') Eq out out' := by
  induction h with
  | @pass seen s out move _ ih =>
      intro s' out' h' place
      have ahead : peek s = peek s' := place.peek_eq
      rw [ahead] at move ih
      cases h' with
      | pass _ rest' => exact ih rest' place.advance
      | finish move' =>
          rw [move] at move'
          cases move'
  | @finish seen s result memory' log move =>
      intro s' out' h' place
      have ahead : peek s = peek s' := place.peek_eq
      rw [ahead] at move
      cases h' with
      | pass move' _ =>
          rw [move] at move'
          cases move'
      | finish move' =>
          rw [move] at move'
          cases move'
          have behind : SamePlace stop stop' (s, memory') (s', memory') :=
            ⟨place.presents, rfl⟩
          cases result with
          | ok x => exact .yields behind
          | error e => exact .fails rfl behind

section

variable {onlooker : Onlooker ρ E} {argument : Action (σ × ρ) E}
  {argument' : Action (τ × ρ) E} (drives : onlooker.Drives argument)
  (drives' : onlooker.Drives argument')

include drives drives'

theorem Onlooker.lockstep :
    Lockstep (SamePlace stop stop') (SameFault stop stop' argument argument')
      argument argument' := by
  rintro ⟨s, memory⟩ ⟨s', memory'⟩ place
  obtain rfl : memory = memory' := place.memory
  have ends := (drives s memory).abreast (drives' s' memory) place
  generalize hout : argument (s, memory) = out at ends
  generalize hout' : argument' (s', memory) = out' at ends
  cases ends with
  | yields states => exact .yields states
  | @fails e e' q q' log errors states =>
      obtain rfl := errors
      have fails : argument.Fails (s, memory) e q := by
        rw [Fails, hout]
        exact ⟨rfl, rfl⟩
      have fails' : argument'.Fails (s', memory) e q' := by
        rw [Fails, hout']
        exact ⟨rfl, rfl⟩
      exact .fails (.refused place fails fails') states

end

theorem inStep_samePlace (argument : Action (σ × ρ) E)
    (argument' : Action (τ × ρ) E) :
    InStep (σ := σ × ρ) (τ := τ × ρ) (SamePlace stop stop')
      (SameFault stop stop' argument argument') where
  kinds place := congrArg (List.map Token.kind) place.remaining_eq
  advances place := place.advance
  misses := by
    intro p p' kind place
    have ahead := place.peek_eq
    obtain ⟨left, presents, presents'⟩ := place.presents
    rw [found, found, ahead]
    cases peek p' with
    | some t => exact .token
    | none =>
        have ends : TokenSource.stop p = stop := presents.steady []
        have ends' : TokenSource.stop p' = stop' := presents'.steady []
        rw [ends, ends']
        exact .ended

/-- The next token is the same, so it is taken for the same. -/
theorem SamePlace.readAlike {p : σ × ρ} {p' : τ × ρ}
    (h : SamePlace stop stop' p p') {t t' : Token} (next : peek p = some t)
    (next' : peek p' = some t') (registry : Registry) :
    ReadAlike registry registry t t' := by
  rw [h.peek_eq, next'] at next
  cases next
  exact ⟨rfl, fun _ => rfl, fun _ => rfl⟩

/-! ## Counting the runs -/

section

variable {σ τ α : Type} {look : σ → τ → Prop} {blame : Error → Error → Prop}

/-- The states look alike, and as many runs were counted. -/
def AsOften (look : σ → τ → Prop) (p : σ × Nat) (p' : τ × Nat) : Prop :=
  look p.1 p'.1 ∧ p.2 = p'.2

theorem lockstep_asOften {action : Action σ α} {action' : Action τ α}
    (h : Lockstep look blame action action') :
    Lockstep (AsOften look) blame action.counted action'.counted := by
  rintro ⟨s, n⟩ ⟨s', n'⟩ ⟨states, runs⟩
  obtain rfl : n = n' := runs
  have ends := h s s' states
  rw [counted, counted]
  generalize action s = out at ends
  generalize action' s' = out' at ends
  cases ends with
  | yields states => exact .yields ⟨states, rfl⟩
  | fails errors states => exact .fails errors ⟨states, rfl⟩

theorem inStep_asOften [TokenSource σ] [TokenSource τ]
    (h : InStep look blame) :
    InStep (σ := σ × Nat) (τ := τ × Nat) (AsOften look) blame where
  kinds states := h.kinds states.1
  advances states := ⟨h.advances states.1, states.2⟩
  misses kind states := h.misses kind states.1

end

/-! ## Reading calls -/

/-- Two sources that present the same tokens are read alike, whatever they are
and whatever ends they report, by a reader of arguments that only looks on. A
call is read from both or from neither; it is the same call, the same tokens are
left, and the reader of arguments has run as often and remembers the same. Where
reading fails the error is the same, but for the end of the input, which is that
of the source. A call of a registered function is read alike, too. -/
theorem any_source_is_read_alike {onlooker : Onlooker ρ E}
    {argument : Action (σ × ρ) E} {argument' : Action (τ × ρ) E}
    (drives : onlooker.Drives argument) (drives' : onlooker.Drives argument')
    {tokens : List Token} {s : σ} {s' : τ} (presents : Presents tokens stop s)
    (presents' : Presents tokens stop' s') (memory : ρ) :
    (∀ definition : Definition,
      Abreast (SamePlace stop stop') (SameFault stop stop' argument argument')
          (Call.parse definition argument (s, memory))
          (Call.parse definition argument' (s', memory)) ∧
        (Call.parse definition argument.counted ((s, memory), 0)).state.2 =
          (Call.parse definition argument'.counted ((s', memory), 0)).state.2) ∧
    ∀ registry : Registry,
      Abreast (SamePlace stop stop') (SameFault stop stop' argument argument')
          (registry.parseCall argument (s, memory))
          (registry.parseCall argument' (s', memory)) ∧
        (registry.parseCall argument.counted ((s, memory), 0)).state.2 =
          (registry.parseCall argument'.counted ((s', memory), 0)).state.2 := by
  have place : SamePlace stop stop' (s, memory) (s', memory) :=
    ⟨⟨tokens, presents, presents'⟩, rfl⟩
  have start : AsOften (SamePlace stop stop') ((s, memory), 0)
      ((s', memory), 0) := ⟨place, rfl⟩
  have inStep : InStep (σ := σ × ρ) (τ := τ × ρ) (SamePlace stop stop')
      (SameFault stop stop' argument argument') :=
    inStep_samePlace argument argument'
  have counting := inStep_asOften inStep
  have arguments : Lockstep (SamePlace stop stop')
      (SameFault stop stop' argument argument') argument argument' :=
    Onlooker.lockstep drives drives'
  have counted := lockstep_asOften arguments
  refine ⟨fun definition => ⟨?_, ?_⟩, fun registry => ⟨?_, ?_⟩⟩
  · exact inStep.lockstep_parse arguments definition _ _ place
  · exact (counting.lockstep_parse counted definition _ _ start).states.2
  · exact inStep.lockstep_parseCall arguments
      (fun same _ _ next next' => same.readAlike next next' registry)
      (fun _ => .unknown) _ _ place
  · exact (counting.lockstep_parseCall counted
      (fun same _ _ next next' => same.1.readAlike next next' registry)
      (fun _ => .unknown) _ _ start).states.2

/-- The onlooker that takes a single token for an argument. -/
def Onlooker.single : Onlooker Unit String
  | (), _ :: some t :: _ => .finish (.ok t.text) () []
  | (), [some t] =>
    if t.kind = .identifier || t.kind = .other then .pass
    else .finish (.error (.refused ("unexpected " ++ t.quoted))) () []
  | (), _ => .finish (.error (.refused "unexpected end of input")) () []

theorem Onlooker.single_drives {σ : Type} [TokenSource σ] :
    single.Drives (Verbatim.readSingle : Action (σ × Unit) String) := by
  intro s memory
  rw [Verbatim.readSingle, state_bind]
  cases ahead : peek s with
  | none =>
      have ahead' : peek (s, memory) = none := ahead
      rw [ahead']
      refine .finish ?_
      rw [ahead]
      rfl
  | some t =>
      have ahead' : peek (s, memory) = some t := ahead
      rw [ahead']
      simp only []
      split
      · next taken =>
          refine .pass ?_ (.finish ?_)
          · rw [ahead]
            exact if_pos taken
          · rw [ahead]
            rfl
      · next other =>
          refine .finish ?_
          rw [ahead]
          exact if_neg other

/-- The tokens of `st_distance(a`, which ends too soon. -/
def cutTokens : List Token :=
  Call.distanceTokens.take 3

/-- A lent cursor over them, which knows where its list ends. -/
def cutLoan : Loan Token.Cursor :=
  ⟨.ofList cutTokens⟩

/-- The same tokens from a host that reports an end of its own. -/
def cutFeed : Token.Feed :=
  ⟨cutTokens, 99⟩

theorem cut_distance_is_read_alike :
    Onlooker.single.Drives
        (Verbatim.readSingle : Action (Loan Token.Cursor × Unit) String) ∧
      Onlooker.single.Drives
        (Verbatim.readSingle : Action (Token.Feed × Unit) String) ∧
      Presents cutTokens 13 cutLoan ∧ Presents cutTokens 99 cutFeed ∧
      Abreast (SamePlace 13 99)
        (SameFault 13 99
          (Verbatim.readSingle : Action (Loan Token.Cursor × Unit) String)
          (Verbatim.readSingle : Action (Token.Feed × Unit) String))
        (Call.parse Call.distance Verbatim.readSingle (cutLoan, ()))
        (Call.parse Call.distance Verbatim.readSingle (cutFeed, ())) ∧
      (Call.parse Call.distance Verbatim.readSingle (cutLoan, ())).result =
        .error (.unexpectedToken .comma (.nothing 13)) ∧
      (Call.parse Call.distance Verbatim.readSingle (cutFeed, ())).result =
        .error (.unexpectedToken .comma (.nothing 99)) := by
  have presents : Presents cutTokens 13 cutLoan :=
    (presents_cursor cutTokens).loan
  have presents' : Presents cutTokens 99 cutFeed := presents_feed cutTokens 99
  have alike := any_source_is_read_alike Onlooker.single_drives
    Onlooker.single_drives presents presents' ()
  exact ⟨Onlooker.single_drives, Onlooker.single_drives, presents, presents',
    (alike.1 Call.distance).1, rfl, rfl⟩

end TokenSource

end SpatialSql
