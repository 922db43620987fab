import SpatialSql.Proofs.ReaderTermination
import SpatialSql.Verbatim.Reader

/-!
# What a call reads

The grammar of a call is written here as relations between sources, without
the loop: a name, an opening parenthesis, the arguments with commas between
them, a closing parenthesis, and as many arguments as the arity admits. The
loop decides one token ahead and by two tests, of which the first looks at the
least number of arguments and the second at the greatest and at the next
token. `parse_yields_iff_spells` says that the two come to the same for every
arity, every source and every reader of arguments that is forward, and that the
reader may well take no token at all.

The other way a call can end is written out too. `Stops` lists the places where
reading gives up, and `stops_of_parse_fails` says that there are no others.
-/

namespace SpatialSql

/-- The numbers of arguments from the least to the greatest. -/
def Arity.Admits (arity : Arity) (count : Nat) : Prop :=
  arity.min ≤ count ∧ ∀ m, arity.max = some m → count ≤ m

theorem Arity.contains_iff {arity : Arity} {count : Nat} :
    arity.contains count = true ↔ arity.Admits count := by
  unfold Arity.contains Arity.Admits
  cases arity.max with
  | none => simp
  | some m => simp

theorem Arity.requiresMore_iff {arity : Arity} {count : Nat} :
    arity.requiresMore count = true ↔ count < arity.min := by
  simp [Arity.requiresMore]

theorem Arity.allowsMore_iff {arity : Arity} {count : Nat} :
    arity.allowsMore count = true ↔ ∀ m, arity.max = some m → count < m := by
  unfold Arity.allowsMore
  cases arity.max with
  | none => simp
  | some m => simp

theorem Verbatim.forward_readSingle {σ : Type} [TokenSource σ] :
    TokenSource.Forward (readSingle : Action σ String) := by
  refine TokenSource.forward_state_bind fun s => ?_
  split
  · exact TokenSource.forward_fail _
  · split
    · exact TokenSource.forward_bind TokenSource.forward_skip
        fun _ => TokenSource.forward_pure _
    · exact TokenSource.forward_fail _

namespace Call

open SpatialSql.Action TokenSource

variable {σ E : Type} [TokenSource σ]

/-! ## The two tests of the loop -/

theorem wantsAnother_iff {arity : Arity} {count : Nat} {s : σ} :
    wantsAnother arity count s = true ↔
      count < arity.min ∨
        ((∀ m, arity.max = some m → count < m) ∧
          atKind .closeParenthesis s = false) := by
  rw [wantsAnother, Bool.or_eq_true, Bool.and_eq_true, Bool.not_eq_true',
    Arity.requiresMore_iff, Arity.allowsMore_iff]

/-- Whichever test asked for another argument, there is room for it. -/
theorem lt_of_wantsAnother {arity : Arity} {count : Nat} {s : σ}
    (h : wantsAnother arity count s = true) :
    ∀ m, arity.max = some m → count < m := by
  intro m hm
  rcases wantsAnother_iff.mp h with h | ⟨h, -⟩
  · have := arity.min_le_max m hm
    omega
  · exact h m hm

theorem min_le_of_not_wantsAnother {arity : Arity} {count : Nat} {s : σ}
    (h : wantsAnother arity count s = false) : arity.min ≤ count := by
  refine Nat.le_of_not_lt fun hlt => ?_
  rw [wantsAnother_iff.mpr (Or.inl hlt)] at h
  cases h

/-- At the closing parenthesis a number that is admitted is enough. -/
theorem not_wantsAnother_of_admits {arity : Arity} {count : Nat} {s s' : σ}
    (h : arity.Admits count) (close : Takes .closeParenthesis s s') :
    wantsAnother arity count s = false := by
  refine Bool.eq_false_iff.mpr fun hw => ?_
  rcases wantsAnother_iff.mp hw with hlt | ⟨-, hk⟩
  · have := h.1
    omega
  · rw [(takes_iff.mp close).1] at hk
    cases hk

/-- Before a comma, another argument is wanted as long as there is room. -/
theorem wantsAnother_of_comma {arity : Arity} {count : Nat} {s s' : σ}
    (h : ∀ m, arity.max = some m → count < m) (comma : Takes .comma s s') :
    wantsAnother arity count s = true :=
  wantsAnother_iff.mpr (Or.inr ⟨h, comma.not_atKind (by decide)⟩)

/-! ## The grammar -/

/-- From `s`, further arguments are read: for each a comma and a run of
`argument`. What they leave is `s'`. -/
inductive Further (argument : Action σ E) : σ → List E → σ → Prop
  | done {s : σ} : Further argument s [] s
  | more {s s₁ s₂ s' : σ} {e : E} {es : List E} (comma : Takes .comma s s₁)
      (read : argument.Yields s₁ e s₂) (rest : Further argument s₂ es s') :
      Further argument s (e :: es) s'

/-- From `s`, arguments are read: a run of `argument`, and further ones. -/
inductive Arguments (argument : Action σ E) : σ → List E → σ → Prop
  | mk {s s₁ s' : σ} {e : E} {es : List E} (read : argument.Yields s e s₁)
      (rest : Further argument s₁ es s') : Arguments argument s (e :: es) s'

/-- A name and an opening parenthesis stand at the head of `s`. -/
def Opens (s s' : σ) : Prop :=
  ∃ s₁, Takes .identifier s s₁ ∧ Takes .openParenthesis s₁ s'

/-- At the head of `s` stands a call of the function with the arguments `es`,
and `s'` is what follows it. -/
def Spells (definition : Definition) (argument : Action σ E) (s : σ)
    (es : List E) (s' : σ) : Prop :=
  ∃ s₁ s₂, Opens s s₁ ∧ Arguments argument s₁ es s₂ ∧
    Takes .closeParenthesis s₂ s' ∧ definition.arity.Admits es.length

theorem Opens.length {s s' : σ} (h : Opens s s') :
    (remaining s).length = (remaining s').length + 2 := by
  obtain ⟨s₁, name, opening⟩ := h
  rw [name.length, opening.length]

/-! ## The loop reads the grammar -/

theorem furtherArguments_sound {arity : Arity} {argument : Action σ E}
    (forward : Forward argument) {es : List E} :
    ∀ {count : Nat} {s s' : σ},
      (furtherArguments arity argument count).Yields s es s' →
      Further argument s es s' ∧
        wantsAnother arity (count + es.length) s' = false ∧
        ∀ m, arity.max = some m → count ≤ m → count + es.length ≤ m := by
  induction es with
  | nil =>
      intro count s s' h
      rw [furtherArguments_eq arity forward, yields_state_bind] at h
      split at h
      · obtain ⟨_, _, _, h⟩ := yields_bind.mp h
        obtain ⟨_, _, _, h⟩ := yields_bind.mp h
        obtain ⟨_, _, _, h⟩ := yields_bind.mp h
        cases (yields_pure.mp h).1
      · next hw =>
          obtain ⟨-, rfl⟩ := yields_pure.mp h
          exact ⟨.done, by simpa using hw, fun m _ hc => hc⟩
  | cons e es ih =>
      intro count s s' h
      rw [furtherArguments_eq arity forward, yields_state_bind] at h
      split at h
      · next hw =>
          obtain ⟨_, s₁, comma, h⟩ := yields_bind.mp h
          obtain ⟨e', s₂, read, h⟩ := yields_bind.mp h
          obtain ⟨es', s₃, loop, h⟩ := yields_bind.mp h
          obtain ⟨heq, rfl⟩ := yields_pure.mp h
          obtain ⟨rfl, rfl⟩ := List.cons.inj heq
          obtain ⟨rest, stop, bound⟩ := ih loop
          have hcount : count + 1 + es.length = count + (es.length + 1) := by
            omega
          rw [hcount] at stop bound
          refine ⟨.more (yields_expect.mp comma) read rest, stop, ?_⟩
          exact fun m hm _ => bound m hm (lt_of_wantsAnother hw m hm)
      · cases (yields_pure.mp h).1

theorem furtherArguments_complete {arity : Arity} {argument : Action σ E}
    (forward : Forward argument) {es : List E} {s s' s'' : σ}
    (h : Further argument s es s') (close : Takes .closeParenthesis s' s'') :
    ∀ {count : Nat}, arity.Admits (count + es.length) →
      (furtherArguments arity argument count).Yields s es s' := by
  induction h with
  | done =>
      intro count admits
      rw [List.length_nil, Nat.add_zero] at admits
      rw [furtherArguments_eq arity forward, yields_state_bind,
        not_wantsAnother_of_admits admits close]
      exact yields_pure.mpr ⟨rfl, rfl⟩
  | @more s s₁ s₂ s' e es comma read _ ih =>
      intro count admits
      rw [List.length_cons] at admits
      have room : ∀ m, arity.max = some m → count < m := by
        intro m hm
        have := admits.2 m hm
        omega
      have admits' : arity.Admits (count + 1 + es.length) := by
        rw [Nat.add_right_comm]
        exact admits
      rw [furtherArguments_eq arity forward, yields_state_bind,
        wantsAnother_of_comma room comma]
      refine yields_bind.mpr ⟨(), s₁, yields_expect.mpr comma, ?_⟩
      refine yields_bind.mpr ⟨e, s₂, read, ?_⟩
      refine yields_bind.mpr ⟨es, s', ih close admits', ?_⟩
      exact yields_pure.mpr ⟨rfl, rfl⟩

theorem yields_parseArguments {arity : Arity} {argument : Action σ E}
    {s s' : σ} {es : List E} :
    (parseArguments arity argument).Yields s es s' ↔
      ∃ e s₁ others, argument.Yields s e s₁ ∧
        (furtherArguments arity argument 1).Yields s₁ others s' ∧
        es = e :: others := by
  rw [parseArguments_eq, yields_bind]
  constructor
  · rintro ⟨e, s₁, read, h⟩
    obtain ⟨others, s₂, loop, h⟩ := yields_bind.mp h
    obtain ⟨rfl, rfl⟩ := yields_pure.mp h
    exact ⟨e, s₁, others, read, loop, rfl⟩
  · rintro ⟨e, s₁, others, read, loop, rfl⟩
    refine ⟨e, s₁, read, yields_bind.mpr ⟨others, s', loop, ?_⟩⟩
    exact yields_pure.mpr ⟨rfl, rfl⟩

theorem parseArguments_sound {arity : Arity} {argument : Action σ E}
    (forward : Forward argument) {s s' : σ} {es : List E}
    (h : (parseArguments arity argument).Yields s es s') :
    Arguments argument s es s' ∧ arity.Admits es.length := by
  obtain ⟨e, s₁, others, read, loop, rfl⟩ := yields_parseArguments.mp h
  obtain ⟨rest, stop, bound⟩ := furtherArguments_sound forward loop
  rw [Nat.add_comm] at stop
  refine ⟨.mk read rest, min_le_of_not_wantsAnother stop, ?_⟩
  intro m hm
  have hmin := arity.min_le_max m hm
  have hpos := arity.min_pos
  have := bound m hm (by omega)
  rw [List.length_cons]
  omega

theorem parseArguments_complete {arity : Arity} {argument : Action σ E}
    (forward : Forward argument) {s s' s'' : σ} {es : List E}
    (h : Arguments argument s es s') (close : Takes .closeParenthesis s' s'')
    (admits : arity.Admits es.length) :
    (parseArguments arity argument).Yields s es s' := by
  cases h with
  | mk read rest =>
      rw [List.length_cons, Nat.add_comm] at admits
      exact yields_parseArguments.mpr ⟨_, _, _, read,
        furtherArguments_complete forward rest close admits, rfl⟩

theorem yields_parse {definition : Definition} {argument : Action σ E}
    {s s' : σ} {call : Call E} :
    (parse definition argument).Yields s call s' ↔
      ∃ s₁ s₂, Opens s s₁ ∧
        (parseArguments definition.arity argument).Yields s₁ call.arguments s₂ ∧
        Takes .closeParenthesis s₂ s' ∧ call.definition = definition := by
  constructor
  · intro h
    obtain ⟨_, s₁, name, h⟩ := yields_bind.mp h
    obtain ⟨_, s₂, opening, h⟩ := yields_bind.mp h
    obtain ⟨es, s₃, arguments, h⟩ := yields_bind.mp h
    obtain ⟨_, s₄, close, h⟩ := yields_bind.mp h
    obtain ⟨_, s₅, noted, h⟩ := yields_bind.mp h
    obtain ⟨rfl, rfl⟩ := yields_pure.mp h
    obtain rfl := yields_emit.mp noted
    exact ⟨s₂, s₃, ⟨s₁, yields_expect.mp name, yields_expect.mp opening⟩,
      arguments, yields_expect.mp close, rfl⟩
  · rintro ⟨s₂, s₃, ⟨s₁, name, opening⟩, arguments, close, rfl⟩
    refine yields_bind.mpr ⟨(), s₁, yields_expect.mpr name, ?_⟩
    refine yields_bind.mpr ⟨(), s₂, yields_expect.mpr opening, ?_⟩
    refine yields_bind.mpr ⟨call.arguments, s₃, arguments, ?_⟩
    refine yields_bind.mpr ⟨(), s', yields_expect.mpr close, ?_⟩
    refine yields_bind.mpr ⟨(), s', yields_emit.mpr rfl, ?_⟩
    exact yields_pure.mpr ⟨rfl, rfl⟩

theorem fails_parse {definition : Definition} {argument : Action σ E}
    {s s' : σ} {e : Error} :
    (parse definition argument).Fails s e s' ↔
      (atKind .identifier s = false ∧
          e = .unexpectedToken .identifier (found s) ∧ s' = s) ∨
        ∃ s₁, Takes .identifier s s₁ ∧
          ((atKind .openParenthesis s₁ = false ∧
              e = .unexpectedToken .openParenthesis (found s₁) ∧ s' = s₁) ∨
            ∃ s₂, Takes .openParenthesis s₁ s₂ ∧
              ((parseArguments definition.arity argument).Fails s₂ e s' ∨
                ∃ es s₃,
                  (parseArguments definition.arity argument).Yields s₂ es s₃ ∧
                  atKind .closeParenthesis s₃ = false ∧
                  e = .unexpectedToken .closeParenthesis (found s₃) ∧
                  s' = s₃)) := by
  simp only [parse, fails_bind, fails_expect, yields_expect, fails_emit,
    fails_pure, and_false, exists_false, or_false, exists_const]

theorem parse_yields_iff_spells {definition : Definition}
    {argument : Action σ E} (forward : Forward argument) {s s' : σ}
    {call : Call E} :
    (parse definition argument).Yields s call s' ↔
      call.definition = definition ∧
        Spells definition argument s call.arguments s' := by
  rw [yields_parse]
  constructor
  · rintro ⟨s₁, s₂, opens, arguments, close, rfl⟩
    obtain ⟨arguments, admits⟩ := parseArguments_sound forward arguments
    exact ⟨rfl, s₁, s₂, opens, arguments, close, admits⟩
  · rintro ⟨rfl, s₁, s₂, opens, arguments, close, admits⟩
    exact ⟨s₁, s₂, opens, parseArguments_complete forward arguments close admits,
      close, rfl⟩

/-- A call is accepted exactly where the grammar has one, whatever the arity and
however `argument` reads. A reader that carries a state of its own runs on a
source paired with it. What is accepted could also have been built from the
arguments. -/
theorem parse_accepts_grammar {argument : Action σ E}
    (forward : Forward argument) (definition : Definition) (s s' : σ)
    (call : Call E) :
    ((parse definition argument).Yields s call s' ↔
      call.definition = definition ∧
        Spells definition argument s call.arguments s') ∧
    ((parse definition argument).Yields s call s' →
      ofArguments definition call.arguments = .ok call) := by
  refine ⟨parse_yields_iff_spells forward, fun h => ?_⟩
  obtain ⟨rfl, s₁, s₂, -, -, -, admits⟩ := (parse_yields_iff_spells forward).mp h
  rw [ofArguments, if_pos (Arity.contains_iff.mpr admits)]

/-- A function of two or three arguments. -/
def distance : Definition where
  name := "ST_Distance"
  arity := ⟨2, some 3, by decide, by decide⟩
  platforms := .unrestricted
  name_not_blank := by decide

/-- The tokens of `st_distance(a, :b)`. -/
def distanceTokens : List Token :=
  [⟨.identifier, "st_distance", 0⟩, ⟨.openParenthesis, "(", 11⟩,
    ⟨.identifier, "a", 12⟩, ⟨.comma, ",", 13⟩, ⟨.other, ":b", 15⟩,
    ⟨.closeParenthesis, ")", 17⟩]

theorem parse_accepts_distance :
    Forward (Verbatim.readSingle : Action Token.Cursor String) ∧
      Spells distance Verbatim.readSingle (Token.Cursor.ofList distanceTokens)
        ["a", ":b"] ⟨distanceTokens.reverse, []⟩ ∧
      ofArguments distance ["a", ":b"] = .ok ⟨distance, ["a", ":b"]⟩ := by
  have accepts := parse_accepts_grammar Verbatim.forward_readSingle distance
    (Token.Cursor.ofList distanceTokens) ⟨distanceTokens.reverse, []⟩
    ⟨distance, ["a", ":b"]⟩
  have h : (parse distance Verbatim.readSingle).Yields
      (Token.Cursor.ofList distanceTokens) ⟨distance, ["a", ":b"]⟩
      ⟨distanceTokens.reverse, []⟩ := ⟨rfl, rfl⟩
  exact ⟨Verbatim.forward_readSingle, (accepts.1.mp h).2, accepts.2 h⟩

/-! ## Where reading stops short -/

theorem furtherArguments_fails {arity : Arity} {argument : Action σ E}
    (forward : Forward argument) {e : Error} :
    ∀ {n count : Nat} {s s' : σ}, (remaining s).length ≤ n →
      (furtherArguments arity argument count).Fails s e s' →
      ∃ es s₁, Further argument s es s₁ ∧
        wantsAnother arity (count + es.length) s₁ = true ∧
        ((atKind .comma s₁ = false ∧
            e = .unexpectedToken .comma (found s₁) ∧ s' = s₁) ∨
          ∃ s₂, Takes .comma s₁ s₂ ∧ argument.Fails s₂ e s') := by
  intro n
  induction n with
  | zero =>
      intro count s s' hn h
      have hend : remaining s = [] := List.length_eq_zero_iff.mp (by omega)
      rw [Fails, furtherArguments, parseFurther_at_end hend] at h
      split at h
      · next hw =>
          obtain ⟨he, rfl⟩ := h
          have hk : atKind .comma s = false := by rw [atKind, peek, hend]; rfl
          exact ⟨[], s, .done, hw, Or.inl ⟨hk, (Except.error.inj he).symm, rfl⟩⟩
      · cases h.1
  | succ n ih =>
      intro count s s' hn h
      rw [furtherArguments_eq arity forward, fails_state_bind] at h
      split at h
      · next hw =>
          rcases fails_bind.mp h with h | ⟨_, s₁, comma, h⟩
          · exact ⟨[], s, .done, hw, Or.inl (fails_expect.mp h)⟩
          · have comma := yields_expect.mp comma
            have hl₁ := comma.length
            rcases fails_bind.mp h with h | ⟨x, s₂, read, h⟩
            · exact ⟨[], s, .done, hw, Or.inr ⟨s₁, comma, h⟩⟩
            · have hl₂ := (forward.yields read).length_le
              rcases fails_bind.mp h with h | ⟨_, _, _, h⟩
              · obtain ⟨es, s₃, rest, hw', stop⟩ := ih (by omega) h
                rw [Nat.add_right_comm] at hw'
                exact ⟨x :: es, s₃, .more comma read rest, hw', stop⟩
              · exact absurd h fails_pure
      · exact absurd h fails_pure

/-- Reading a call from `s` gives up with an error, and `s'` is left. The error
is one of the call itself, about the token at the head of `s'`, or that of a
run of `argument`, the first or a later one. -/
inductive Stops (definition : Definition) (argument : Action σ E) (s : σ) :
    Error → σ → Prop
  | name (other : atKind .identifier s = false) :
      Stops definition argument s (.unexpectedToken .identifier (found s)) s
  | opening {s₁ : σ} (name : Takes .identifier s s₁)
      (other : atKind .openParenthesis s₁ = false) :
      Stops definition argument s
        (.unexpectedToken .openParenthesis (found s₁)) s₁
  | first {s₁ s' : σ} {e : Error} (opens : Opens s s₁)
      (failed : argument.Fails s₁ e s') : Stops definition argument s e s'
  | comma {s₁ s₂ : σ} {es : List E} (opens : Opens s s₁)
      (arguments : Arguments argument s₁ es s₂)
      (wanted : wantsAnother definition.arity es.length s₂ = true)
      (other : atKind .comma s₂ = false) :
      Stops definition argument s (.unexpectedToken .comma (found s₂)) s₂
  | later {s₁ s₂ s₃ s' : σ} {es : List E} {e : Error} (opens : Opens s s₁)
      (arguments : Arguments argument s₁ es s₂)
      (wanted : wantsAnother definition.arity es.length s₂ = true)
      (comma : Takes .comma s₂ s₃) (failed : argument.Fails s₃ e s') :
      Stops definition argument s e s'
  | closing {s₁ s₂ : σ} {es : List E} (opens : Opens s s₁)
      (arguments : Arguments argument s₁ es s₂)
      (admits : definition.arity.Admits es.length)
      (other : atKind .closeParenthesis s₂ = false) :
      Stops definition argument s
        (.unexpectedToken .closeParenthesis (found s₂)) s₂

theorem stops_of_parse_fails {definition : Definition} {argument : Action σ E}
    (forward : Forward argument) {s s' : σ} {e : Error}
    (h : (parse definition argument).Fails s e s') :
    Stops definition argument s e s' := by
  rcases fails_parse.mp h with ⟨hk, rfl, rfl⟩ | ⟨s₁, name, h⟩
  · exact .name hk
  rcases h with ⟨hk, rfl, rfl⟩ | ⟨s₂, opening, h⟩
  · exact .opening name hk
  have opens : Opens s s₂ := ⟨s₁, name, opening⟩
  rcases h with h | ⟨es, s₃, arguments, hk, rfl, rfl⟩
  · rw [parseArguments_eq] at h
    rcases fails_bind.mp h with h | ⟨x, s₃, read, h⟩
    · exact .first opens h
    rcases fails_bind.mp h with h | ⟨_, _, _, h⟩
    · obtain ⟨es, s₄, rest, wanted, stop⟩ :=
        furtherArguments_fails forward (Nat.le_refl _) h
      rw [Nat.add_comm] at wanted
      rcases stop with ⟨hk, rfl, rfl⟩ | ⟨s₅, comma, failed⟩
      · exact .comma opens (.mk read rest) wanted hk
      · exact .later opens (.mk read rest) wanted comma failed
    · exact absurd h fails_pure
  · obtain ⟨arguments, admits⟩ := parseArguments_sound forward arguments
    exact .closing opens arguments admits hk

end Call

end SpatialSql
