import Mathlib.Control.Monad.Basic
import SpatialSql.Proofs.CallFailure
import SpatialSql.Proofs.CorrectPrefix
import SpatialSql.Proofs.LosslessLexing

/-!
# Diagnostics point into the input

A query is refused with an error that says what is wrong and where. This file
says that the place is real: the token that an error is about is a token of the
input, the input goes on with its text at the byte offset that the error gives,
and where the error is about the end of the input there is nothing left to
read and the offset is that of the end. What a user sees of an error is its
message, so the wording is given for every error as well, with the text and the
offset of the token in it.

Three things come together. The lexer gives each token the offset at which its
text stands. A cursor can pass over tokens and do nothing else, so the list it
was made from is still there when the reader stops, whatever the reader was. And
the readers refuse in few ways: at the token that is next, or because an
expression is wanted where none can start.

Where an expression is wanted is told by the tokens before. They are a stack of
calls, each open at the place of an argument of the call that encloses it, and
`AwaitsArgument` is the grammar of such stacks.
-/

namespace SpatialSql

open SpatialSql.Action TokenSource

/-- The error is of this kind and reads like this. -/
structure Error.Reports (e : Error) (kind : Error.Kind) (words : String) : Prop where
  kind_eq : e.kind = kind
  message_eq : e.message = words

namespace Query

/-! ## Where tokens stand -/

/-- At this byte offset the input goes on with the text. -/
def SpelledAt (input : String) (position : Nat) (text : String) : Prop :=
  ∃ before after, input = before ++ text ++ after ∧
    before.utf8ByteSize = position

/-- The tokens of an input stand where they say. -/
theorem spelledAt_of_mem_lex {input : String} {t : Token} (h : t ∈ lex input) :
    SpelledAt input t.position t.text := by
  obtain ⟨before, after, split, position⟩ := (tiles_lex input).place h
  exact ⟨before, after, split, by rw [position, Nat.zero_add]⟩

/-! ## Places of arguments -/

variable {registry : Registry}

/-- The tokens begin a call and end where an argument has to start: behind the
opening parenthesis, or behind a comma as long as there is room for another
argument. The argument that has to start may be one of a nested call. -/
inductive AwaitsArgument (registry : Registry) : List Token → Prop
  | first {name opening : Token} {definition : Definition}
      (isName : name.kind = .identifier)
      (registered : registry.get? name.text = some definition)
      (isOpening : opening.kind = .openParenthesis) :
      AwaitsArgument registry [name, opening]
  | later {name opening comma : Token} {ts : List Token}
      {definition : Definition} {es : List Expr}
      (isName : name.kind = .identifier)
      (registered : registry.get? name.text = some definition)
      (isOpening : opening.kind = .openParenthesis)
      (arguments : Separated (Derives registry) ts es)
      (room : ∀ m, definition.arity.max = some m → es.length < m)
      (isComma : comma.kind = .comma) :
      AwaitsArgument registry (name :: opening :: (ts ++ [comma]))
  | nested {c c' : List Token} (outer : AwaitsArgument registry c)
      (inner : AwaitsArgument registry c') : AwaitsArgument registry (c ++ c')

/-- A reader refuses with this error and leaves `s`. It is for the reader's
tokens to say whether an expression is `wanted` there. -/
inductive Refusal {σ : Type} [TokenSource σ] (wanted : Prop) (s : σ) :
    Error → Prop
  | token {kind : Token.Kind} {e : Error} (blames : Blames kind e s) :
      Refusal wanted s e
  | missing (here : wanted) (ended : remaining s = []) :
      Refusal wanted s .missingExpression
  | misplaced {t : Token} (here : wanted) (next : peek s = some t)
      (notName : t.kind ≠ .identifier) (notOther : t.kind ≠ .other) :
      Refusal wanted s (.notAnExpression t.text)

variable {σ : Type} [TokenSource σ]

theorem Refusal.imp {wanted wanted' : Prop} {s : σ} {e : Error}
    (h : Refusal wanted s e) (f : wanted → wanted') : Refusal wanted' s e := by
  cases h with
  | token blames => exact .token blames
  | missing here ended => exact .missing (f here) ended
  | misplaced here next notName notOther =>
      exact .misplaced (f here) next notName notOther

/-- What is wanted at the start of an argument is wanted behind the tokens that
wait for it. -/
theorem AwaitsArgument.append {c c' : List Token}
    (h : AwaitsArgument registry c) (h' : c' = [] ∨ AwaitsArgument registry c') :
    AwaitsArgument registry (c ++ c') := by
  rcases h' with rfl | h'
  · rw [List.append_nil]
    exact h
  · exact .nested h h'

/-! ## How the readers refuse -/

section

variable {nested : Action σ Expr} (forward : Forward nested)
  (reads : ∀ s, Reads nested (Derives registry) s)
  {s s' : σ} {e : Error} {name : Token} {definition : Definition}
  (hp : peek s = some name) (isName : name.kind = .identifier)
  (registered : registry.get? name.text = some definition)

include forward reads hp isName registered

theorem refusal_of_parse_fails
    (refuses : ∀ s₁ s₂ e, (remaining s₁).length < (remaining s).length →
      nested.Fails s₁ e s₂ →
      ∃ c, remaining s₁ = c ++ remaining s₂ ∧
        Refusal (c = [] ∨ AwaitsArgument registry c) s₂ e)
    (h : (Call.parse definition nested).Fails s e s') :
    ∃ c, remaining s = c ++ remaining s' ∧
      Refusal (AwaitsArgument registry c) s' e := by
  cases Call.stops_of_parse_fails forward h with
  | name other =>
      rw [atKind, hp] at other
      simp [isName] at other
  | opening takes other =>
      obtain ⟨⟨t, -, ht⟩, -⟩ := takes
      exact ⟨[t], ht, .token (blames_iff.mpr ⟨other, rfl⟩)⟩
  | first opens failed =>
      have hl := opens.length
      obtain ⟨opening, isOpening, ho⟩ := opens_cons hp opens
      obtain ⟨c, hc, refusal⟩ := refuses _ _ _ (by omega) failed
      refine ⟨[name, opening] ++ c, by rw [ho, hc]; rfl, refusal.imp ?_⟩
      exact (AwaitsArgument.first isName registered isOpening).append
  | comma opens arguments wanted other =>
      obtain ⟨opening, isOpening, ho⟩ := opens_cons hp opens
      obtain ⟨ts, -, ht⟩ := separated_of_nested forward reads arguments
      exact ⟨name :: opening :: ts, by rw [ho, ht]; rfl,
        .token (blames_iff.mpr ⟨other, rfl⟩)⟩
  | later opens arguments wanted comma failed =>
      obtain ⟨opening, isOpening, ho⟩ := opens_cons hp opens
      obtain ⟨ts, separated, ht⟩ := separated_of_nested forward reads arguments
      have hl₁ := opens.length
      have hl₂ := comma.length
      have hl₃ := congrArg List.length ht
      rw [List.length_append] at hl₃
      obtain ⟨⟨t, isComma, hcomma⟩, -⟩ := comma
      obtain ⟨c, hc, refusal⟩ := refuses _ _ _ (by omega) failed
      refine ⟨name :: opening :: (ts ++ [t]) ++ c, ?_, refusal.imp ?_⟩
      · rw [ho, ht, hcomma, hc]
        simp
      · exact (AwaitsArgument.later isName registered isOpening separated
          (Call.lt_of_wantsAnother wanted) isComma).append
  | closing opens arguments admits other =>
      obtain ⟨opening, isOpening, ho⟩ := opens_cons hp opens
      obtain ⟨ts, -, ht⟩ := separated_of_nested forward reads arguments
      exact ⟨name :: opening :: ts, by rw [ho, ht]; rfl,
        .token (blames_iff.mpr ⟨other, rfl⟩)⟩

end

theorem refusal_of_readExpression_fails :
    ∀ {n : Nat} {s s' : σ} {e : Error}, (remaining s).length < n →
      (readExpression registry).Fails s e s' →
      ∃ c, remaining s = c ++ remaining s' ∧
        Refusal (c = [] ∨ AwaitsArgument registry c) s' e := by
  intro n
  induction n with
  | zero => intro s s' e hn; omega
  | succ n ih =>
      intro s s' e hn h
      rw [readExpression_eq] at h
      rcases fails_expressionWith registry h with
        ⟨⟨ended, rfl⟩ | ⟨t, hp, notName, notOther, rfl⟩, rfl⟩ |
          ⟨t, definition, hp, hk, hg, h⟩
      · exact ⟨[], rfl, .missing (Or.inl rfl) ended⟩
      · exact ⟨[], rfl, .misplaced (Or.inl rfl) hp notName notOther⟩
      · obtain ⟨c, hc, refusal⟩ := refusal_of_parse_fails
          (forward_readExpression registry) (reads_readExpression registry)
          hp hk hg (fun _ _ _ hl hf => ih (by omega) hf) h
        exact ⟨c, hc, refusal.imp Or.inr⟩

/-- A reader of queries refuses at a token that is next, or at the start of an
argument, or because the first name is unknown. -/
theorem refusal_of_parseCall_fails {s s' : σ} {e : Error}
    (h : (parseCall registry).Fails s e s') :
    (∃ c, remaining s = c ++ remaining s' ∧
        Refusal (AwaitsArgument registry c) s' e) ∨
      ∃ t, peek s = some t ∧ t.kind = .identifier ∧
        registry.get? t.text = none ∧ e = .unknownFunction t.text := by
  rw [parseCall_eq] at h
  rcases registry.fails_parseCall.mp h with ahead | ⟨t, d, hp, hk, hg, h⟩
  · obtain ⟨hk | unknown, rfl⟩ := registry.fails_definitionAhead.mp ahead
    · exact Or.inl ⟨[], rfl, .token (blames_iff.mpr hk)⟩
    · exact Or.inr unknown
  · exact Or.inl (refusal_of_parse_fails (forward_readExpression registry)
      (reads_readExpression registry) hp hk hg
      (fun _ _ _ _ hf => refusal_of_readExpression_fails (Nat.lt_succ_self _) hf)
      h)

/-! ## Errors of whole inputs -/

/-- What an error says about the input is so; `unread` are the tokens that are
left. Other errors than these there are none. -/
def Located (registry : Registry) (input : String) (unread : List Token)
    (e : Error) : Prop :=
  match e with
  | .unexpectedToken expected found =>
    e.Reports .tokenOrder ("syntax error at position " ++ toString found.position ++
        ": expected " ++ expected.label ++ ", got " ++ found.label) ∧
      ((found.label = "end of input" ∧ unread = [] ∧
          found.position = ((lex input).getLast?.map Token.stop).getD 0) ∨
        ∃ t ∈ lex input, unread.head? = some t ∧
          found.label = "'" ++ t.text ++ "'" ∧ found.position = t.position ∧
          SpelledAt input t.position t.text ∧ t.kind ≠ expected)
  | .missingExpression =>
    e.Reports .input "expected expression" ∧
      unread = [] ∧ AwaitsArgument registry (lex input)
  | .notAnExpression text =>
    e.Reports .input ("unexpected '" ++ text ++ "' in expression") ∧
      ∃ c t, lex input = c ++ unread ∧ unread.head? = some t ∧ t.text = text ∧
        (t.kind = .openParenthesis ∨ t.kind = .closeParenthesis ∨
          t.kind = .comma) ∧
        AwaitsArgument registry c
  | .trailingInput t =>
    e.Reports .input ("trailing input at " ++ toString t.position ++ ": '" ++
        t.text ++ "'") ∧
      ∃ c call, lex input = c ++ unread ∧ Derives registry c (.ofCall call) ∧
        unread.head? = some t ∧ SpelledAt input t.position t.text
  | .unknownFunction name =>
    e.Reports .unknownFunction ("unknown function: " ++ name) ∧
      ∃ t, (lex input).head? = some t ∧ t.kind = .identifier ∧ t.text = name ∧
        registry.get? name = none
  | _ => False

theorem reports_trailingInput (t : Token) :
    (Error.trailingInput t).Reports .input
      ("trailing input at " ++ toString t.position ++ ": '" ++ t.text ++ "'") where
  kind_eq := rfl
  message_eq := by
    show "trailing input at " ++ toString t.position ++ ": " ++
      ("'" ++ t.text ++ "'") = _
    have joined : ": '" = ": " ++ "'" := rfl
    rw [joined]
    simp only [String.append_assoc]

section

variable {input : String} {s : Token.Cursor} {e : Error}

theorem located_of_blames {kind : Token.Kind} (whole : s.toList = lex input)
    (within : s.remaining <:+ lex input) (blames : Blames kind e s) :
    Located registry input s.remaining e := by
  obtain ⟨f, rfl, here⟩ := blames
  cases hr : s.remaining with
  | nil =>
      simp only [show remaining s = [] from hr] at here
      obtain ⟨-, label, position⟩ := here
      refine ⟨⟨rfl, rfl⟩, Or.inl ⟨label, rfl, position.trans ?_⟩⟩
      rw [← whole]
      rfl
  | cons t rest =>
      simp only [show remaining s = t :: rest from hr] at here
      obtain ⟨other, -, label, position⟩ := here
      have member : t ∈ lex input := within.subset (hr ▸ List.mem_cons_self)
      exact ⟨⟨rfl, rfl⟩, Or.inr ⟨t, member, rfl, label, position,
        spelledAt_of_mem_lex member, other⟩⟩

theorem located_of_refusal (whole : s.toList = lex input) {c : List Token}
    (split : lex input = c ++ s.remaining)
    (refusal : Refusal (AwaitsArgument registry c) s e) :
    Located registry input s.remaining e := by
  cases refusal with
  | token blames => exact located_of_blames whole ⟨c, split.symm⟩ blames
  | missing here ended =>
      have ended : s.remaining = [] := ended
      rw [ended, List.append_nil] at split
      exact ⟨⟨rfl, rfl⟩, ended, split ▸ here⟩
  | @misplaced t here next notName notOther =>
      refine ⟨⟨rfl, rfl⟩, c, t, split, next, rfl, ?_, here⟩
      cases hk : t.kind with
      | identifier => exact absurd hk notName
      | other => exact absurd hk notOther
      | openParenthesis => exact Or.inl rfl
      | closeParenthesis => exact Or.inr (Or.inl rfl)
      | comma => exact Or.inr (Or.inr rfl)

end

theorem keeps_parseAll {inv : σ → Prop} (stable : Stable inv)
    (registry : Registry) : Keeps inv (parseAll registry) := by
  refine keeps_bind (keeps_state_bind fun s => ?_) fun call => ?_
  · exact Registry.keeps_parseCall stable registry
      (keeps_expression stable registry _)
  · refine keeps_state_bind fun s => ?_
    split
    · exact keeps_pure _
    · exact keeps_fail _

theorem located_of_parse_fails {input : String} {e : Error}
    (h : (parse registry input).result = .error e) :
    Located registry input (parse registry input).state.remaining e := by
  have whole : (parse registry input).state.toList = lex input :=
    keeps_parseAll (stable_toList (lex input)) registry
      (Token.Cursor.ofList (lex input)) rfl
  have failed : (parseAll registry).Fails (Token.Cursor.ofList (lex input)) e
      (parse registry input).state := ⟨h, rfl⟩
  generalize (parse registry input).state = s at whole failed
  rcases fails_bind.mp failed with failed | ⟨call, s₁, read, failed⟩
  · rcases refusal_of_parseCall_fails failed with
      ⟨c, split, refusal⟩ | ⟨t, hp, hk, free, rfl⟩
    · exact located_of_refusal whole split refusal
    · exact ⟨⟨rfl, rfl⟩, t, hp, hk, rfl, free⟩
  · rw [fails_state_bind] at failed
    cases hp : peek s₁ with
    | none =>
        rw [hp] at failed
        exact absurd failed fails_pure
    | some t =>
        rw [hp] at failed
        obtain ⟨he, rfl⟩ := failed
        obtain rfl := Except.error.inj he
        obtain ⟨c, derives, split⟩ :=
          (reads_query registry _ call _).mp ⟨_, read, rfl⟩
        have split : lex input = c ++ s₁.remaining := split
        have next : s₁.remaining.head? = some t := hp
        refine ⟨reports_trailingInput t, c, call, split, derives, next,
          spelledAt_of_mem_lex ?_⟩
        obtain ⟨rest, hr⟩ := List.head?_eq_some_iff.mp next
        rw [split, hr]
        exact List.mem_append_right c List.mem_cons_self

/-- An input that starts with an unknown name is refused for that, whatever
follows. -/
theorem parse_of_unknown {input : String} {t : Token} {rest : List Token}
    (tokens : lex input = t :: rest) (isName : t.kind = .identifier)
    (free : registry.get? t.text = none) :
    (parse registry input).result = .error (.unknownFunction t.text) := by
  have ahead : registry.definitionAhead.Fails (Token.Cursor.ofList (lex input))
      (.unknownFunction t.text) (Token.Cursor.ofList (lex input)) := by
    rw [tokens]
    exact registry.fails_definitionAhead.mpr
      ⟨Or.inr ⟨t, rfl, isName, free, rfl⟩, rfl⟩
  have failed : (parseAll registry).Fails (Token.Cursor.ofList (lex input))
      (.unknownFunction t.text) (Token.Cursor.ofList (lex input)) :=
    fails_bind.mpr (Or.inl (registry.fails_parseCall.mpr (Or.inl ahead)))
  exact failed.1

/-- Whatever is wrong with an input, the error points at the place and its
message names it: a wrong token, or the end where one is missing; the token behind
a call that is complete; the parenthesis or comma where an argument has to start;
and the name that is unknown, which is the first token and no other. -/
theorem diagnostics_point_into_input (registry : Registry) (input : String) :
    (∀ e, (parse registry input).result = .error e →
      Located registry input (parse registry input).state.remaining e) ∧
    (∀ name, (parse registry input).result = .error (.unknownFunction name) ↔
      ∃ t rest, lex input = t :: rest ∧ t.kind = .identifier ∧ t.text = name ∧
        registry.get? name = none) := by
  refine ⟨fun e => located_of_parse_fails, fun name => ⟨fun h => ?_, ?_⟩⟩
  · obtain ⟨-, t, head, facts⟩ := located_of_parse_fails h
    obtain ⟨rest, tokens⟩ := List.head?_eq_some_iff.mp head
    exact ⟨t, rest, tokens, facts⟩
  · rintro ⟨t, rest, tokens, isName, rfl, free⟩
    exact parse_of_unknown tokens isName free

/-- A comma is missing behind a text that is longer in bytes than in
characters. -/
def uncommonText : String :=
  "st_distance('\u00e9' b)"

theorem uncommon_text_is_located :
    (parse distanceOnly uncommonText).result =
        .error (.unexpectedToken .comma (.token ⟨.identifier, "b", 17⟩)) ∧
      (Error.unexpectedToken .comma (.token ⟨.identifier, "b", 17⟩)).message =
        "syntax error at position 17: expected ',', got 'b'" ∧
      (∃ t ∈ lex uncommonText, t = ⟨.identifier, "b", 17⟩ ∧
        SpelledAt uncommonText 17 t.text) ∧
      ∀ name, (parse distanceOnly uncommonText).result ≠
        .error (.unknownFunction name) := by
  have failed : (parse distanceOnly uncommonText).result =
      .error (.unexpectedToken .comma (.token ⟨.identifier, "b", 17⟩)) := by
    -- calls cannot be compared, so the call is left out of the comparison
    have refused : (parse distanceOnly uncommonText).result.map (fun _ => ()) =
        .error (.unexpectedToken .comma (.token ⟨.identifier, "b", 17⟩)) := by
      decide +kernel
    cases ended : (parse distanceOnly uncommonText).result with
    | error e =>
        rw [ended] at refused
        exact congrArg Except.error (Except.error.inj refused)
    | ok call =>
        rw [ended] at refused
        cases refused
  obtain ⟨located, -⟩ := diagnostics_point_into_input distanceOnly uncommonText
  obtain ⟨reported, place⟩ := located _ failed
  refine ⟨failed, reported.message_eq.trans (by decide), ?_, fun name h => ?_⟩
  · rcases place with ⟨label, -⟩ | ⟨t, member, next, -, -, spelled, -⟩
    · exact absurd label (by decide)
    · have unread : (parse distanceOnly uncommonText).state.remaining.head? =
          some ⟨.identifier, "b", 17⟩ := by decide +kernel
      obtain rfl := Option.some.inj (unread.symm.trans next)
      exact ⟨_, member, rfl, spelled⟩
  · rw [failed] at h
    cases h

end Query

end SpatialSql
