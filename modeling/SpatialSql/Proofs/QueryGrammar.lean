import SpatialSql.Proofs.CallGrammar
import SpatialSql.Proofs.ExprNodes
import SpatialSql.Proofs.NameTable

/-!
# The grammar of queries

`Derives` is the grammar of nested calls over lists of tokens. It does not
mention sources, counts or lookahead: a call is a registered name, an opening
parenthesis, expressions with commas between them and a closing parenthesis,
and anything else is one token.

The reader and the grammar are tied together by `Reads`, which speaks of one
source: what the reader can yield there, and with what left, is exactly what
the grammar finds at the head of its tokens. Said that way it composes. A
reader of calls reads calls wherever its reader of arguments reads arguments,
and since arguments stand behind at least two tokens of their call, induction
on the number of tokens closes the knot that ties calls to expressions.

The reader is a function, so the grammar is unambiguous, and more: of two
derivations at the head of one list neither is a proper part of the other.
-/

namespace SpatialSql

open SpatialSql.Action TokenSource

variable {σ E : Type} [TokenSource σ]

/-- Items with commas between them, at least one. -/
inductive Separated (item : List Token → E → Prop) : List Token → List E → Prop
  | one {ts : List Token} {e : E} (head : item ts e) : Separated item ts [e]
  | more {ts rest : List Token} {comma : Token} {e : E} {es : List E}
      (head : item ts e) (kind : comma.kind = .comma)
      (others : Separated item rest es) :
      Separated item (ts ++ comma :: rest) (e :: es)

theorem Separated.ne_nil {item : List Token → E → Prop} {ts : List Token}
    {es : List E} (h : Separated item ts es) : es ≠ [] := by
  cases h with
  | one head => exact List.cons_ne_nil _ _
  | more head kind others => exact List.cons_ne_nil _ _

theorem Separated.imp {item item' : List Token → E → Prop}
    (hi : ∀ ts e, item ts e → item' ts e) {ts : List Token} {es : List E}
    (h : Separated item ts es) : Separated item' ts es := by
  induction h with
  | one head => exact .one (hi _ _ head)
  | more head kind _ ih => exact .more (hi _ _ head) kind ih

theorem Separated.exists_of_mem {item : List Token → E → Prop}
    {ts : List Token} {es : List E} (h : Separated item ts es) :
    ∀ e ∈ es, ∃ ts', item ts' e := by
  induction h with
  | one head =>
      intro e he
      obtain rfl := List.mem_singleton.mp he
      exact ⟨_, head⟩
  | more head _ _ ih =>
      intro e he
      rcases List.mem_cons.mp he with rfl | he
      · exact ⟨_, head⟩
      · exact ih e he

/-- The tokens of a call: name, opening parenthesis, arguments, closing
parenthesis, and a number of arguments that is admitted. -/
inductive CallTokens (definition : Definition) (item : List Token → E → Prop) :
    List Token → List E → Prop
  | mk {name opening closing : Token} {ts : List Token} {es : List E}
      (isName : name.kind = .identifier)
      (isOpening : opening.kind = .openParenthesis)
      (arguments : Separated item ts es) (isClosing : closing.kind = .closeParenthesis)
      (admits : definition.arity.Admits es.length) :
      CallTokens definition item (name :: opening :: (ts ++ [closing])) es

/-- At `s` the reader does what the grammar says: the values it can yield and
the tokens it can leave are those of a derivation at the head of the tokens. -/
def Reads (reader : Action σ E) (grammar : List Token → E → Prop) (s : σ) : Prop :=
  ∀ e rest, (∃ s', reader.Yields s e s' ∧ remaining s' = rest) ↔
    ∃ ts, grammar ts e ∧ remaining s = ts ++ rest

theorem takes_of_cons {s : σ} {t : Token} {rest : List Token}
    (h : remaining s = t :: rest) :
    Takes t.kind s (advance s) ∧ remaining (advance s) = rest := by
  have hr : remaining (advance s) = rest := by rw [remaining_advance, h]; rfl
  exact ⟨⟨⟨t, rfl, by rw [hr]; exact h⟩, rfl⟩, hr⟩

/-! ## Arguments and calls -/

section

variable {argument : Action σ E} {item : List Token → E → Prop} {n : Nat}

theorem separated_of_further (forward : Forward argument)
    (reads : ∀ s, (remaining s).length ≤ n → Reads argument item s)
    {s s' : σ} {es : List E} (h : Call.Further argument s es s') :
    (remaining s).length ≤ n → ∀ {ts : List Token} {e : E}, item ts e →
      ∃ more, Separated item (ts ++ more) (e :: es) ∧
        remaining s = more ++ remaining s' := by
  induction h with
  | done =>
      intro _ ts e head
      refine ⟨[], ?_, rfl⟩
      rw [List.append_nil]
      exact .one head
  | @more s s₁ s₂ s' e₁ es comma read _ ih =>
      intro hn ts e head
      have hl := comma.length
      have hl₁ := (forward.yields read).length_le
      obtain ⟨⟨c, kind, hc⟩, -⟩ := comma
      obtain ⟨ts₁, head₁, h₁⟩ :=
        (reads s₁ (by omega) e₁ (remaining s₂)).mp ⟨s₂, read, rfl⟩
      obtain ⟨more, others, h₂⟩ := ih (by omega) head₁
      refine ⟨c :: (ts₁ ++ more), .more head kind others, ?_⟩
      rw [hc, h₁, h₂, List.cons_append, List.append_assoc]

theorem separated_of_arguments (forward : Forward argument)
    (reads : ∀ s, (remaining s).length ≤ n → Reads argument item s)
    {s s' : σ} {es : List E} (hn : (remaining s).length ≤ n)
    (h : Call.Arguments argument s es s') :
    ∃ ts, Separated item ts es ∧ remaining s = ts ++ remaining s' := by
  obtain ⟨read, rest⟩ := h
  have hl := (forward.yields read).length_le
  obtain ⟨ts, head, h₁⟩ := (reads s hn _ _).mp ⟨_, read, rfl⟩
  obtain ⟨more, others, h₂⟩ := separated_of_further forward reads rest (by omega) head
  refine ⟨ts ++ more, others, ?_⟩
  rw [h₁, h₂, List.append_assoc]

theorem arguments_of_separated
    (reads : ∀ s, (remaining s).length ≤ n → Reads argument item s)
    {ts : List Token} {es : List E} (h : Separated item ts es) :
    ∀ {s : σ} {rest : List Token}, (remaining s).length ≤ n →
      remaining s = ts ++ rest →
      ∃ s', Call.Arguments argument s es s' ∧ remaining s' = rest := by
  induction h with
  | one head =>
      intro s rest hn hs
      obtain ⟨s', read, hr⟩ := (reads s hn _ rest).mpr ⟨_, head, hs⟩
      exact ⟨s', .mk read .done, hr⟩
  | @more ts rest₁ comma e es head kind _ ih =>
      intro s rest hn hs
      rw [List.append_assoc, List.cons_append] at hs
      obtain ⟨s₁, read, h₁⟩ := (reads s hn _ _).mpr ⟨_, head, hs⟩
      obtain ⟨takes, h₂⟩ := takes_of_cons h₁
      rw [kind] at takes
      have hl : (remaining (advance s₁)).length ≤ n := by
        rw [h₂]
        rw [hs, List.length_append, List.length_cons] at hn
        omega
      obtain ⟨s', arguments, hr⟩ := ih hl h₂
      obtain ⟨read', rest'⟩ := arguments
      exact ⟨s', .mk read (.more takes read' rest'), hr⟩

/-- A reader of calls reads calls where its reader of arguments reads
arguments. -/
theorem reads_parse (forward : Forward argument) {s : σ}
    (reads : ∀ s', (remaining s').length < (remaining s).length →
      Reads argument item s') (definition : Definition) :
    Reads (Call.parse definition argument)
      (fun ts call => call.definition = definition ∧
        CallTokens definition item ts call.arguments) s := by
  intro call rest
  constructor
  · rintro ⟨s', h, rfl⟩
    obtain ⟨hd, s₁, s₂, opens, arguments, close, admits⟩ :=
      (Call.parse_yields_iff_spells forward).mp h
    have hl := opens.length
    obtain ⟨ts, separated, h₁⟩ :=
      separated_of_arguments (n := (remaining s₁).length) forward
        (fun s' hs' => reads s' (by omega)) (Nat.le_refl _) arguments
    obtain ⟨_, ⟨⟨name, isName, hname⟩, -⟩, ⟨opening, isOpening, hopening⟩, -⟩ := opens
    obtain ⟨⟨closing, isClosing, hclosing⟩, -⟩ := close
    refine ⟨name :: opening :: (ts ++ [closing]),
      ⟨hd, .mk isName isOpening separated isClosing admits⟩, ?_⟩
    rw [hname, hopening, h₁, hclosing]
    simp
  · rintro ⟨_, ⟨hd, tokens⟩, hs⟩
    obtain @⟨name, opening, closing, ts, _, isName, isOpening, separated,
      isClosing, admits⟩ := tokens
    rw [List.cons_append, List.cons_append, List.append_assoc,
      List.singleton_append] at hs
    obtain ⟨takesName, h₁⟩ := takes_of_cons hs
    obtain ⟨takesOpening, h₂⟩ := takes_of_cons h₁
    have opens : Call.Opens s (advance (advance s)) :=
      ⟨advance s, isName ▸ takesName, isOpening ▸ takesOpening⟩
    have hl := opens.length
    obtain ⟨s₃, arguments, h₃⟩ :=
      arguments_of_separated (n := (remaining (advance (advance s))).length)
        (fun s' hs' => reads s' (by omega)) separated (Nat.le_refl _) h₂
    obtain ⟨takesClosing, h₄⟩ := takes_of_cons h₃
    exact ⟨advance s₃, (Call.parse_yields_iff_spells forward).mpr
      ⟨hd, advance (advance s), s₃, opens, arguments, isClosing ▸ takesClosing,
        admits⟩, h₄⟩

end

end SpatialSql

namespace SpatialSql.Registry

open SpatialSql.Action TokenSource

variable {σ E : Type} [TokenSource σ]

/-! ## The first token decides -/

theorem yields_definitionAhead (registry : Registry) {s s' : σ}
    {definition : Definition} :
    registry.definitionAhead.Yields s definition s' ↔
      (∃ t, peek s = some t ∧ t.kind = .identifier ∧
        registry.get? t.text = some definition) ∧ s' = s := by
  cases hp : peek s with
  | none =>
      rw [Yields, definitionAhead, state_bind, hp]
      constructor
      · rintro ⟨hr, -⟩
        cases hr
      · rintro ⟨⟨t, ht, -⟩, -⟩
        cases ht
  | some t =>
      rw [Yields, registry.definitionAhead_eq hp]
      constructor
      · intro h
        split at h
        · next hk =>
            split at h
            · next hg =>
                obtain ⟨hr, hs⟩ := h
                rw [← Except.ok.inj hr]
                exact ⟨⟨t, rfl, hk, hg⟩, hs.symm⟩
            · cases h.1
        · cases h.1
      · rintro ⟨⟨u, hu, hk, hg⟩, rfl⟩
        obtain rfl := Option.some.inj hu
        rw [if_pos hk, hg]
        exact ⟨rfl, rfl⟩

/-- The head of the tokens is no name, or a name that is not registered. -/
theorem fails_definitionAhead (registry : Registry) {s s' : σ} {e : Error} :
    registry.definitionAhead.Fails s e s' ↔
      ((atKind .identifier s = false ∧
          e = .unexpectedToken .identifier (found s)) ∨
        ∃ t, peek s = some t ∧ t.kind = .identifier ∧
          registry.get? t.text = none ∧ e = .unknownFunction t.text) ∧
      s' = s := by
  cases hp : peek s with
  | none =>
      have hk : atKind .identifier s = false := by rw [atKind, hp]; rfl
      rw [Fails, definitionAhead, state_bind, hp, hk]
      constructor
      · rintro ⟨he, hs⟩
        exact ⟨Or.inl ⟨rfl, (Except.error.inj he).symm⟩, hs.symm⟩
      · rintro ⟨⟨-, rfl⟩ | ⟨t, ht, -⟩, rfl⟩
        · exact ⟨rfl, rfl⟩
        · cases ht
  | some t =>
      have hf : found s = .token t := by rw [found, hp]
      rw [Fails, registry.definitionAhead_eq hp, hf, atKind, hp]
      by_cases hk : t.kind = .identifier
      · rw [if_pos hk]
        cases hg : registry.get? t.text with
        | some definition => simp [hk, hg]
        | none => simp [hk, hg, eq_comm]
      · rw [if_neg hk]
        constructor
        · rintro ⟨he, hs⟩
          exact ⟨Or.inl ⟨by simpa using hk, (Except.error.inj he).symm⟩, hs.symm⟩
        · rintro ⟨⟨-, rfl⟩ | ⟨u, hu, hk', -⟩, rfl⟩
          · exact ⟨rfl, rfl⟩
          · exact absurd (Option.some.inj hu ▸ hk') hk

theorem yields_parseCall (registry : Registry) {argument : Action σ E}
    {s s' : σ} {call : Call E} :
    (registry.parseCall argument).Yields s call s' ↔
      ∃ t, peek s = some t ∧ t.kind = .identifier ∧
        ∃ definition, registry.get? t.text = some definition ∧
          (Call.parse definition argument).Yields s call s' := by
  rw [parseCall, yields_bind]
  constructor
  · rintro ⟨definition, s₁, ahead, h⟩
    obtain ⟨⟨t, hp, hk, hg⟩, rfl⟩ := registry.yields_definitionAhead.mp ahead
    exact ⟨t, hp, hk, definition, hg, h⟩
  · rintro ⟨t, hp, hk, definition, hg, h⟩
    exact ⟨definition, s,
      registry.yields_definitionAhead.mpr ⟨⟨t, hp, hk, hg⟩, rfl⟩, h⟩

theorem fails_parseCall (registry : Registry) {argument : Action σ E}
    {s s' : σ} {e : Error} :
    (registry.parseCall argument).Fails s e s' ↔
      registry.definitionAhead.Fails s e s' ∨
        ∃ t definition, peek s = some t ∧ t.kind = .identifier ∧
          registry.get? t.text = some definition ∧
          (Call.parse definition argument).Fails s e s' := by
  rw [parseCall, fails_bind]
  refine or_congr_right ⟨?_, ?_⟩
  · rintro ⟨definition, s₁, ahead, hf⟩
    obtain ⟨⟨t, hp, hk, hg⟩, rfl⟩ := registry.yields_definitionAhead.mp ahead
    exact ⟨t, definition, hp, hk, hg, hf⟩
  · rintro ⟨t, definition, hp, hk, hg, hf⟩
    exact ⟨definition, s,
      registry.yields_definitionAhead.mpr ⟨⟨t, hp, hk, hg⟩, rfl⟩, hf⟩

/-- Before a registered name only the call itself can go wrong. -/
theorem fails_parseCall_at (registry : Registry) {argument : Action σ E}
    {s s' : σ} {e : Error} {t : Token} {definition : Definition}
    (hp : peek s = some t) (hk : t.kind = .identifier)
    (hg : registry.get? t.text = some definition)
    (h : (registry.parseCall argument).Fails s e s') :
    (Call.parse definition argument).Fails s e s' := by
  have ahead := registry.yields_definitionAhead.mpr ⟨⟨t, hp, hk, hg⟩, rfl⟩
  rcases fails_bind.mp h with hf | ⟨definition', s₁, ahead', hf⟩
  · exact absurd hf ahead.not_fails
  · obtain ⟨rfl, rfl⟩ := ahead.unique ahead'
    exact hf

end SpatialSql.Registry

namespace SpatialSql.Query

open SpatialSql.Action TokenSource

variable {σ : Type} [TokenSource σ]

/-- A round at a token, by the kind of the token. -/
theorem expressionWith_at (registry : Registry) (nested : Action σ Expr)
    {s : σ} {t : Token} (hp : peek s = some t) :
    expressionWith registry nested s =
      match t.kind with
      | .identifier =>
        if registry.contains t.text then
          (Expr.ofCall <$> registry.parseCall nested) s
        else ⟨.ok (.path t.text), advance s, []⟩
      | .other => ⟨.ok (.ofOther t.text), advance s, []⟩
      | _ => ⟨.error (.notAnExpression t.text), s, []⟩ := by
  obtain ⟨kind, text, position⟩ := t
  rw [expressionWith, state_bind, hp]
  cases kind with
  | identifier =>
      simp only []
      split
      · rfl
      · rfl
  | openParenthesis | closeParenthesis | comma | other => rfl

theorem yields_expressionWith (registry : Registry) {nested : Action σ Expr}
    {s s' : σ} {e : Expr} :
    (expressionWith registry nested).Yields s e s' ↔
      ∃ t, peek s = some t ∧
        ((t.kind = .identifier ∧ registry.contains t.text = true ∧
            ∃ call, (registry.parseCall nested).Yields s call s' ∧
              e = .ofCall call) ∨
          (t.kind = .identifier ∧ registry.contains t.text = false ∧
            e = .path t.text ∧ s' = advance s) ∨
          (t.kind = .other ∧ e = .ofOther t.text ∧ s' = advance s)) := by
  cases hp : peek s with
  | none =>
      rw [Yields, expressionWith_at_end registry (peek_eq_none.mp hp)]
      constructor
      · rintro ⟨hr, -⟩
        cases hr
      · rintro ⟨t, ht, -⟩
        cases ht
  | some t =>
      rw [Yields, expressionWith_at registry nested hp]
      constructor
      · intro h
        refine ⟨t, rfl, ?_⟩
        split at h
        · next hk =>
            split at h
            · next hc =>
                exact Or.inl ⟨hk, hc, yields_map.mp h⟩
            · next hc =>
                exact Or.inr (Or.inl ⟨hk, by simpa using hc,
                  (Except.ok.inj h.1).symm, h.2.symm⟩)
        · next hk =>
            exact Or.inr (Or.inr ⟨hk, (Except.ok.inj h.1).symm, h.2.symm⟩)
        · cases h.1
      · rintro ⟨u, hu, h⟩
        obtain rfl := Option.some.inj hu
        rcases h with ⟨hk, hc, h⟩ | ⟨hk, hc, rfl, rfl⟩ | ⟨hk, rfl, rfl⟩
        · rw [hk, if_pos hc]
          exact yields_map.mpr h
        · rw [hk, hc]
          exact ⟨rfl, rfl⟩
        · rw [hk]
          exact ⟨rfl, rfl⟩

/-- No expression starts at the head of the tokens, or the call of a registered
name goes wrong. -/
theorem fails_expressionWith (registry : Registry) {nested : Action σ Expr}
    {s s' : σ} {e : Error} (h : (expressionWith registry nested).Fails s e s') :
    ((remaining s = [] ∧ e = .missingExpression) ∨
        ∃ t, peek s = some t ∧ t.kind ≠ .identifier ∧ t.kind ≠ .other ∧
          e = .notAnExpression t.text) ∧ s' = s ∨
      ∃ t definition, peek s = some t ∧ t.kind = .identifier ∧
        registry.get? t.text = some definition ∧
        (Call.parse definition nested).Fails s e s' := by
  cases hp : peek s with
  | none =>
      have ended := peek_eq_none.mp hp
      rw [Fails, expressionWith_at_end registry ended] at h
      exact Or.inl ⟨Or.inl ⟨ended, (Except.error.inj h.1).symm⟩, h.2.symm⟩
  | some t =>
      rw [Fails, expressionWith_at registry nested hp] at h
      split at h
      · next hk =>
          split at h
          · next hc =>
              obtain ⟨definition, hg⟩ := Registry.contains_iff.mp hc
              exact Or.inr ⟨t, definition, rfl, hk, hg,
                registry.fails_parseCall_at hp hk hg (fails_map.mp h)⟩
          · cases h.1
      · cases h.1
      · next hi ho =>
          exact Or.inl ⟨Or.inr ⟨t, rfl, hi, ho, (Except.error.inj h.1).symm⟩,
            h.2.symm⟩

/-! ## The grammar -/

/-- The tokens are an expression of a query over this registry. -/
inductive Derives (registry : Registry) : List Token → Expr → Prop
  | path {t : Token} (kind : t.kind = .identifier)
      (free : registry.get? t.text = none) : Derives registry [t] (.path t.text)
  | text {t : Token} {cs : List Char} (kind : t.kind = .other)
      (quoted : t.text.toList = quoteMark :: cs) :
      Derives registry [t] (.text t.text)
  | parameter {t : Token} {cs : List Char} (kind : t.kind = .other)
      (colon : t.text.toList = ':' :: cs) :
      Derives registry [t] (.parameter (String.ofList cs))
  | number {t : Token} (kind : t.kind = .other)
      (unquoted : t.text.toList.head? ≠ some quoteMark)
      (noColon : t.text.toList.head? ≠ some ':') :
      Derives registry [t] (.number t.text)
  | call {name opening closing : Token} {ts : List Token}
      {definition : Definition} {es : List Expr}
      (isName : name.kind = .identifier)
      (registered : registry.get? name.text = some definition)
      (isOpening : opening.kind = .openParenthesis)
      (arguments : Separated (Derives registry) ts es)
      (isClosing : closing.kind = .closeParenthesis)
      (admits : definition.arity.Admits es.length) :
      Derives registry (name :: opening :: (ts ++ [closing]))
        (.call definition es)

/-- Induction over derivations, in which the arguments of a call bring their
derivations along. -/
@[elab_as_elim]
theorem Derives.induct {registry : Registry}
    {motive : ∀ ts e, Derives registry ts e → Prop}
    (path : ∀ (t : Token) kind free, motive [t] (.path t.text) (.path kind free))
    (text : ∀ (t : Token) cs kind quoted,
      motive [t] (.text t.text) (@Derives.text registry t cs kind quoted))
    (parameter : ∀ (t : Token) cs kind colon,
      motive [t] (.parameter (String.ofList cs)) (.parameter kind colon))
    (number : ∀ (t : Token) kind unquoted noColon,
      motive [t] (.number t.text) (.number kind unquoted noColon))
    (call : ∀ (name opening closing : Token) ts definition es isName registered
      isOpening arguments isClosing admits,
      Separated (fun ts e => ∃ h, motive ts e h) ts es →
      motive (name :: opening :: (ts ++ [closing])) (.call definition es)
        (.call isName registered isOpening arguments isClosing admits))
    {ts : List Token} {e : Expr} (h : Derives registry ts e) : motive ts e h :=
  @Derives.rec registry motive
    (fun ts es _ => Separated (fun ts e => ∃ h, motive ts e h) ts es)
    (fun kind free => path _ kind free)
    (fun kind quoted => text _ _ kind quoted)
    (fun kind colon => parameter _ _ kind colon)
    (fun kind unquoted noColon => number _ kind unquoted noColon)
    (fun isName registered isOpening arguments isClosing admits =>
      call _ _ _ _ _ _ isName registered isOpening arguments isClosing admits)
    (fun head ih => .one ⟨head, ih⟩)
    (fun head kind _ ih => .more ⟨head, ih⟩ kind)
    ts e h

theorem derives_other_iff (registry : Registry) {t : Token} {e : Expr}
    (kind : t.kind = .other) : Derives registry [t] e ↔ e = .ofOther t.text := by
  constructor
  · intro h
    unfold Expr.ofOther
    cases h with
    | path identifier _ => rw [kind] at identifier; cases identifier
    | text _ quoted => rw [quoted]; rfl
    | parameter _ colon => rw [colon]; rfl
    | number _ unquoted noColon =>
        split
        · next h => rw [h] at unquoted; exact absurd rfl unquoted
        · next h => rw [h] at noColon; exact absurd rfl noColon
        · rfl
  · rintro rfl
    unfold Expr.ofOther
    split
    · next h => exact .text kind h
    · next h => exact .parameter kind h
    · next hq hc =>
        refine .number kind (fun h => ?_) (fun h => ?_)
        · obtain ⟨cs, h⟩ := List.head?_eq_some_iff.mp h
          exact hq cs h
        · obtain ⟨cs, h⟩ := List.head?_eq_some_iff.mp h
          exact hc cs h

theorem derives_ofCall_iff {registry : Registry} {ts : List Token}
    {call : Call Expr} :
    Derives registry ts (.ofCall call) ↔
      (∃ t, ts.head? = some t ∧ t.kind = .identifier ∧
        registry.get? t.text = some call.definition) ∧
      CallTokens call.definition (Derives registry) ts call.arguments := by
  constructor
  · obtain ⟨definition, es⟩ := call
    intro h
    cases h with
    | call isName registered isOpening arguments isClosing admits =>
        exact ⟨⟨_, rfl, isName, registered⟩,
          .mk isName isOpening arguments isClosing admits⟩
  · rintro ⟨⟨t, ht, -, registered⟩, ⟨isName, isOpening, arguments, isClosing, admits⟩⟩
    obtain rfl := Option.some.inj ht
    exact .call isName registered isOpening arguments isClosing admits

/-- What an expression that is no call can be: a single token. -/
theorem derives_cases {registry : Registry} {ts : List Token} {e : Expr}
    (h : Derives registry ts e) :
    (∃ t, ts = [t] ∧ t.kind = .identifier ∧ registry.get? t.text = none ∧
        e = .path t.text) ∨
      (∃ t, ts = [t] ∧ t.kind = .other ∧ e = .ofOther t.text) ∨
      ∃ call, e = .ofCall call := by
  cases h with
  | path kind free => exact Or.inl ⟨_, rfl, kind, free, rfl⟩
  | text kind quoted =>
      exact Or.inr (Or.inl ⟨_, rfl, kind,
        (derives_other_iff registry kind).mp (.text kind quoted)⟩)
  | parameter kind colon =>
      exact Or.inr (Or.inl ⟨_, rfl, kind,
        (derives_other_iff registry kind).mp (.parameter kind colon)⟩)
  | number kind unquoted noColon =>
      exact Or.inr (Or.inl ⟨_, rfl, kind,
        (derives_other_iff registry kind).mp (.number kind unquoted noColon)⟩)
  | @call _ _ _ _ definition es => exact Or.inr (Or.inr ⟨⟨definition, es⟩, rfl⟩)

/-! ## The reader reads the grammar -/

theorem reads_parseCall (registry : Registry) {nested : Action σ Expr}
    (forward : Forward nested) {s : σ}
    (reads : ∀ s', (remaining s').length < (remaining s).length →
      Reads nested (Derives registry) s') :
    Reads (registry.parseCall nested)
      (fun ts call => Derives registry ts (.ofCall call)) s := by
  intro call rest
  constructor
  · rintro ⟨s', h, rfl⟩
    obtain ⟨t, hp, hk, definition, hg, h⟩ := registry.yields_parseCall.mp h
    obtain ⟨ts, ⟨rfl, tokens⟩, hs⟩ :=
      (reads_parse forward reads definition _ _).mp ⟨s', h, rfl⟩
    refine ⟨ts, derives_ofCall_iff.mpr ⟨⟨t, ?_, hk, hg⟩, tokens⟩, hs⟩
    rw [peek, hs] at hp
    obtain ⟨-, -, -, -, -⟩ := tokens
    exact hp
  · rintro ⟨ts, h, hs⟩
    obtain ⟨⟨t, ht, hk, hg⟩, tokens⟩ := derives_ofCall_iff.mp h
    obtain ⟨s', h, hr⟩ :=
      (reads_parse forward reads call.definition _ rest).mpr
        ⟨ts, ⟨rfl, tokens⟩, hs⟩
    refine ⟨s', registry.yields_parseCall.mpr ⟨t, ?_, hk, _, hg, h⟩, hr⟩
    obtain ⟨more, rfl⟩ := List.head?_eq_some_iff.mp ht
    exact peek_eq_some.mpr ⟨_, hs⟩

theorem reads_readExpression_of_lt (registry : Registry) :
    ∀ {n : Nat} {s : σ}, (remaining s).length < n →
      Reads (readExpression registry) (Derives registry) s := by
  intro n
  induction n with
  | zero => intro s hs; omega
  | succ n ih =>
      intro s hs e rest
      have reads := reads_parseCall registry
        (forward_readExpression registry) (s := s)
        fun s' hs' => ih (by omega)
      rw [readExpression_eq]
      constructor
      · rintro ⟨s', h, rfl⟩
        obtain ⟨t, hp, hcases⟩ := (yields_expressionWith registry).mp h
        obtain ⟨more, hr⟩ := peek_eq_some.mp hp
        rcases hcases with
          ⟨-, -, call, hy, rfl⟩ | ⟨hk, hc, rfl, rfl⟩ | ⟨hk, rfl, rfl⟩
        · exact (reads call (remaining s')).mp ⟨s', hy, rfl⟩
        · refine ⟨[t], .path hk (Registry.not_contains_iff.mp hc), ?_⟩
          rw [(takes_of_cons hr).2]
          exact hr
        · refine ⟨[t], (derives_other_iff registry hk).mpr rfl, ?_⟩
          rw [(takes_of_cons hr).2]
          exact hr
      · rintro ⟨ts, h, hr⟩
        rcases derives_cases h with
          ⟨t, rfl, hk, hg, rfl⟩ | ⟨t, rfl, hk, rfl⟩ | ⟨call, rfl⟩
        · refine ⟨advance s, ?_, (takes_of_cons hr).2⟩
          exact (yields_expressionWith registry).mpr ⟨t, peek_eq_some.mpr ⟨rest, hr⟩,
            Or.inr (Or.inl ⟨hk, Registry.not_contains_iff.mpr hg, rfl, rfl⟩)⟩
        · refine ⟨advance s, ?_, (takes_of_cons hr).2⟩
          exact (yields_expressionWith registry).mpr ⟨t, peek_eq_some.mpr ⟨rest, hr⟩,
            Or.inr (Or.inr ⟨hk, rfl, rfl⟩)⟩
        · obtain ⟨s', hy, hl⟩ := (reads call rest).mpr ⟨ts, h, hr⟩
          obtain ⟨⟨t, ht, hk, hg⟩, -⟩ := derives_ofCall_iff.mp h
          obtain ⟨more, rfl⟩ := List.head?_eq_some_iff.mp ht
          refine ⟨s', (yields_expressionWith registry).mpr
            ⟨t, peek_eq_some.mpr ⟨_, hr⟩, Or.inl ⟨hk, ?_, call, hy, rfl⟩⟩, hl⟩
          exact Registry.contains_iff.mpr ⟨_, hg⟩

theorem reads_readExpression (registry : Registry) (s : σ) :
    Reads (readExpression registry) (Derives registry) s :=
  reads_readExpression_of_lt registry (Nat.lt_succ_self _)

/-- The reader of queries reads calls of the grammar. -/
theorem reads_query (registry : Registry) (s : σ) :
    Reads (parseCall registry)
      (fun ts call => Derives registry ts (.ofCall call)) s := by
  rw [parseCall_eq]
  exact reads_parseCall registry (forward_readExpression registry)
    fun s' _ => reads_readExpression registry s'

theorem parseAll_yields_iff (registry : Registry) {s : σ} {call : Call Expr} :
    (∃ s', (parseAll registry).Yields s call s') ↔
      Derives registry (remaining s) (.ofCall call) := by
  have reads := reads_query registry s call []
  constructor
  · rintro ⟨s', h⟩
    obtain ⟨call', s₁, hy, h⟩ := yields_bind.mp h
    rw [yields_state_bind] at h
    split at h
    · next hp =>
        obtain ⟨rfl, rfl⟩ := yields_pure.mp h
        obtain ⟨ts, derives, hs⟩ := reads.mp ⟨_, hy, peek_eq_none.mp hp⟩
        rw [hs, List.append_nil]
        exact derives
    · exact absurd h yields_fail
  · intro derives
    obtain ⟨s', hy, hr⟩ := reads.mpr ⟨_, derives, (List.append_nil _).symm⟩
    refine ⟨s', yields_bind.mpr ⟨call, s', hy, ?_⟩⟩
    rw [yields_state_bind, peek_eq_none.mpr hr]
    exact yields_pure.mpr ⟨rfl, rfl⟩

theorem parse_eq_ok_iff {registry : Registry} {input : String}
    {call : Call Expr} :
    (parse registry input).result = .ok call ↔
      Derives registry (lex input) (.ofCall call) := by
  have reads : (∃ s', (parseAll registry).Yields
      (Token.Cursor.ofList (lex input)) call s') ↔ _ :=
    parseAll_yields_iff registry
  exact Iff.trans ⟨fun h => ⟨_, h, rfl⟩, fun ⟨_, h⟩ => h.1⟩ reads

/-! ## One tree -/

/-- Two derivations at the head of one list are one. -/
theorem derives_prefix_unique {registry : Registry} {ts ts' rest rest' : List Token}
    {e e' : Expr} (h : Derives registry ts e) (h' : Derives registry ts' e')
    (heq : ts ++ rest = ts' ++ rest') : ts = ts' ∧ e = e' := by
  have reads :=
    reads_readExpression registry (Token.Cursor.ofList (ts ++ rest))
  obtain ⟨s₁, h₁, hr₁⟩ := (reads e rest).mpr ⟨ts, h, rfl⟩
  obtain ⟨s₂, h₂, hr₂⟩ := (reads e' rest').mpr ⟨ts', h', heq⟩
  obtain ⟨rfl, rfl⟩ := h₁.unique h₂
  rw [hr₁] at hr₂
  rw [hr₂] at heq
  exact ⟨List.append_cancel_right heq, rfl⟩

theorem derives_unique {registry : Registry} {ts : List Token} {e e' : Expr}
    (h : Derives registry ts e) (h' : Derives registry ts e') : e = e' :=
  (derives_prefix_unique h h' (rfl : ts ++ [] = ts ++ [])).2

/-- What the registry has to say of a single node: a path is no registered
name, and a call is of a registered function and has as many arguments as that
takes. -/
def Lawful (registry : Registry) : Expr → Prop
  | .path w => registry.contains w = false
  | .call definition arguments =>
    (∃ name, registry.get? name = some definition) ∧
      definition.arity.Admits arguments.length
  | _ => True

theorem derives_lawful {registry : Registry} {ts : List Token} {e : Expr}
    (h : Derives registry ts e) : ∀ node ∈ e.preorder, Lawful registry node := by
  induction h using Derives.induct with
  | path t kind free =>
      intro node hn
      obtain rfl := List.mem_singleton.mp hn
      exact Registry.not_contains_iff.mpr free
  | text t cs kind quoted =>
      intro node hn
      obtain rfl := List.mem_singleton.mp hn
      trivial
  | parameter t cs kind colon =>
      intro node hn
      obtain rfl := List.mem_singleton.mp hn
      trivial
  | number t kind unquoted noColon =>
      intro node hn
      obtain rfl := List.mem_singleton.mp hn
      trivial
  | call name opening closing ts definition es _ registered _ _ _ admits ih =>
      intro node hn
      rcases mem_preorder_call.mp hn with rfl | ⟨e, he, hn⟩
      · exact ⟨⟨name.text, registered⟩, admits⟩
      · obtain ⟨_, _, lawful⟩ := ih.exists_of_mem e he
        exact lawful node hn

/-- A query is accepted if and only if its tokens, all of them, derive the call
that is answered. A list of tokens derives one expression at most, and every
node of what is answered is lawful, at whatever depth it stands. -/
theorem parse_ok_iff_derives (registry : Registry) (input : String) :
    (∀ call, (parse registry input).result = .ok call ↔
      Derives registry (lex input) (.ofCall call)) ∧
    (∀ ts e e', Derives registry ts e → Derives registry ts e' → e = e') ∧
    (∀ call, (parse registry input).result = .ok call →
      ∀ node ∈ (Expr.ofCall call).preorder, Lawful registry node) := by
  have accepts := @parse_eq_ok_iff registry input
  exact ⟨fun _ => accepts, fun ts e e' => derives_unique,
    fun call h => derives_lawful (accepts.mp h)⟩

end SpatialSql.Query
