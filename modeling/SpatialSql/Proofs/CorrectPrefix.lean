import SpatialSql.Proofs.Lookahead
import SpatialSql.Proofs.NameTable
import SpatialSql.Proofs.QueryGrammar

/-!
# Errors stand at the first hopeless token

When a query is refused, the tokens that were read begin one that is accepted,
and with the next token they no longer do. The statement speaks of every
continuation of the input, so it has two halves of different kinds.

That the next token is hopeless needs no look at the grammar. The readers are
local, so on any list that goes on with the same token they stop at the same
place, and what stops with a token unread has not accepted.

That what was read could still be completed is where the grammar is needed. At
each place where reading a call can give up, the arguments read so far are
within the greatest number, so the call can be filled up to the least number
with whatever argument comes to mind and be closed. An argument that was being
read when the reader gave up is completed first, by induction, and the stack of
half-read calls is the stack of that induction.
-/

namespace SpatialSql

variable {E : Type} {item : List Token → E → Prop}

theorem Separated.snoc {ts ts' : List Token} {es : List E} {comma : Token}
    {e : E} (h : Separated item ts es) (kind : comma.kind = .comma)
    (last : item ts' e) :
    Separated item (ts ++ comma :: ts') (es ++ [e]) := by
  induction h with
  | one head => exact .more head kind (.one last)
  | more head kind' _ ih =>
      rw [List.append_assoc, List.cons_append]
      exact .more head kind' ih

/-- A list of items can be prolonged by any number of further ones. -/
theorem Separated.fill {ts ts' : List Token} {es : List E} {comma : Token}
    {e : E} (h : Separated item ts es) (kind : comma.kind = .comma)
    (last : item ts' e) (k : Nat) :
    ∃ more others, Separated item (ts ++ more) (es ++ others) ∧
      others.length = k := by
  induction k with
  | zero =>
      refine ⟨[], [], ?_, rfl⟩
      rw [List.append_nil, List.append_nil]
      exact h
  | succ k ih =>
      obtain ⟨more, others, filled, rfl⟩ := ih
      refine ⟨more ++ comma :: ts', others ++ [e], ?_, List.length_append⟩
      rw [← List.append_assoc, ← List.append_assoc]
      exact filled.snoc kind last

namespace Query

open SpatialSql.Action TokenSource

variable {σ : Type} [TokenSource σ] {registry : Registry}

/-! ## Completing what was read -/

/-- The tokens begin an expression. -/
def BeginsExpr (registry : Registry) (c : List Token) : Prop :=
  ∃ more e, Derives registry (c ++ more) e

/-- The tokens begin a call. -/
def BeginsCall (registry : Registry) (c : List Token) : Prop :=
  ∃ more call, Derives registry (c ++ more) (.ofCall call)

theorem BeginsCall.beginsExpr {c : List Token} (h : BeginsCall registry c) :
    BeginsExpr registry c := by
  obtain ⟨more, call, derives⟩ := h
  exact ⟨more, _, derives⟩

theorem beginsExpr_nil : BeginsExpr registry [] :=
  ⟨[⟨.other, "0", 0⟩], .number "0", .number rfl (by decide) (by decide)⟩

section

variable {name opening : Token} {definition : Definition}
  (isName : name.kind = .identifier)
  (registered : registry.get? name.text = some definition)
  (isOpening : opening.kind = .openParenthesis)

include isName registered isOpening

/-- Arguments that leave the greatest number unsurpassed begin a call. -/
theorem beginsCall_of_separated {ts : List Token} {es : List Expr}
    (arguments : Separated (Derives registry) ts es)
    (room : ∀ m, definition.arity.max = some m → es.length ≤ m) :
    BeginsCall registry (name :: opening :: ts) := by
  obtain ⟨_, e, filler⟩ := @beginsExpr_nil registry
  obtain ⟨more, others, filled, hk⟩ := arguments.fill
    (show (⟨.comma, ",", 0⟩ : Token).kind = .comma from rfl) filler
    (definition.arity.min - es.length)
  have admits : definition.arity.Admits (es ++ others).length := by
    rw [List.length_append, hk]
    refine ⟨by omega, fun m hm => ?_⟩
    have := room m hm
    have := definition.arity.min_le_max m hm
    omega
  refine ⟨more ++ [⟨.closeParenthesis, ")", 0⟩], ⟨definition, es ++ others⟩, ?_⟩
  rw [List.cons_append, List.cons_append, ← List.append_assoc]
  exact .call isName registered isOpening filled rfl admits

/-- A first argument that was begun begins a call. -/
theorem beginsCall_of_first {c : List Token} (h : BeginsExpr registry c) :
    BeginsCall registry (name :: opening :: c) := by
  obtain ⟨more, e, derives⟩ := h
  obtain ⟨more', call, h⟩ := beginsCall_of_separated isName registered isOpening
    (.one derives) fun m hm => Nat.le_trans definition.arity.min_pos
      (definition.arity.min_le_max m hm)
  refine ⟨more ++ more', call, ?_⟩
  rw [List.cons_append, List.cons_append, ← List.append_assoc]
  exact h

/-- A later argument that was begun begins a call, if there was room for it. -/
theorem beginsCall_of_later {ts c : List Token} {es : List Expr} {comma : Token}
    (arguments : Separated (Derives registry) ts es)
    (room : ∀ m, definition.arity.max = some m → es.length < m)
    (kind : comma.kind = .comma) (h : BeginsExpr registry c) :
    BeginsCall registry (name :: opening :: (ts ++ comma :: c)) := by
  obtain ⟨more, e, derives⟩ := h
  obtain ⟨more', call, h⟩ := beginsCall_of_separated isName registered isOpening
    (arguments.snoc kind derives) fun m hm => by
      rw [List.length_append]
      exact room m hm
  refine ⟨more ++ more', call, ?_⟩
  simpa using h

end

/-- A registered name begins a call. -/
theorem beginsCall_name {name : Token} {definition : Definition}
    (isName : name.kind = .identifier)
    (registered : registry.get? name.text = some definition) :
    BeginsCall registry [name] := by
  obtain ⟨more, call, h⟩ := beginsCall_of_first isName registered
    (show (⟨.openParenthesis, "(", 0⟩ : Token).kind = .openParenthesis from rfl)
    beginsExpr_nil
  exact ⟨_ :: more, call, h⟩

/-! ## Where the readers give up -/

theorem opens_cons {s s' : σ} {name : Token} (hp : peek s = some name)
    (opens : Call.Opens s s') :
    ∃ opening, opening.kind = .openParenthesis ∧
      remaining s = name :: opening :: remaining s' := by
  obtain ⟨rest, hs⟩ := peek_eq_some.mp hp
  obtain ⟨s₁, ⟨⟨t, -, ht⟩, -⟩, ⟨⟨opening, kind, ho⟩, -⟩⟩ := opens
  rw [hs] at ht
  obtain ⟨rfl, rfl⟩ := List.cons.inj ht
  exact ⟨opening, kind, by rw [hs, ho]⟩

theorem separated_of_nested {nested : Action σ Expr} (forward : Forward nested)
    (reads : ∀ s, Reads nested (Derives registry) s) {s s' : σ}
    {es : List Expr} (arguments : Call.Arguments nested s es s') :
    ∃ ts, Separated (Derives registry) ts es ∧
      remaining s = ts ++ remaining s' :=
  separated_of_arguments (n := (remaining s).length) forward
    (fun s _ => reads s) (Nat.le_refl _) arguments

/-- A call that is open and has room for what it has been given was begun. -/
theorem beginsCall_of_arguments {nested : Action σ Expr}
    (forward : Forward nested) (reads : ∀ s, Reads nested (Derives registry) s)
    {s s₁ s₂ : σ} {name : Token} {definition : Definition} {es : List Expr}
    (hp : peek s = some name) (isName : name.kind = .identifier)
    (registered : registry.get? name.text = some definition)
    (opens : Call.Opens s s₁) (arguments : Call.Arguments nested s₁ es s₂)
    (room : ∀ m, definition.arity.max = some m → es.length ≤ m) :
    ∃ c, remaining s = c ++ remaining s₂ ∧ BeginsCall registry c := by
  obtain ⟨opening, isOpening, ho⟩ := opens_cons hp opens
  obtain ⟨ts, separated, ht⟩ := separated_of_nested forward reads arguments
  refine ⟨name :: opening :: ts, by rw [ho, ht]; rfl, ?_⟩
  exact beginsCall_of_separated isName registered isOpening separated room

/-- Where reading a call gives up, what was read begins a call, if that is so
of its arguments. -/
theorem beginsCall_of_parse_fails {nested : Action σ Expr}
    (forward : Forward nested) {s s' : σ} {e : Error}
    (reads : ∀ s, Reads nested (Derives registry) s)
    (begins : ∀ s₁ s₂ e, (remaining s₁).length < (remaining s).length →
      nested.Fails s₁ e s₂ →
      ∃ c, remaining s₁ = c ++ remaining s₂ ∧ BeginsExpr registry c)
    {name : Token} {definition : Definition} (hp : peek s = some name)
    (isName : name.kind = .identifier)
    (registered : registry.get? name.text = some definition)
    (h : (Call.parse definition nested).Fails s e s') :
    ∃ c, remaining s = c ++ remaining s' ∧ BeginsCall registry c := by
  cases Call.stops_of_parse_fails forward h with
  | name other =>
      rw [atKind, hp] at other
      simp [isName] at other
  | opening takes other =>
      obtain ⟨rest, hs⟩ := peek_eq_some.mp hp
      obtain ⟨⟨t, -, ht⟩, -⟩ := takes
      rw [hs] at ht
      obtain ⟨rfl, rfl⟩ := List.cons.inj ht
      exact ⟨[name], hs, beginsCall_name isName registered⟩
  | first opens failed =>
      have hl := opens.length
      obtain ⟨opening, isOpening, ho⟩ := opens_cons hp opens
      obtain ⟨c, hc, begun⟩ := begins _ _ _ (by omega) failed
      exact ⟨name :: opening :: c, by rw [ho, hc]; rfl,
        beginsCall_of_first isName registered isOpening begun⟩
  | comma opens arguments wanted other =>
      exact beginsCall_of_arguments forward reads hp isName registered opens
        arguments fun m hm => Nat.le_of_lt (Call.lt_of_wantsAnother wanted m hm)
  | later opens arguments wanted comma failed =>
      obtain ⟨opening, isOpening, ho⟩ := opens_cons hp opens
      obtain ⟨ts, separated, ht⟩ := separated_of_nested forward reads arguments
      have hl₁ := opens.length
      have hl₂ := comma.length
      have hl₃ := congrArg List.length ht
      rw [List.length_append] at hl₃
      obtain ⟨⟨t, kind, hcomma⟩, -⟩ := comma
      obtain ⟨c, hc, begun⟩ := begins _ _ _ (by omega) failed
      refine ⟨name :: opening :: (ts ++ t :: c), ?_, ?_⟩
      · rw [ho, ht, hcomma, hc]
        simp
      · exact beginsCall_of_later isName registered isOpening separated
          (Call.lt_of_wantsAnother wanted) kind begun
  | closing opens arguments admits other =>
      exact beginsCall_of_arguments forward reads hp isName registered opens
        arguments admits.2

theorem beginsExpr_of_fails :
    ∀ {n : Nat} {s s' : σ} {e : Error}, (remaining s).length < n →
      (readExpression registry).Fails s e s' →
      ∃ c, remaining s = c ++ remaining s' ∧ BeginsExpr registry c := by
  intro n
  induction n with
  | zero => intro s s' e hn; omega
  | succ n ih =>
      intro s s' e hn h
      rw [readExpression_eq] at h
      rcases fails_expressionWith registry h with
        ⟨-, rfl⟩ | ⟨t, d, hp, hk, hg, h⟩
      · exact ⟨[], rfl, beginsExpr_nil⟩
      · obtain ⟨c, hr, begun⟩ := beginsCall_of_parse_fails
          (forward_readExpression registry) (reads_readExpression registry)
          (fun s₁ s₂ e hl hf => ih (by omega) hf) hp hk hg h
        exact ⟨c, hr, begun.beginsExpr⟩

/-- Where the reader of queries gives up, it has read the beginning of a call,
unless it has read nothing. -/
theorem beginsCall_of_fails {s s' : σ} {e : Error}
    (h : (parseCall registry).Fails s e s') :
    ∃ c, remaining s = c ++ remaining s' ∧ (c = [] ∨ BeginsCall registry c) := by
  rw [parseCall_eq] at h
  rcases registry.fails_parseCall.mp h with ahead | ⟨t, d, hp, hk, hg, h⟩
  · obtain ⟨-, rfl⟩ := registry.fails_definitionAhead.mp ahead
    exact ⟨[], rfl, Or.inl rfl⟩
  · obtain ⟨c, hr, begun⟩ := beginsCall_of_parse_fails
      (forward_readExpression registry) (reads_readExpression registry)
      (fun _ _ _ _ hf => beginsExpr_of_fails (Nat.lt_succ_self _) hf) hp hk hg h
    exact ⟨c, hr, Or.inr begun⟩

/-! ## The first hopeless token -/

/-- What the reader of queries leaves of the tokens, however it ends. -/
def unread (registry : Registry) (ts : List Token) : List Token :=
  (parseCall registry (Token.Cursor.ofList ts)).state.remaining

/-- The tokens are a query from the first to the last. -/
def Accepts (registry : Registry) (ts : List Token) : Prop :=
  (∃ call, (parseCall registry (Token.Cursor.ofList ts)).result = .ok call) ∧
    unread registry ts = []

theorem accepts_iff {ts : List Token} :
    Accepts registry ts ↔ ∃ call, Derives registry ts (.ofCall call) := by
  have reads := reads_query registry (Token.Cursor.ofList ts)
  constructor
  · rintro ⟨⟨call, hr⟩, hu⟩
    obtain ⟨ts', derives, hts⟩ := (reads call []).mp ⟨_, ⟨hr, rfl⟩, hu⟩
    have hts : ts = ts' ++ [] := hts
    rw [hts, List.append_nil]
    exact ⟨call, derives⟩
  · rintro ⟨call, derives⟩
    obtain ⟨s', ⟨hr, rfl⟩, hu⟩ :=
      (reads call []).mpr ⟨ts, derives, (List.append_nil ts).symm⟩
    exact ⟨⟨call, hr⟩, hu⟩

theorem BeginsCall.accepts {c : List Token} (h : BeginsCall registry c) :
    ∃ more, Accepts registry (c ++ more) := by
  obtain ⟨more, call, derives⟩ := h
  exact ⟨more, accepts_iff.mpr ⟨call, derives⟩⟩

/-- A registry with a function has a query. -/
theorem beginsCall_nil (nonempty : registry.size ≠ 0) :
    BeginsCall registry [] := by
  obtain ⟨e, he⟩ := List.exists_mem_of_ne_nil registry.entries
    fun h => nonempty (congrArg List.length h)
  obtain ⟨more, call, h⟩ := beginsCall_name
    (show (⟨.identifier, e.1, 0⟩ : Token).kind = .identifier from rfl)
    (Registry.get?_of_mem he)
  exact ⟨_, call, h⟩

/-- Errors stand at the first hopeless token. However reading a list ends, the
tokens before the first unread one begin a query, and with that one they begin
none. -/
theorem stops_at_first_hopeless_token (registry : Registry)
    (nonempty : registry.size ≠ 0) (ts : List Token) :
    ∃ c, ts = c ++ unread registry ts ∧
      (∃ more, Accepts registry (c ++ more)) ∧
      ∀ t rest, unread registry ts = t :: rest →
        ∀ more, ¬ Accepts registry (c ++ t :: more) := by
  have hopeless : ∀ c t rest, ts = c ++ unread registry ts →
      unread registry ts = t :: rest →
      ∀ more, ¬ Accepts registry (c ++ t :: more) := by
    intro c t rest hts hu more accepts
    obtain ⟨-, -, left⟩ := (local_query registry).alike
      (Token.Cursor.ofList ts) (Token.Cursor.ofList (c ++ t :: more)) c
      (t :: rest) (t :: more) ⟨t, rfl, rfl⟩ (hu ▸ hts) rfl hu
    exact absurd (left.symm.trans accepts.2) (List.cons_ne_nil t more)
  rcases yields_or_fails (parseCall registry) (Token.Cursor.ofList ts) with
    ⟨call, hy⟩ | ⟨e, hf⟩
  · obtain ⟨c, derives, hts⟩ :=
      (reads_query registry (Token.Cursor.ofList ts) call _).mp ⟨_, hy, rfl⟩
    refine ⟨c, hts, ⟨[], ?_⟩, fun t rest => hopeless c t rest hts⟩
    rw [List.append_nil]
    exact accepts_iff.mpr ⟨call, derives⟩
  · obtain ⟨c, hts, begun⟩ := beginsCall_of_fails hf
    refine ⟨c, hts, ?_, fun t rest => hopeless c t rest hts⟩
    rcases begun with rfl | begun
    · exact (beginsCall_nil nonempty).accepts
    · exact begun.accepts

/-- A registry with a single function. -/
def distanceOnly : Registry :=
  (Registry.register "st_distance" Call.distance Registry.empty).state

/-- What `st_distance(a, :b)` is read to. -/
def distanceOfPath : Call Expr :=
  ⟨Call.distance, [.path "a", .parameter "b"]⟩

theorem derives_distanceOfPath :
    Derives distanceOnly Call.distanceTokens (.ofCall distanceOfPath) := by
  have path : Derives distanceOnly [⟨.identifier, "a", 12⟩] (.path "a") :=
    .path rfl (by decide +kernel)
  have parameter : Derives distanceOnly [⟨.other, ":b", 15⟩]
      (.parameter "b") := .parameter rfl rfl
  have registered : distanceOnly.get? "st_distance" = some Call.distance := by
    decide +kernel
  have arguments : Separated (Derives distanceOnly)
      ([⟨.identifier, "a", 12⟩] ++ ⟨.comma, ",", 13⟩ :: [⟨.other, ":b", 15⟩])
      [.path "a", .parameter "b"] := .more path rfl (.one parameter)
  exact @Derives.call distanceOnly _ _ ⟨.closeParenthesis, ")", 17⟩ _ _ _ rfl
    registered rfl arguments rfl ⟨by decide, by decide⟩

/-- It is read whatever comes behind. -/
theorem reads_distance (rest : List Token) :
    (parseCall distanceOnly
        (Token.Cursor.ofList (Call.distanceTokens ++ rest))).result =
      .ok distanceOfPath ∧
    (parseCall distanceOnly
        (Token.Cursor.ofList (Call.distanceTokens ++ rest))).state.remaining =
      rest := by
  obtain ⟨s, ⟨read, rfl⟩, left⟩ := (reads_query distanceOnly
    (Token.Cursor.ofList (Call.distanceTokens ++ rest)) distanceOfPath rest).mpr
      ⟨_, derives_distanceOfPath, rfl⟩
  exact ⟨read, left⟩

/-- The tokens of `st_distance(a)`, which wants a second argument. -/
def oneArgument : List Token :=
  [⟨.identifier, "st_distance", 0⟩, ⟨.openParenthesis, "(", 11⟩,
    ⟨.identifier, "a", 12⟩, ⟨.closeParenthesis, ")", 13⟩]

theorem one_argument_stops_at_closing :
    distanceOnly.size ≠ 0 ∧
      unread distanceOnly oneArgument = oneArgument.drop 3 ∧
      (∃ more, Accepts distanceOnly (oneArgument.take 3 ++ more)) ∧
      ∀ more, ¬ Accepts distanceOnly (oneArgument ++ more) := by
  have nonempty : distanceOnly.size ≠ 0 := by decide
  have left : unread distanceOnly oneArgument = oneArgument.drop 3 := by
    decide +kernel
  obtain ⟨c, hts, begins, hopeless⟩ :=
    stops_at_first_hopeless_token distanceOnly nonempty oneArgument
  rw [left] at hts
  obtain rfl : c = oneArgument.take 3 := List.append_cancel_right
    (hts.symm.trans (List.take_append_drop 3 oneArgument).symm)
  exact ⟨nonempty, left, begins, hopeless _ [] left⟩

end Query

end SpatialSql
