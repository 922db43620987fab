import SpatialSql.Proofs.CatalogRegistry
import SpatialSql.Proofs.SqlWords

/-!
# What is written reads as the query it came from

SQL text is a query again, if the registry finds its functions under their SQL
names. It differs from the query it was written from in the blanks, in how
names are cased and chosen, and in the parameters: question marks stand in
their place and read as numbers. So reading what was written answers
`anonymous`, the same call without the names of its parameters, and writing
that gives the same text once more.

The words of the text are known already, so the lexer plays no part here. What
remains is that translating the tokens of a derivation leaves a derivation.
-/

namespace SpatialSql.Query

variable {registry : Registry} {platform : String}

mutual

/-- The expression with question marks for its parameters. -/
def Expr.anonymous : Expr → Expr
  | .path written => .path written
  | .number written => .number written
  | .text written => .text written
  | .parameter _ => .number "?"
  | .call definition arguments =>
    .call definition (Expr.eachAnonymous arguments)

def Expr.eachAnonymous : List Expr → List Expr
  | [] => []
  | first :: others => first.anonymous :: Expr.eachAnonymous others

end

/-- The call with question marks for the parameters within it. -/
def anonymous (call : Call Expr) : Call Expr :=
  ⟨call.definition, Expr.eachAnonymous call.arguments⟩

theorem ofCall_anonymous (call : Call Expr) :
    Expr.ofCall (anonymous call) = (Expr.ofCall call).anonymous := by
  rw [Expr.ofCall, Expr.ofCall, Expr.anonymous]
  rfl

/-- Every function is found under its SQL name too, and that is a name in
queries. -/
structure SelfNaming (registry : Registry) : Prop where
  found : ∀ name definition, registry.get? name = some definition →
    registry.get? definition.name = some definition
  names : NamesLex registry

/-! ## Reading what was written -/

theorem translate_kind (t : Token) : (translate registry t).1 = t.kind := by
  unfold translate
  split
  · next h => exact h.symm
  · next h => exact h.symm
  · rfl

theorem kind_of_word {t t' : Token} (h : t'.word = translate registry t) :
    t'.kind = t.kind :=
  (congrArg Prod.fst h).trans (translate_kind t)

theorem length_eachAnonymous (es : List Expr) :
    (Expr.eachAnonymous es).length = es.length := by
  induction es with
  | nil => rfl
  | cons e es ih => exact congrArg (· + 1) ih

/-- Any tokens that the tokens may be written as make the expression without
the names of its parameters. -/
def RereadsAs (registry : Registry) (ts : List Token) (e : Expr) : Prop :=
  ∀ ts' : List Token, ts'.map Token.word = ts.map (translate registry) →
    Derives registry ts' e.anonymous

theorem separated_reread {ts : List Token} {es : List Expr}
    (h : Separated (RereadsAs registry) ts es) {ts' : List Token}
    (hw : ts'.map Token.word = ts.map (translate registry)) :
    Separated (Derives registry) ts' (Expr.eachAnonymous es) := by
  induction h generalizing ts' with
  | one head => exact .one (head ts' hw)
  | more head kind _ ih =>
      rw [List.map_append, List.map_cons] at hw
      obtain ⟨first, later, rfl, hfirst, hlater⟩ := List.map_eq_append_iff.mp hw
      obtain ⟨comma, others, rfl, hcomma, hothers⟩ :=
        List.map_eq_cons_iff.mp hlater
      exact .more (head first hfirst) ((kind_of_word hcomma).trans kind)
        (ih hothers)

theorem rereadsAs_single {t : Token} {e : Expr}
    (h : ∀ t' : Token, t'.word = translate registry t →
      Derives registry [t'] e.anonymous) : RereadsAs registry [t] e := by
  intro ts' hw
  obtain ⟨t', rfl, ht⟩ := List.map_eq_singleton_iff.mp hw
  exact h t' ht

/-- A token that is written as it stands is read as it was. -/
theorem rereadsAs_kept {t : Token} {e : Expr}
    (kept : translate registry t = t.word)
    (h : ∀ t' : Token, t'.kind = t.kind → t'.text = t.text →
      Derives registry [t'] e.anonymous) : RereadsAs registry [t] e := by
  refine rereadsAs_single fun t' hw => ?_
  obtain ⟨hk, ht⟩ := Prod.mk.inj (hw.trans kept)
  exact h t' hk ht

theorem rereadsAs_call (self : SelfNaming registry)
    {name opening closing : Token} {ts : List Token} {definition : Definition}
    {es : List Expr} (isName : name.kind = .identifier)
    (registered : registry.get? name.text = some definition)
    (isOpening : opening.kind = .openParenthesis)
    (arguments : Separated (RereadsAs registry) ts es)
    (isClosing : closing.kind = .closeParenthesis)
    (admits : definition.arity.Admits es.length) :
    RereadsAs registry (name :: opening :: (ts ++ [closing]))
      (.call definition es) := by
  intro ts' hw
  obtain ⟨name', _, rfl, hname, hw⟩ := List.map_eq_cons_iff.mp hw
  obtain ⟨opening', _, rfl, hopening, hw⟩ := List.map_eq_cons_iff.mp hw
  rw [List.map_append] at hw
  obtain ⟨within, last, rfl, hwithin, hlast⟩ := List.map_eq_append_iff.mp hw
  obtain ⟨closing', rfl, hclosing⟩ := List.map_eq_singleton_iff.mp hlast
  have kind := (kind_of_word hname).trans isName
  have found : registry.get? name'.text = some definition := by
    rw [translate_registered isName registered] at hname
    rw [show name'.text = definition.name from congrArg Prod.snd hname]
    exact self.found _ _ registered
  have admits' : definition.arity.Admits (Expr.eachAnonymous es).length := by
    rw [length_eachAnonymous]
    exact admits
  exact .call kind found ((kind_of_word hopening).trans isOpening)
    (separated_reread arguments hwithin)
    ((kind_of_word hclosing).trans isClosing) admits'

theorem derives_rereadsAs (self : SelfNaming registry) {ts : List Token}
    {e : Expr} (h : Derives registry ts e) : RereadsAs registry ts e := by
  induction h using Derives.induct with
  | path t kind free =>
      refine rereadsAs_kept (translate_free kind free) fun t' hk ht => ?_
      rw [← ht]
      exact .path (hk.trans kind) (by rw [ht]; exact free)
  | text t cs kind quoted =>
      have noColon : t.text.toList.head? ≠ some ':' := by
        rw [quoted]
        exact nofun
      refine rereadsAs_kept (translate_other kind noColon) fun t' hk ht => ?_
      rw [← ht]
      exact .text (hk.trans kind) (by rw [ht]; exact quoted)
  | parameter t cs kind colon =>
      refine rereadsAs_single fun t' hw => ?_
      obtain ⟨hk, ht⟩ := Prod.mk.inj (hw.trans (translate_colon kind colon))
      rw [Expr.anonymous, ← ht]
      exact .number hk (by rw [ht]; decide) (by rw [ht]; decide)
  | number t kind unquoted noColon =>
      refine rereadsAs_kept (translate_other kind noColon) fun t' hk ht => ?_
      rw [← ht]
      exact .number (hk.trans kind) (by rw [ht]; exact unquoted)
        (by rw [ht]; exact noColon)
  | call name opening closing ts definition es isName registered isOpening _
      isClosing admits ih =>
      exact rereadsAs_call self isName registered isOpening
        (ih.imp fun _ _ ⟨_, h⟩ => h) isClosing admits

/-! ## Writing what was read -/

theorem eachSqlText_anonymous {es : List Expr}
    (h : ∀ e ∈ es, e.anonymous.sqlText platform = e.sqlText platform) :
    Expr.eachSqlText platform (Expr.eachAnonymous es) =
      Expr.eachSqlText platform es := by
  induction es with
  | nil => rfl
  | cons e es ih =>
      rw [Expr.eachAnonymous, Expr.eachSqlText, Expr.eachSqlText,
        h e List.mem_cons_self, ih fun e he => h e (List.mem_cons_of_mem _ he)]

theorem sqlText_anonymous (e : Expr) :
    e.anonymous.sqlText platform = e.sqlText platform := by
  induction e using Expr.induct with
  | path w | number w | text w | parameter w => rfl
  | call definition es ih =>
      rw [Expr.anonymous, Expr.sqlText, Expr.sqlText, eachSqlText_anonymous ih]

theorem parse_of_compile (self : SelfNaming registry) {input : String}
    {call : Call Expr} (read : (parse registry input).result = .ok call)
    {parameters : List String} {sql : String}
    (written : (call.compile (compiler platform) parameters).result = .ok sql) :
    (parse registry sql).result = .ok (anonymous call) := by
  have derives := parse_eq_ok_iff.mp read
  rw [compile_result] at written
  rw [parse_eq_ok_iff, ofCall_anonymous]
  exact derives_rereadsAs self derives _
    (words_sqlText self.names derives written)

theorem compile_anonymous {call : Call Expr} {parameters : List String}
    {sql : String}
    (written : (call.compile (compiler platform) parameters).result = .ok sql)
    (parameters' : List String) :
    ((anonymous call).compile (compiler platform) parameters').result =
      .ok sql := by
  rw [compile_result] at written
  rw [compile_result, ofCall_anonymous, sqlText_anonymous, written]

/-! ## The catalogs -/

theorem ofCatalog_selfNaming {catalog : List Catalog.Entry}
    (fit : Catalog.Fit catalog) :
    SelfNaming (Registry.ofCatalog catalog).state := by
  refine ⟨fun name d found => ?_, fun name d found => ?_⟩
  · obtain ⟨e, -, same, hd⟩ := Registry.origin_of_ofCatalog fit found
    rw [hd, Registry.get?_congr same]
    exact found
  · obtain ⟨e, he, -, hd⟩ := Registry.origin_of_ofCatalog fit found
    rw [hd]
    exact isName_of_spellsName (fit.names e he)

/-- What is written for a query reads as that query without the names of its
parameters, and that is written the same. Both catalogs are fit for it. -/
theorem written_reads_back :
    (∀ registry, SelfNaming registry →
      ∀ input call, (parse registry input).result = .ok call →
      ∀ platform parameters sql,
        (call.compile (compiler platform) parameters).result = .ok sql →
        (parse registry sql).result = .ok (anonymous call) ∧
          ∀ parameters', ((anonymous call).compile (compiler platform)
            parameters').result = .ok sql) ∧
    (Registry.postgresql.result = .ok () ∧
      SelfNaming Registry.postgresql.state) ∧
    (Registry.mysql.result = .ok () ∧ SelfNaming Registry.mysql.state) :=
  ⟨fun _ self _ _ read _ _ _ written =>
    ⟨parse_of_compile self read written, compile_anonymous written⟩,
    ⟨Registry.ofCatalog_succeeds Catalog.postgresql_fit,
      ofCatalog_selfNaming Catalog.postgresql_fit⟩,
    ⟨Registry.ofCatalog_succeeds Catalog.mysql_fit,
      ofCatalog_selfNaming Catalog.mysql_fit⟩⟩

/-- A registry that finds a function under its SQL name and a shorter one. -/
def distanceTwice : Registry :=
  (do Registry.register "ST_Distance" Call.distance
      Registry.register "d" Call.distance : Action Registry Unit)
    Registry.empty |>.state

theorem distanceTwice_only {name : String} {d : Definition}
    (found : distanceTwice.get? name = some d) : d = Call.distance := by
  have all : ∀ e ∈ distanceTwice.entries, e.2 = Call.distance := by
    decide +kernel
  exact all _ (Registry.get?_eq_some_iff.mp found)

theorem distanceTwice_selfNaming : SelfNaming distanceTwice := by
  refine ⟨fun name d found => ?_, fun name d found => ?_⟩
  · obtain rfl := distanceTwice_only found
    decide +kernel
  · obtain rfl := distanceTwice_only found
    exact isName_of_spellsName (by decide +kernel)

/-- A quoted text with a parenthesis, a comma and a letter of two bytes. -/
def trickyText : String :=
  "\x27é(,\x27"

/-- The tokens of a call within `nestedTokens`. -/
def innerTokens : List Token :=
  ⟨.identifier, "d", 2⟩ :: ⟨.openParenthesis, "(", 3⟩ ::
    (([⟨.identifier, "a.b", 4⟩] ++ ⟨.comma, ",", 7⟩ ::
      [⟨.other, trickyText, 9⟩]) ++ [⟨.closeParenthesis, ")", 15⟩])

/-- The tokens of `d(d(a.b, 'é(,'), :p)`. -/
def nestedTokens : List Token :=
  ⟨.identifier, "d", 0⟩ :: ⟨.openParenthesis, "(", 1⟩ ::
    ((innerTokens ++ ⟨.comma, ",", 16⟩ :: [⟨.other, ":p", 18⟩]) ++
      [⟨.closeParenthesis, ")", 20⟩])

def nestedDistance : Call Expr :=
  ⟨Call.distance, [.call Call.distance [.path "a.b", .text trickyText],
    .parameter "p"]⟩

theorem derives_nestedDistance :
    Derives distanceTwice nestedTokens (.ofCall nestedDistance) := by
  have inner : Derives distanceTwice innerTokens
      (.call Call.distance [.path "a.b", .text trickyText]) :=
    .call rfl (by decide +kernel) rfl
      (.more (.path rfl (by decide +kernel)) rfl (.one (.text rfl rfl))) rfl
      ⟨by decide, by decide⟩
  have parameter : Derives distanceTwice [⟨.other, ":p", 18⟩]
      (.parameter "p") := .parameter rfl rfl
  exact .call rfl (by decide +kernel) rfl (.more inner rfl (.one parameter)) rfl
    ⟨by decide, by decide⟩

theorem nested_distance_reads_back :
    SelfNaming distanceTwice ∧
      (parse distanceTwice "d(d(a.b, \x27é(,\x27), :p)").result =
        .ok nestedDistance ∧
      (nestedDistance.compile (compiler "any") []).result =
        .ok "ST_Distance(ST_Distance(a.b, \x27é(,\x27), ?)" ∧
      (parse distanceTwice
        "ST_Distance(ST_Distance(a.b, \x27é(,\x27), ?)").result =
        .ok (anonymous nestedDistance) := by
  have tokens : lex "d(d(a.b, \x27é(,\x27), :p)" = nestedTokens := by
    decide +kernel
  have read := parse_eq_ok_iff.mpr (tokens ▸ derives_nestedDistance)
  have written : (nestedDistance.compile (compiler "any") []).result =
      .ok "ST_Distance(ST_Distance(a.b, \x27é(,\x27), ?)" :=
    congrArg Except.ok (by decide +kernel)
  exact ⟨distanceTwice_selfNaming, read, written,
    (written_reads_back.1 _ distanceTwice_selfNaming _ _ read _ _ _ written).1⟩

end SpatialSql.Query
