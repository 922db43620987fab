import SpatialSql.Proofs.NameTable
import SpatialSql.Proofs.QueryGrammar
import SpatialSql.Proofs.SqlText
import SpatialSql.Proofs.Words

/-!
# The words of what is written

What is written for a query has the words of the query, one for one: a
registered name has become an SQL name, a parameter a question mark, and all
else stands as it did. The blanks may differ, and the words may not; so what is
written is cut at the places where it was put together.

Every piece is written from closed words and stands before a comma or a closing
parenthesis, where no name runs on. That is the invariant of the induction, and
it needs every token of the query to be closed. They are, since a query ends
with a parenthesis and only a last token can be open.
-/

namespace SpatialSql.Query

variable {registry : Registry} {platform : String}

/-- The SQL names of the registry's functions are identifiers. -/
def NamesLex (registry : Registry) : Prop :=
  ∀ name definition, registry.get? name = some definition →
    IsName definition.name

/-- How a token of a query is written. -/
def translate (registry : Registry) (t : Token) : Word :=
  match t.kind with
  | .identifier =>
    (.identifier, ((registry.get? t.text).map Definition.name).getD t.text)
  | .other => (.other, if t.text.toList.head? = some ':' then "?" else t.text)
  | _ => t.word

/-! ## Translated tokens -/

section

variable {t : Token}

theorem translate_registered {definition : Definition}
    (kind : t.kind = .identifier)
    (registered : registry.get? t.text = some definition) :
    translate registry t = (.identifier, definition.name) := by
  rw [translate, kind, registered]
  rfl

theorem translate_free (kind : t.kind = .identifier)
    (free : registry.get? t.text = none) : translate registry t = t.word := by
  rw [translate, Token.word, kind, free]
  rfl

theorem translate_colon {cs : List Char} (kind : t.kind = .other)
    (colon : t.text.toList = ':' :: cs) :
    translate registry t = (.other, "?") := by
  rw [translate, kind, colon]
  rfl

theorem translate_other (kind : t.kind = .other)
    (noColon : t.text.toList.head? ≠ some ':') :
    translate registry t = t.word := by
  rw [translate, Token.word, kind]
  exact congrArg (Prod.mk _) (if_neg noColon)

theorem translate_mark (registry : Registry) {c : Char}
    (closed : Closed t.word) (hc : mark? c = some t.kind) :
    translate registry t = (t.kind, String.ofList [c]) := by
  have ht : t.word = (t.kind, String.ofList [c]) :=
    congrArg (Prod.mk t.kind) (closed.text_of_mark hc)
  rw [← ht]
  obtain ⟨hi, ho⟩ := mark?_ne hc
  unfold translate
  split
  · next h => exact absurd h hi
  · next h => exact absurd h ho
  · rfl

end

theorem closed_questionMark : Closed (.other, "?") := by
  refine ⟨'?', [], rfl, rfl, fun rest hb => ?_⟩
  obtain ⟨ht, hd⟩ := @takeWhile_of_breaks [] rest nofun hb
  rw [piece_run rfl (by decide), ht, hd]
  rfl

/-! ## The words between the parts of a call -/

theorem words_mark {c : Char} {kind : Token.Kind} (hc : mark? c = some kind)
    (rest : List Char) :
    words (c :: rest) = (kind, String.ofList [c]) :: words rest := by
  have solid : Text.isBlankChar c = false := by
    unfold mark? at hc
    split at hc <;> first | rfl | cases hc
  rw [words_cons solid, piece_mark hc]

theorem toList_call (name arguments : String) (rest : List Char) :
    (name ++ "(" ++ arguments ++ ")").toList ++ rest =
      name.toList ++ '(' :: (arguments.toList ++ ')' :: rest) := by
  rw [String.toList_append, String.toList_append, String.toList_append,
    List.append_assoc, List.append_assoc, List.append_assoc]
  rfl

theorem toList_arguments {texts : List String} (h : texts ≠ []) (text : String)
    (rest : List Char) :
    (", ".intercalate (text :: texts)).toList ++ rest =
      text.toList ++ ',' :: ' ' :: ((", ".intercalate texts).toList ++ rest) := by
  rw [String.intercalate_cons_of_ne_nil h, String.toList_append,
    String.toList_append, List.append_assoc, List.append_assoc]
  rfl

/-- Wherever what is written for the expression stands, as long as no name runs
on behind it, its words are those of the tokens. -/
def WritesWords (registry : Registry) (platform : String) (ts : List Token)
    (e : Expr) : Prop :=
  (∀ t ∈ ts, Closed t.word) → ∀ sql, e.sqlText platform = .ok sql →
    ∀ rest, Breaks rest →
      words (sql.toList ++ rest) = ts.map (translate registry) ++ words rest

theorem writesWords_single {t : Token} {e : Expr}
    (closed : Closed t.word → Closed (translate registry t))
    (text : e.sqlText platform = .ok (translate registry t).2) :
    WritesWords registry platform [t] e := by
  intro all sql hsql rest hb
  obtain rfl := Except.ok.inj (text.symm.trans hsql)
  exact (closed (all t (List.mem_singleton_self t))).words hb

theorem words_arguments {ts : List Token} {es : List Expr}
    (h : Separated (WritesWords registry platform) ts es) :
    (∀ t ∈ ts, Closed t.word) → ∀ texts,
      Expr.eachSqlText platform es = .ok texts → ∀ rest, Breaks rest →
        words ((", ".intercalate texts).toList ++ rest) =
          ts.map (translate registry) ++ words rest := by
  induction h with
  | one head =>
      intro closed texts htexts rest hb
      obtain ⟨text, _, ht, hn, rfl⟩ := eachSqlText_cons_eq_ok_iff.mp htexts
      obtain rfl := Except.ok.inj hn
      rw [String.intercalate_singleton]
      exact head closed text ht rest hb
  | @more ts ts' comma e es head kind others ih =>
      intro closed texts htexts rest hb
      obtain ⟨text, texts, ht, hothers, rfl⟩ :=
        eachSqlText_cons_eq_ok_iff.mp htexts
      have first := head fun t h => closed t (List.mem_append_left _ h)
      have later := ih fun t h =>
        closed t (List.mem_append_right _ (List.mem_cons_of_mem _ h))
      have hc : mark? ',' = some comma.kind := kind ▸ rfl
      have marked := translate_mark registry
        (closed comma (List.mem_append_right _ List.mem_cons_self)) hc
      have hne : texts ≠ [] := by
        rintro rfl
        exact others.ne_nil
          (List.length_eq_zero_iff.mp (eachSqlText_length hothers).symm)
      rw [toList_arguments hne, first text ht _ (breaks_cons rfl _),
        words_mark hc, words_blank rfl, later texts hothers rest hb,
        List.map_append, List.map_cons, marked, List.append_assoc,
        List.cons_append]

theorem writesWords_call {name opening closing : Token} {ts : List Token}
    {definition : Definition} {es : List Expr} (names : IsName definition.name)
    (isName : name.kind = .identifier)
    (registered : registry.get? name.text = some definition)
    (isOpening : opening.kind = .openParenthesis)
    (arguments : Separated (WritesWords registry platform) ts es)
    (isClosing : closing.kind = .closeParenthesis) :
    WritesWords registry platform (name :: opening :: (ts ++ [closing]))
      (.call definition es) := by
  intro closed sql hsql rest _
  obtain ⟨-, texts, htexts, rfl⟩ := sqlText_call_eq_ok_iff.mp hsql
  have within := words_arguments arguments
    (fun t h => closed t (by simp [h])) texts htexts (')' :: rest)
    (breaks_cons rfl rest)
  have ho : mark? '(' = some opening.kind := isOpening ▸ rfl
  have hc : mark? ')' = some closing.kind := isClosing ▸ rfl
  have opened := translate_mark registry (closed opening (by simp)) ho
  have ended := translate_mark registry (closed closing (by simp)) hc
  have head := names.closed.words (breaks_cons (c := '(') rfl
    ((", ".intercalate texts).toList ++ ')' :: rest))
  rw [toList_call, head, words_mark ho, within, words_mark hc]
  simp [translate_registered isName registered, opened, ended]

theorem derives_writesWords (names : NamesLex registry) {ts : List Token}
    {e : Expr} (h : Derives registry ts e) :
    WritesWords registry platform ts e := by
  induction h using Derives.induct with
  | path t kind free =>
      have ht := translate_free kind free
      exact writesWords_single (fun closed => ht ▸ closed) (by rw [ht]; rfl)
  | text t cs kind quoted =>
      have ht : translate registry t = t.word :=
        translate_other kind (by rw [quoted]; exact nofun)
      exact writesWords_single (fun closed => ht ▸ closed) (by rw [ht]; rfl)
  | parameter t cs kind colon =>
      have ht : translate registry t = _ := translate_colon kind colon
      exact writesWords_single (fun _ => ht ▸ closed_questionMark)
        (by rw [ht]; rfl)
  | number t kind unquoted noColon =>
      have ht : translate registry t = t.word := translate_other kind noColon
      exact writesWords_single (fun closed => ht ▸ closed) (by rw [ht]; rfl)
  | call name opening closing ts definition es isName registered isOpening _
      isClosing _ ih =>
      exact writesWords_call (names _ _ registered) isName registered isOpening
        (ih.imp fun _ _ ⟨_, h⟩ => h) isClosing

theorem closed_of_derives_ofCall {input : String} {call : Call Expr}
    (h : Derives registry (lex input) (.ofCall call)) :
    ∀ t ∈ lex input, Closed t.word := by
  obtain ⟨init, last, hl, hk⟩ : ∃ init last, lex input = init ++ [last] ∧
      last.kind = .closeParenthesis := by
    generalize lex input = ts at h
    cases h with
    | @call name opening closing ts _ _ _ _ _ _ isClosing _ =>
        exact ⟨name :: opening :: ts, closing, rfl, isClosing⟩
  intro t ht
  obtain ⟨before, more, hts⟩ := List.append_of_mem ht
  have suffix : t :: more <:+ lexFrom 0 input.toList := ⟨before, hts.symm⟩
  refine closed_of_suffix_lexFrom suffix ?_
  rcases List.eq_nil_or_concat more with rfl | ⟨_, _, rfl⟩
  · rw [hts] at hl
    obtain ⟨-, hlast⟩ := List.append_inj' hl rfl
    obtain rfl := (List.cons.inj hlast).1
    exact Or.inr (by rw [hk]; exact nofun)
  · exact Or.inl (by simp)

/-- What is written for a query has its words, translated one by one. -/
theorem words_sqlText (names : NamesLex registry) {input : String}
    {call : Call Expr} (h : Derives registry (lex input) (.ofCall call))
    {sql : String} (hsql : (Expr.ofCall call).sqlText platform = .ok sql) :
    (lex sql).map Token.word = (lex input).map (translate registry) := by
  have written := derives_writesWords names h (closed_of_derives_ofCall h) sql
    hsql [] breaks_nil
  rw [List.append_nil, words_nil, List.append_nil] at written
  exact written

/-- The words of what is written for a query are those of the query in their
order, each of them translated and none of them lost or added. -/
theorem written_word_for_word (names : NamesLex registry) {input : String}
    {call : Call Expr} (read : (parse registry input).result = .ok call)
    {parameters : List String} {sql : String}
    (written : (call.compile (compiler platform) parameters).result = .ok sql) :
    (lex sql).map Token.word = (lex input).map (translate registry) := by
  rw [compile_result] at written
  exact words_sqlText names (parse_eq_ok_iff.mp read) written

/-- A registry that knows its function by another name than SQL does. -/
def distanceRenamed : Registry :=
  (Registry.register "d" Call.distance Registry.empty).state

theorem get?_distanceRenamed (name : String) :
    distanceRenamed.get? name =
      if Name.Alike name "d" then some Call.distance else none := by
  have inserted := Name.Table.find?_insert .empty "d" name Call.distance
  simp only [Name.fold_eq_fold_iff] at inserted
  exact inserted

theorem distanceRenamed_namesLex : NamesLex distanceRenamed := by
  intro name definition found
  rw [get?_distanceRenamed] at found
  split at found
  · rw [← Option.some.inj found]
    exact isName_of_spellsName (by decide +kernel)
  · cases found

/-- The tokens of `D( :p,d(a.b ,2))`. -/
def renamedTokens : List Token :=
  ⟨.identifier, "D", 0⟩ :: ⟨.openParenthesis, "(", 1⟩ ::
    (([⟨.other, ":p", 3⟩] ++ ⟨.comma, ",", 5⟩ ::
      ⟨.identifier, "d", 6⟩ :: ⟨.openParenthesis, "(", 7⟩ ::
        (([⟨.identifier, "a.b", 8⟩] ++ ⟨.comma, ",", 12⟩ ::
          [⟨.other, "2", 13⟩]) ++ [⟨.closeParenthesis, ")", 14⟩])) ++
      [⟨.closeParenthesis, ")", 15⟩])

def renamedDistance : Call Expr :=
  ⟨Call.distance, [.parameter "p",
    .call Call.distance [.path "a.b", .number "2"]]⟩

theorem derives_renamedDistance :
    Derives distanceRenamed renamedTokens (.ofCall renamedDistance) := by
  have parameter : Derives distanceRenamed [⟨.other, ":p", 3⟩]
      (.parameter "p") := .parameter rfl rfl
  have number : Derives distanceRenamed [⟨.other, "2", 13⟩] (.number "2") :=
    .number rfl (by decide) (by decide)
  have registered : ∀ name, Name.Alike name "d" →
      distanceRenamed.get? name = some Call.distance :=
    fun name h => (get?_distanceRenamed name).trans (if_pos h)
  have free : distanceRenamed.get? "a.b" = none :=
    (get?_distanceRenamed "a.b").trans (if_neg (by decide))
  exact .call rfl (registered "D" (by decide)) rfl
    (.more parameter rfl (.one (.call rfl (registered "d" (by decide)) rfl
      (.more (.path rfl free) rfl (.one number)) rfl
      ⟨by decide, by decide⟩))) rfl ⟨by decide, by decide⟩

theorem renamed_distance_word_for_word :
    NamesLex distanceRenamed ∧
      (parse distanceRenamed "D( :p,d(a.b ,2))").result =
        .ok renamedDistance ∧
      (renamedDistance.compile (compiler "any") []).result =
        .ok "ST_Distance(?, ST_Distance(a.b, 2))" ∧
      (lex "ST_Distance(?, ST_Distance(a.b, 2))").map Token.word =
        renamedTokens.map (translate distanceRenamed) := by
  have tokens : lex "D( :p,d(a.b ,2))" = renamedTokens := by decide +kernel
  have read : (parse distanceRenamed "D( :p,d(a.b ,2))").result =
      .ok renamedDistance :=
    parse_eq_ok_iff.mpr (tokens ▸ derives_renamedDistance)
  have written : (renamedDistance.compile (compiler "any") []).result =
      .ok "ST_Distance(?, ST_Distance(a.b, 2))" :=
    congrArg Except.ok (by decide +kernel)
  exact ⟨distanceRenamed_namesLex, read, written,
    tokens ▸ written_word_for_word distanceRenamed_namesLex read written⟩

end SpatialSql.Query
