import SpatialSql.Proofs.Words

/-!
# Cutting a text loses nothing

The lexer walks over characters and reports byte offsets, so two things are to
be said of its tokens. Each of them is a stretch of the text, from one boundary
between characters to another, and what lies between them is white space; that
is `Tiles`, which puts the text together again from the gaps and the tokens. And
each of them is of the kind that its own characters say, whatever stood around
it; that is `FitsKind`.

The first follows the recursion of the lexer, with the offset as a parameter.
The second is about one piece and needs no induction: a mark stands by itself, a
quoted text may hold anything, and all else runs on over characters that are
neither blank nor marks.
-/

namespace SpatialSql

/-! ## Tokens of a kind -/

/-- A letter of ASCII or an underscore. -/
def BeginsName (c : Char) : Prop :=
  ('A' ≤ c ∧ c ≤ 'Z') ∨ ('a' ≤ c ∧ c ≤ 'z') ∨ c = '_'

/-- The first character of the text is of this sort. -/
def StartsWith (sort : Char → Prop) (text : String) : Prop :=
  ∃ c cs, text.toList = c :: cs ∧ sort c

/-- The kind of a token is what its text says. Marks are single characters, an
identifier starts as a name does, and all else is of the kind `other`. White
space and marks stand within no token but a quoted one. -/
structure Token.FitsKind (t : Token) : Prop where
  opening : t.kind = .openParenthesis ↔ t.text = "("
  closing : t.kind = .closeParenthesis ↔ t.text = ")"
  comma : t.kind = .comma ↔ t.text = ","
  identifier : t.kind = .identifier ↔ StartsWith BeginsName t.text
  other : t.kind = .other ↔
    t.text ≠ "(" ∧ t.text ≠ ")" ∧ t.text ≠ "," ∧ ¬ StartsWith BeginsName t.text
  solid : ∀ c ∈ t.text.toList,
    Text.isBlankChar c = true ∨ c = '(' ∨ c = ')' ∨ c = ',' →
      (t.text = "(" ∨ t.text = ")" ∨ t.text = ",") ∨
        (t.kind = .other ∧ StartsWith (· = '\x27') t.text)

/-! ## Tokens in a text -/

/-- From the byte offset on, the text consists of these tokens, each where it
says, with white space before, between and behind them. -/
inductive Tiles : Nat → String → List Token → Prop
  | blank {p : Nat} {gap : String} (white : Text.isBlank gap = true) :
      Tiles p gap []
  | token {p : Nat} {gap rest : String} {t : Token} {ts : List Token}
      (white : Text.isBlank gap = true) (nonempty : t.text ≠ "")
      (position : t.position = p + gap.utf8ByteSize)
      (later : Tiles t.stop rest ts) :
      Tiles p (gap ++ t.text ++ rest) (t :: ts)

/-- The token is a slice of the input from one boundary between characters to
another. -/
structure Token.SliceOf (input : String) (t : Token) : Prop where
  nonempty : t.text ≠ ""
  starts : String.Pos.Raw.IsValid input ⟨t.position⟩
  ends : String.Pos.Raw.IsValid input ⟨t.stop⟩
  bytes : input.toByteArray.extract t.position t.stop = t.text.toByteArray

section

variable {p : Nat} {text : String} {ts : List Token} {t : Token}

/-- Each tile has a place of its own. -/
theorem Tiles.place (h : Tiles p text ts) (ht : t ∈ ts) :
    ∃ before after, text = before ++ t.text ++ after ∧
      t.position = p + before.utf8ByteSize := by
  induction h with
  | blank white => cases ht
  | @token p gap rest t' ts white nonempty position later ih =>
      rcases List.mem_cons.mp ht with rfl | ht
      · exact ⟨gap, rest, rfl, position⟩
      · obtain ⟨before, after, split, place⟩ := ih ht
        refine ⟨gap ++ t'.text ++ before, after, ?_, ?_⟩
        · rw [split]
          simp only [String.append_assoc]
        · rw [place, Token.stop, position]
          simp only [String.utf8ByteSize_append, Nat.add_assoc]

theorem Tiles.nonempty (h : Tiles p text ts) (ht : t ∈ ts) : t.text ≠ "" := by
  induction h with
  | blank white => cases ht
  | token white nonempty position later ih =>
      rcases List.mem_cons.mp ht with rfl | ht
      · exact nonempty
      · exact ih ht

/-- No two tiles overlap. -/
theorem Tiles.pairwise (h : Tiles p text ts) :
    ts.Pairwise fun t later => t.stop ≤ later.position := by
  induction h with
  | blank white => exact List.Pairwise.nil
  | token white nonempty position later ih =>
      refine List.pairwise_cons.mpr ⟨fun t ht => ?_, ih⟩
      obtain ⟨before, after, -, place⟩ := later.place ht
      omega

/-- Gaps and tokens by turns make up the text. -/
theorem Tiles.interleave (h : Tiles p text ts) :
    ∃ gaps last, gaps.length = ts.length ∧
      (∀ gap ∈ gaps ++ [last], Text.isBlank gap = true) ∧
      text = String.join (gaps.zipWith (fun gap t => gap ++ t.text) ts) ++
        last := by
  induction h with
  | @blank p gap white =>
      exact ⟨[], gap, rfl, List.forall_mem_singleton.mpr white, by simp⟩
  | @token p gap rest t ts white nonempty position later ih =>
      obtain ⟨gaps, last, length, whites, split⟩ := ih
      refine ⟨gap :: gaps, last, congrArg Nat.succ length,
        List.forall_mem_cons.mpr ⟨white, whites⟩, ?_⟩
      rw [List.zipWith_cons_cons, String.join_cons, split]
      simp only [String.append_assoc]

/-- The tiles of a text are slices of it. -/
theorem Tiles.sliceOf (h : Tiles 0 text ts) (ht : t ∈ ts) : t.SliceOf text := by
  obtain ⟨before, after, split, position⟩ := h.place ht
  rw [Nat.zero_add] at position
  have stop : t.stop = (before ++ t.text).utf8ByteSize := by
    rw [Token.stop, position, String.utf8ByteSize_append]
  refine ⟨h.nonempty ht, ?_, ?_, ?_⟩
  · rw [String.Pos.Raw.isValid_iff_exists_append]
    refine ⟨before, t.text ++ after, ?_, congrArg _ position⟩
    rw [split, String.append_assoc]
  · rw [String.Pos.Raw.isValid_iff_exists_append]
    exact ⟨before ++ t.text, after, split, congrArg _ stop⟩
  · have length : t.stop =
        before.toByteArray.size + t.text.toByteArray.size := by
      rw [stop, String.utf8ByteSize_append, String.size_toByteArray,
        String.size_toByteArray]
    have offset : t.position = before.toByteArray.size + 0 := position
    rw [length, offset, split, String.append_assoc, String.toByteArray_append,
      String.toByteArray_append, ByteArray.extract_append_size_add,
      ByteArray.extract_append_eq_left rfl]

end

namespace Query

theorem startsName_iff {c : Char} : startsName c = true ↔ BeginsName c := by
  rw [startsName, Bool.or_eq_true, decide_eq_true_eq, isAlpha_iff, or_assoc,
    BeginsName]

theorem startsWith_ofList {sort : Char → Prop} {c : Char} {cs : List Char} :
    StartsWith sort (String.ofList (c :: cs)) ↔ sort c := by
  unfold StartsWith
  rw [String.toList_ofList]
  constructor
  · intro h
    obtain ⟨c', cs', same, holds⟩ := h
    rw [(List.cons.inj same).1]
    exact holds
  · exact fun holds => ⟨c, cs, rfl, holds⟩

/-! ## The kind of a piece -/

section

variable {c : Char} {cs : List Char} {kind : Token.Kind} {p : Nat}

/-- A text that is written as a mark starts with it. -/
theorem mark?_of_ofList_eq {m : Char} (marked : mark? m = some kind)
    (same : String.ofList (c :: cs) = String.ofList [m]) :
    mark? c = some kind := by
  obtain ⟨rfl, -⟩ := List.cons.inj (String.ofList_injective same)
  exact marked

theorem fitsKind_of_mark (marked : mark? c = some kind) :
    Token.FitsKind ⟨kind, String.ofList [c], p⟩ := by
  have written : ∀ m k, mark? m = some k →
      (kind = k ↔ String.ofList [c] = String.ofList [m]) := by
    intro m k hm
    constructor
    · intro h
      subst h
      rw [mark?_inj marked hm]
    · intro h
      exact Option.some.inj (marked.symm.trans (mark?_of_ofList_eq hm h))
  have opening := written '(' _ rfl
  have closing := written ')' _ rfl
  have comma := written ',' _ rfl
  obtain ⟨unnamed, known⟩ := mark?_ne marked
  have single : String.ofList [c] = "(" ∨ String.ofList [c] = ")" ∨
      String.ofList [c] = "," := by
    cases kind with
    | identifier => exact absurd rfl unnamed
    | other => exact absurd rfl known
    | openParenthesis => exact Or.inl (opening.mp rfl)
    | closeParenthesis => exact Or.inr (Or.inl (closing.mp rfl))
    | comma => exact Or.inr (Or.inr (comma.mp rfl))
  refine ⟨opening, closing, comma, ?_, ?_, fun _ _ _ => Or.inl single⟩
  · refine iff_of_false unnamed fun start => ?_
    rw [startsWith_ofList, ← startsName_iff] at start
    have unmarked :=
      (continuesName_unmarked (continuesName_of_startsName start)).1
    exact Option.some_ne_none kind (marked.symm.trans unmarked)
  · refine iff_of_false known fun h => ?_
    obtain ⟨notOpening, notClosing, notComma, -⟩ := h
    exact single.elim notOpening (Or.elim · notClosing notComma)

/-- A token that starts with no mark is a name or something else, as its first
character says. -/
theorem fitsKind_of_unmarked (unmarked : mark? c = none)
    (hk : kind = if startsName c then .identifier else .other)
    (plain : c = quoteMark ∨
      ∀ c' ∈ c :: cs, Text.isBlankChar c' = false ∧ mark? c' = none) :
    Token.FitsKind ⟨kind, String.ofList (c :: cs), p⟩ := by
  have longer : ∀ m k, mark? m = some k →
      String.ofList (c :: cs) ≠ String.ofList [m] := by
    intro m k marked same
    have marked := mark?_of_ofList_eq marked same
    exact Option.some_ne_none k (marked.symm.trans unmarked)
  have opening := longer '(' _ rfl
  have closing := longer ')' _ rfl
  have comma := longer ',' _ rfl
  have named : kind = .identifier ↔
      StartsWith BeginsName (String.ofList (c :: cs)) := by
    rw [startsWith_ofList, ← startsName_iff, hk]
    by_cases start : startsName c = true <;> simp [start]
  have either : kind = .identifier ∨ kind = .other := by
    rw [hk]
    split
    · exact Or.inl rfl
    · exact Or.inr rfl
  have apart : ∀ k, k ≠ .identifier → k ≠ .other → kind ≠ k := by
    intro k notName notOther h
    subst h
    exact either.elim notName notOther
  refine ⟨iff_of_false (apart _ nofun nofun) opening,
    iff_of_false (apart _ nofun nofun) closing,
    iff_of_false (apart _ nofun nofun) comma, named, ?_, ?_⟩
  · rw [← named]
    constructor
    · intro h
      subst h
      exact ⟨opening, closing, comma, nofun⟩
    · intro h
      exact either.resolve_left h.2.2.2
  · intro c' hc' odd
    rcases plain with rfl | plain
    · have known : kind = .other := hk.trans (if_neg (by decide))
      exact Or.inr ⟨known, startsWith_ofList.mpr rfl⟩
    · rw [String.toList_ofList] at hc'
      obtain ⟨solid, single⟩ := plain c' hc'
      rcases odd with blank | rfl | rfl | rfl
      · rw [blank] at solid
        cases solid
      · cases single
      · cases single
      · cases single

/-- What is cut off is of the kind that its characters say. -/
theorem fitsKind_piece (solid : Text.isBlankChar c = false) (cs : List Char) :
    Token.FitsKind
      ⟨(piece c cs).kind, String.ofList (c :: (piece c cs).tail), p⟩ := by
  cases hm : mark? c with
  | some kind =>
      rw [piece_mark hm]
      exact fitsKind_of_mark hm
  | none =>
      by_cases hq : c = quoteMark
      · subst hq
        rw [piece_quote]
        exact fitsKind_of_unmarked hm rfl (Or.inl rfl)
      · rw [piece_run hm hq]
        refine fitsKind_of_unmarked hm rfl (Or.inr fun c' hc' => ?_)
        -- the first character need not be one that names run on over
        rcases List.mem_cons.mp hc' with rfl | hc'
        · exact ⟨solid, hm⟩
        · have runs : continuesName c' = true :=
            List.all_eq_true.mp List.all_takeWhile c' hc'
          exact ⟨continuesName_solid runs, (continuesName_unmarked runs).1⟩

end

theorem fitsKind_of_mem_lexFrom {p : Nat} {cs : List Char} {t : Token}
    (h : t ∈ lexFrom p cs) : t.FitsKind := by
  fun_induction lexFrom p cs with
  | case1 p => cases h
  | case2 p c cs blank ih => exact ih h
  | case3 p c cs solid token ih =>
      rcases List.mem_cons.mp h with rfl | h
      · exact fitsKind_piece (Bool.eq_false_iff.mpr solid) cs
      · exact ih h

/-! ## Tiles -/

/-- A blank character joins the gap before the first token. -/
theorem tiles_blank_cons {p : Nat} {c : Char} {rest : String} {ts : List Token}
    (blank : Text.isBlankChar c = true) (h : Tiles (p + c.utf8Size) rest ts) :
    Tiles p (String.singleton c ++ rest) ts := by
  have white : ∀ gap, Text.isBlank gap = true →
      Text.isBlank (String.singleton c ++ gap) = true := by
    intro gap hg
    rw [Text.isBlank, String.toList_append, String.toList_singleton,
      List.singleton_append, List.all_cons, blank, Bool.true_and]
    exact hg
  cases h with
  | blank hg => exact .blank (white _ hg)
  | @token _ gap rest t ts hg nonempty position later =>
      have regroup : String.singleton c ++ (gap ++ t.text ++ rest) =
          String.singleton c ++ gap ++ t.text ++ rest := by
        simp only [String.append_assoc]
      rw [regroup]
      refine .token (white gap hg) nonempty ?_ later
      rw [position, String.utf8ByteSize_append, String.utf8ByteSize_singleton,
        Nat.add_assoc]

/-- The tokens of a text and white space between them make up the text. -/
theorem tiles_lexFrom (p : Nat) (cs : List Char) :
    Tiles p (String.ofList cs) (lexFrom p cs) := by
  fun_induction lexFrom p cs with
  | case1 p => exact .blank rfl
  | case2 p c cs blank ih =>
      rw [String.ofList_cons]
      exact tiles_blank_cons blank ih
  | case3 p c cs solid token ih =>
      -- the gap is empty here: what was blank is put into it by the other case
      have cut : String.ofList (c :: cs) =
          "" ++ token.text ++ String.ofList (piece c cs).rest := by
        rw [String.empty_append, ← String.ofList_append, List.cons_append,
          piece_append]
      rw [cut]
      refine .token rfl ?_ rfl ih
      rw [Ne, String.ofList_eq_empty_iff]
      exact List.cons_ne_nil _ _

theorem tiles_lex (input : String) : Tiles 0 input (lex input) := by
  have tiles := tiles_lexFrom 0 input.toList
  rw [String.ofList_toList] at tiles
  exact tiles

/-- Whatever the input, its tokens are slices of it that stand one behind the
other, there is nothing but white space around them, and each is of the kind
that its text says. -/
theorem lexing_loses_nothing (input : String) :
    Tiles 0 input (lex input) ∧
      (∀ t ∈ lex input, t.SliceOf input ∧ t.FitsKind) ∧
      ((lex input).Pairwise fun t later => t.stop ≤ later.position) ∧
      ∃ gaps last, gaps.length = (lex input).length ∧
        (∀ gap ∈ gaps ++ [last], Text.isBlank gap = true) ∧
        input =
          String.join (gaps.zipWith (fun gap t => gap ++ t.text) (lex input)) ++
            last :=
  have tiles := tiles_lex input
  ⟨tiles, fun _ ht => ⟨tiles.sliceOf ht, fitsKind_of_mem_lexFrom ht⟩,
    tiles.pairwise, tiles.interleave⟩

/-- White space, a letter outside ASCII, and a text that is never closed. -/
def unclosedText : String :=
  "\u3000a.1\u00e9\x27(,"

theorem unclosed_text_is_tiled :
    (⟨.other, "\x27(,", 8⟩ : Token) ∈ lex unclosedText ∧
      Token.SliceOf unclosedText ⟨.other, "\x27(,", 8⟩ ∧
      Token.FitsKind ⟨.other, "\x27(,", 8⟩ ∧
      lex unclosedText =
        [⟨.identifier, "a.1", 3⟩, ⟨.other, "\u00e9", 6⟩,
          ⟨.other, "\x27(,", 8⟩] := by
  have tokens : lex unclosedText =
      [⟨.identifier, "a.1", 3⟩, ⟨.other, "\u00e9", 6⟩,
        ⟨.other, "\x27(,", 8⟩] := by
    decide +kernel
  have member : (⟨.other, "\x27(,", 8⟩ : Token) ∈ lex unclosedText := by
    rw [tokens]
    decide
  obtain ⟨-, each, -⟩ := lexing_loses_nothing unclosedText
  exact ⟨member, (each _ member).1, (each _ member).2, tokens⟩

end Query

end SpatialSql
