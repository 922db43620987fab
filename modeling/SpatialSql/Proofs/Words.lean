import SpatialSql.Query.Lexer
import SpatialSql.Text.Run

/-!
# Words

A word is a token without its place. Which words a text has does not depend on
the offset it starts at, so they can be computed piecewise, and this file says
where a text may be taken apart.

A word is `Closed` if it is cut off behind its own characters whatever follows,
as long as names would not run on there. The one word that is not is a quoted
text whose second quote is missing: it swallows all that is put behind it.
Since it has swallowed all there was, it stands last, and a list of tokens that
ends with something else has closed words only.
-/

namespace SpatialSql

/-- A kind of token and how it is written. -/
abbrev Word := Token.Kind × String

def Token.word (t : Token) : Word :=
  (t.kind, t.text)

namespace Query

/-- The words of a text. -/
def words (cs : List Char) : List Word :=
  (lexFrom 0 cs).map Token.word

theorem lexFrom_word_congr (p q : Nat) (cs : List Char) :
    (lexFrom p cs).map Token.word = (lexFrom q cs).map Token.word := by
  fun_induction lexFrom p cs generalizing q with
  | case1 p => rw [lexFrom]
  | case2 p c cs blank ih =>
      rw [lexFrom, if_pos blank]
      exact ih _
  | case3 p c cs solid token ih =>
      rw [lexFrom, if_neg solid, List.map_cons, List.map_cons]
      exact congrArg (List.cons _) (ih _)

theorem lexFrom_words (p : Nat) (cs : List Char) :
    (lexFrom p cs).map Token.word = words cs :=
  lexFrom_word_congr p 0 cs

@[simp] theorem words_nil : words [] = [] := by
  rw [words, lexFrom]
  rfl

theorem words_blank {c : Char} (blank : Text.isBlankChar c = true)
    (cs : List Char) : words (c :: cs) = words cs := by
  rw [words, lexFrom, if_pos blank]
  exact lexFrom_words _ cs

theorem words_cons {c : Char} (solid : Text.isBlankChar c = false)
    (cs : List Char) :
    words (c :: cs) =
      ((piece c cs).kind, String.ofList (c :: (piece c cs).tail)) ::
        words (piece c cs).rest := by
  rw [words, lexFrom, if_neg (by rw [solid]; exact Bool.false_ne_true)]
  exact congrArg (List.cons _) (lexFrom_words _ _)

/-! ## Pieces -/

theorem piece_mark {c : Char} {kind : Token.Kind} (h : mark? c = some kind)
    (cs : List Char) : piece c cs = ⟨kind, [], cs⟩ := by
  rw [piece, h]

theorem piece_quote (cs : List Char) :
    piece quoteMark cs = ⟨.other, (splitText cs).1, (splitText cs).2⟩ := rfl

theorem piece_run {c : Char} (h : mark? c = none) (hq : c ≠ quoteMark)
    (cs : List Char) :
    piece c cs = ⟨if startsName c then .identifier else .other,
      cs.takeWhile continuesName, cs.dropWhile continuesName⟩ := by
  rw [piece, h]
  exact if_neg hq

theorem mark?_inj {c c' : Char} {kind : Token.Kind} (h : mark? c = some kind)
    (h' : mark? c' = some kind) : c = c' := by
  unfold mark? at h h'
  split at h <;> split at h' <;> cases h <;> first | rfl | cases h'

theorem mark?_ne {c : Char} {kind : Token.Kind} (h : mark? c = some kind) :
    kind ≠ .identifier ∧ kind ≠ .other := by
  unfold mark? at h
  split at h <;> cases h <;> exact ⟨nofun, nofun⟩

theorem splitText_of_mem {cs : List Char} (h : quoteMark ∈ cs)
    (rest : List Char) :
    splitText ((splitText cs).1 ++ rest) = ((splitText cs).1, rest) := by
  induction cs with
  | nil => cases h
  | cons c cs ih =>
      rw [splitText]
      split
      · next hc =>
          rw [List.singleton_append, splitText, if_pos hc]
      · next hc =>
          have ih := ih ((List.mem_cons.mp h).resolve_left fun e => hc e.symm)
          rw [List.cons_append, splitText, if_neg hc, ih]

theorem splitText_of_not_mem {cs : List Char} (h : quoteMark ∉ cs) :
    splitText cs = (cs, []) := by
  induction cs with
  | nil => rfl
  | cons c cs ih =>
      rw [List.mem_cons, not_or] at h
      rw [splitText, if_neg fun e => h.1 e.symm, ih h.2]

/-! ## Closed words -/

/-- No name that stands before these characters runs on over them. -/
def Breaks (rest : List Char) : Prop :=
  ∀ c, rest.head? = some c → continuesName c = false

theorem breaks_nil : Breaks [] := nofun

theorem breaks_cons {c : Char} (h : continuesName c = false) (cs : List Char) :
    Breaks (c :: cs) := by
  rintro _ ⟨⟩
  exact h

/-- The word ends with its own characters, whatever follows. -/
def Closed (w : Word) : Prop :=
  ∃ c cs, w.2 = String.ofList (c :: cs) ∧ Text.isBlankChar c = false ∧
    ∀ rest, Breaks rest → piece c (cs ++ rest) = ⟨w.1, cs, rest⟩

theorem Closed.words {w : Word} (h : Closed w) {rest : List Char}
    (hb : Breaks rest) : words (w.2.toList ++ rest) = w :: words rest := by
  obtain ⟨kind, text⟩ := w
  obtain ⟨c, cs, rfl, solid, cut⟩ := h
  rw [String.toList_ofList, List.cons_append, words_cons solid, cut rest hb]

/-- The kinds that are single characters tell how the word is written. -/
theorem Closed.text_of_mark {w : Word} (h : Closed w) {c : Char}
    (hc : mark? c = some w.1) : w.2 = String.ofList [c] := by
  obtain ⟨c', cs, ht, -, cut⟩ := h
  have cut := cut [] breaks_nil
  cases hm : mark? c' with
  | some kind =>
      rw [piece_mark hm] at cut
      obtain ⟨rfl, rfl, -⟩ := Piece.mk.inj cut
      rw [ht, mark?_inj hc hm]
  | none =>
      have hk : w.1 = .identifier ∨ w.1 = .other := by
        by_cases hq : c' = quoteMark
        · rw [hq, piece_quote] at cut
          exact Or.inr (Piece.mk.inj cut).1.symm
        · rw [piece_run hm hq] at cut
          rw [← (Piece.mk.inj cut).1]
          split
          · exact Or.inl rfl
          · exact Or.inr rfl
      rcases hk with hk | hk
      · exact absurd hk (mark?_ne hc).1
      · exact absurd hk (mark?_ne hc).2

theorem takeWhile_of_breaks {cs rest : List Char} (h : ∀ c ∈ cs, continuesName c)
    (hb : Breaks rest) :
    (cs ++ rest).takeWhile continuesName = cs ∧
      (cs ++ rest).dropWhile continuesName = rest :=
  Text.run_append h hb

/-- What is cut off is closed, unless it is a text that took all there was. -/
theorem piece_closed {c : Char} (solid : Text.isBlankChar c = false)
    (cs : List Char) :
    Closed ((piece c cs).kind, String.ofList (c :: (piece c cs).tail)) ∨
      ((piece c cs).kind = .other ∧ (piece c cs).rest = []) := by
  cases hm : mark? c with
  | some kind =>
      rw [piece_mark hm]
      exact Or.inl ⟨c, [], rfl, solid, fun rest _ => piece_mark hm rest⟩
  | none =>
      by_cases hq : c = quoteMark
      · subst hq
        rw [piece_quote]
        by_cases h : quoteMark ∈ cs
        · refine Or.inl ⟨quoteMark, _, rfl, solid, fun rest _ => ?_⟩
          rw [piece_quote, splitText_of_mem h]
        · rw [splitText_of_not_mem h]
          exact Or.inr ⟨rfl, rfl⟩
      · rw [piece_run hm hq]
        refine Or.inl ⟨c, _, rfl, solid, fun rest hb => ?_⟩
        obtain ⟨ht, hd⟩ :=
          takeWhile_of_breaks (List.all_eq_true.mp List.all_takeWhile) hb
        rw [piece_run hm hq, ht, hd]

/-- A token of a text is closed if it is not the last or is not of the kind
that quoted texts are. -/
theorem closed_of_suffix_lexFrom {t : Token} {more : List Token} {p : Nat}
    {cs : List Char} (h : t :: more <:+ lexFrom p cs)
    (hm : more ≠ [] ∨ t.kind ≠ .other) : Closed t.word := by
  fun_induction lexFrom p cs with
  | case1 p => cases List.suffix_nil.mp h
  | case2 p c cs blank ih => exact ih h
  | case3 p c cs solid token ih =>
      rcases List.suffix_cons_iff.mp h with heq | h
      · obtain ⟨rfl, rfl⟩ := List.cons.inj heq
        rcases piece_closed (Bool.eq_false_iff.mpr solid) cs with
          closed | ⟨hk, hr⟩
        · exact closed
        · rw [hr, lexFrom] at hm
          exact absurd hk (hm.resolve_left fun h => h rfl)
      · exact ih h

/-! ## Names -/

/-- By itself the text is one identifier. -/
def IsName (name : String) : Prop :=
  (lex name).map Token.word = [(.identifier, name)]

theorem IsName.closed {name : String} (h : IsName name) :
    Closed (.identifier, name) := by
  obtain ⟨t, ht, hw⟩ := List.map_eq_singleton_iff.mp h
  rw [← hw]
  have hk : t.kind = .identifier := congrArg Prod.fst hw
  have last : [t] <:+ lex name := ⟨[], ht.symm⟩
  exact closed_of_suffix_lexFrom last (Or.inr (by rw [hk]; exact nofun))

theorem continuesName_of_startsName {c : Char} (h : startsName c = true) :
    continuesName c = true := by
  rw [startsName, Bool.or_eq_true] at h
  rw [continuesName, Bool.or_eq_true, Bool.or_eq_true]
  rcases h with letter | underscore
  · exact Or.inl (Or.inl (Bool.or_eq_true_iff.mpr (Or.inl letter)))
  · exact Or.inl (Or.inr underscore)

theorem isAlpha_iff {c : Char} :
    c.isAlpha = true ↔ ('A' ≤ c ∧ c ≤ 'Z') ∨ ('a' ≤ c ∧ c ≤ 'z') := by
  have letter : c.isAlpha = true ↔ c.isUpper = true ∨ c.isLower = true :=
    Bool.or_eq_true_iff
  have capital : c.isUpper = true ↔ 'A' ≤ c ∧ c ≤ 'Z' := decide_eq_true_iff
  have small : c.isLower = true ↔ 'a' ≤ c ∧ c ≤ 'z' :=
    Bool.and_eq_true_iff.trans (and_congr decide_eq_true_iff decide_eq_true_iff)
  rw [letter, capital, small]

theorem isDigit_iff {c : Char} : c.isDigit = true ↔ '0' ≤ c ∧ c ≤ '9' :=
  Bool.and_eq_true_iff.trans (and_congr decide_eq_true_iff decide_eq_true_iff)

theorem continuesName_toNat {c : Char} (h : continuesName c = true) :
    46 ≤ c.toNat ∧ c.toNat ≤ 122 := by
  rw [continuesName, Bool.or_eq_true, Bool.or_eq_true, decide_eq_true_eq,
    decide_eq_true_eq] at h
  rcases h with (alphanumeric | rfl) | rfl
  · rcases Bool.or_eq_true_iff.mp alphanumeric with letter | digit
    · have bounds : (65 ≤ c.toNat ∧ c.toNat ≤ 90) ∨
          (97 ≤ c.toNat ∧ c.toNat ≤ 122) := isAlpha_iff.mp letter
      omega
    · have bounds : 48 ≤ c.toNat ∧ c.toNat ≤ 57 := isDigit_iff.mp digit
      omega
  · decide
  · decide

theorem continuesName_solid {c : Char} (h : continuesName c = true) :
    Text.isBlankChar c = false := by
  obtain ⟨low, high⟩ := continuesName_toNat h
  have apart : ∀ range ∈ Text.blankRanges, range.2 < 46 ∨ 122 < range.1 := by
    decide
  rw [Text.isBlankChar, List.any_eq_false]
  intro range hr
  have := apart range hr
  simp only [Bool.and_eq_true, decide_eq_true_eq]
  omega

theorem continuesName_unmarked {c : Char} (h : continuesName c = true) :
    mark? c = none ∧ c ≠ quoteMark := by
  refine ⟨?_, ?_⟩
  · unfold mark?
    split <;> first | rfl | exact absurd h (by decide)
  · rintro rfl
    exact absurd h (by decide)

/-- The text starts as a name does and goes on as one to its end. -/
def spellsName (name : String) : Bool :=
  match name.toList with
  | [] => false
  | c :: cs => startsName c && cs.all continuesName

theorem isName_of_spellsName {name : String} (h : spellsName name = true) :
    IsName name := by
  unfold spellsName at h
  split at h
  · cases h
  · next c cs hn =>
      obtain ⟨start, run⟩ := Bool.and_eq_true_iff.mp h
      have first := continuesName_of_startsName start
      obtain ⟨unmarked, unquoted⟩ := continuesName_unmarked first
      obtain ⟨ht, hd⟩ :=
        takeWhile_of_breaks (List.all_eq_true.mp run) breaks_nil
      rw [List.append_nil] at ht hd
      show words name.toList = _
      rw [hn, words_cons (continuesName_solid first), piece_run unmarked unquoted,
        ht, hd, if_pos start, ← hn, String.ofList_toList, words_nil]

end Query

end SpatialSql
