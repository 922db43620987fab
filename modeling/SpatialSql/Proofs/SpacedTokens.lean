import SpatialSql.Proofs.Words

/-!
# Tokens may be spaced out

Where a token ends is for its own characters to say, and for at most one more:
a name runs on while it can, so the character behind it must be one that names
do not run on over. White space is such a character, whatever it stands before.
So white space put at either end of a token leaves all tokens as they are; only
a quoted text without its second quote takes what is put behind it for its own.

`piece_cut` says how far the lexer looks: a piece is cut off again before
another rest, if that rest stops names where the old one did. `Joint` is the
invariant of the induction over the lexer. It takes a text apart before one of
its tokens, and says what may be put there instead.
-/

namespace SpatialSql

/-- A quoted text whose second quote is missing. -/
def Token.Unclosed (t : Token) : Prop :=
  ∃ cs, t.text.toList = '\x27' :: cs ∧ '\x27' ∉ cs

namespace Query

/-! ## White space -/

section

variable {w rest rest' : List Char}

theorem words_white (white : ∀ c ∈ w, Text.isBlankChar c = true)
    (cs : List Char) : words (w ++ cs) = words cs := by
  induction w with
  | nil => rfl
  | cons c w ih =>
      rw [List.forall_mem_cons] at white
      rw [List.cons_append, words_blank white.1, ih white.2]

/-- White space stops names, and none of it leaves things as they were. -/
theorem breaks_white (white : ∀ c ∈ w, Text.isBlankChar c = true)
    (h : Breaks rest) : Breaks (w ++ rest) := by
  cases w with
  | nil => exact h
  | cons c w =>
      refine breaks_cons (Bool.eq_false_iff.mpr fun runs => ?_) _
      have blank := white c List.mem_cons_self
      rw [continuesName_solid runs] at blank
      cases blank

theorem breaks_append_congr (cs : List Char) (h : Breaks rest → Breaks rest') :
    Breaks (cs ++ rest) → Breaks (cs ++ rest') := by
  cases cs with
  | nil => exact h
  | cons c cs => exact fun hb => breaks_cons (hb c rfl) _

theorem breaks_dropWhile (cs : List Char) :
    Breaks (cs.dropWhile continuesName) := by
  intro c hc
  have := List.head?_dropWhile_not continuesName cs
  rw [hc] at this
  simpa using this

end

/-! ## Pieces are cut off again -/

section

variable {c : Char} {cs rest : List Char}

theorem unclosed_iff {kind : Token.Kind} {p : Nat} :
    Token.Unclosed ⟨kind, String.ofList (c :: cs), p⟩ ↔
      c = quoteMark ∧ quoteMark ∉ cs := by
  unfold Token.Unclosed
  rw [String.toList_ofList]
  refine ⟨fun h => ?_, fun h => ⟨cs, congrArg (· :: cs) h.1, h.2⟩⟩
  obtain ⟨cs', same, missing⟩ := h
  obtain ⟨hc, rfl⟩ := List.cons.inj same
  exact ⟨hc, missing⟩

/-- The second quote belongs to the text that it ends. -/
theorem quoteMark_mem_splitText (h : quoteMark ∈ cs) :
    quoteMark ∈ (splitText cs).1 := by
  induction cs with
  | nil => cases h
  | cons c cs ih =>
      rw [splitText]
      split
      · next hc => exact List.mem_singleton.mpr hc.symm
      · next hc =>
          have later := (List.mem_cons.mp h).resolve_left fun e => hc e.symm
          exact List.mem_cons_of_mem _ (ih later)

/-- A text without its second quote is all there was. -/
theorem piece_of_unclosed (missing : quoteMark ∉ (piece quoteMark cs).tail) :
    piece quoteMark cs = ⟨.other, cs, []⟩ := by
  have none : quoteMark ∉ cs := fun h => missing (quoteMark_mem_splitText h)
  rw [piece_quote, splitText_of_not_mem none]

/-- A piece is cut off again by its own characters, if what comes next stops
names where they were stopped before. -/
theorem piece_cut (closed : ¬ (c = quoteMark ∧ quoteMark ∉ (piece c cs).tail))
    (h : Breaks (piece c cs).rest → Breaks rest) :
    piece c ((piece c cs).tail ++ rest) =
      ⟨(piece c cs).kind, (piece c cs).tail, rest⟩ := by
  cases hm : mark? c with
  | some kind =>
      rw [piece_mark hm, piece_mark hm]
      rfl
  | none =>
      by_cases hq : c = quoteMark
      · subst hq
        have second : quoteMark ∈ cs := by
          refine Decidable.byContradiction fun missing => closed ⟨rfl, ?_⟩
          rw [piece_quote, splitText_of_not_mem missing]
          exact missing
        rw [piece_quote, piece_quote, splitText_of_mem second]
      · rw [piece_run hm hq] at h ⊢
        obtain ⟨ht, hd⟩ := takeWhile_of_breaks
          (List.all_eq_true.mp (List.all_takeWhile (l := cs)))
          (h (breaks_dropWhile cs))
        rw [piece_run hm hq, ht, hd]

/-- What was cut off is one piece by itself. -/
theorem piece_tail (c : Char) (cs : List Char) :
    piece c (piece c cs).tail = ⟨(piece c cs).kind, (piece c cs).tail, []⟩ := by
  by_cases h : c = quoteMark ∧ quoteMark ∉ (piece c cs).tail
  · obtain ⟨rfl, missing⟩ := h
    have whole := piece_of_unclosed missing
    rw [whole]
    exact whole
  · have cut : piece c ((piece c cs).tail ++ []) = _ :=
      piece_cut h fun _ => breaks_nil
    rwa [List.append_nil] at cut

end

/-! ## Tokens with white space between them -/

section

variable {p : Nat} {cs : List Char} {t : Token} {ts : List Token}

/-- A token is lexed from its own text. -/
theorem words_text (h : t ∈ lexFrom p cs) : words t.text.toList = [t.word] := by
  fun_induction lexFrom p cs with
  | case1 p => cases h
  | case2 p c cs blank ih => exact ih h
  | case3 p c cs solid token ih =>
      rcases List.mem_cons.mp h with rfl | h
      · rw [String.toList_ofList, words_cons (Bool.eq_false_iff.mpr solid),
          piece_tail, words_nil]
        rfl
      · exact ih h

/-- The texts of the last tokens, with one blank between two of them. -/
theorem words_intercalate (h : ts <:+ lexFrom p cs) :
    words (" ".intercalate (ts.map Token.text)).toList =
      ts.map Token.word := by
  induction ts with
  | nil => exact words_nil
  | cons t ts ih =>
      have later := ih ((List.suffix_cons t ts).trans h)
      cases ts with
      | nil =>
          rw [List.map_singleton, String.intercalate_singleton]
          exact words_text (h.subset List.mem_cons_self)
      | cons u us =>
          -- only the last of all tokens may be one that is not closed
          have closed : Closed t.word :=
            closed_of_suffix_lexFrom h (Or.inl (List.cons_ne_nil u us))
          have blank : Breaks (' ' ::
              (" ".intercalate ((u :: us).map Token.text)).toList) :=
            breaks_cons (by decide) _
          rw [List.map_cons, String.intercalate_cons_of_ne_nil (by simp),
            String.toList_append, String.toList_append, List.append_assoc]
          refine (closed.words blank).trans ?_
          rw [words_blank (by decide), later, List.map_cons (a := t)]

end

/-! ## White space at the ends of a token -/

/-- The token stands in a text with these characters before it and behind it.
Other characters in its place, or in the place of what is behind it, leave the
words ahead of them as they are, if they stop names where names were stopped. -/
structure Joint (t : Token) (before after : List Char) : Prop where
  ahead : ∃ ws, ∀ rest, (Breaks (t.text.toList ++ after) → Breaks rest) →
    words (before ++ rest) = ws ++ words rest
  itself : ¬ t.Unclosed → ∀ rest, (Breaks after → Breaks rest) →
    words (t.text.toList ++ rest) = t.word :: words rest

theorem joint_of_mem_lexFrom {p : Nat} {cs : List Char} {t : Token}
    (h : t ∈ lexFrom p cs) :
    ∃ before after, cs = before ++ (t.text.toList ++ after) ∧
      t.position = p + (String.ofList before).utf8ByteSize ∧
      Joint t before after := by
  fun_induction lexFrom p cs with
  | case1 p => cases h
  | case2 p c cs blank ih =>
      obtain ⟨before, after, split, place, ⟨ws, ahead⟩, itself⟩ := ih h
      refine ⟨c :: before, after, ?_, ?_, ⟨ws, fun rest hb => ?_⟩, itself⟩
      · rw [split, List.cons_append]
      · rw [place, String.ofList_cons, String.utf8ByteSize_append,
          String.utf8ByteSize_singleton, Nat.add_assoc]
      · rw [List.cons_append, words_blank blank, ahead rest hb]
  | case3 p c cs solid token ih =>
      have solid := Bool.eq_false_iff.mpr solid
      rcases List.mem_cons.mp h with rfl | h
      · refine ⟨[], (piece c cs).rest, ?_, rfl, ⟨[], fun _ _ => rfl⟩, ?_⟩
        · rw [List.nil_append, String.toList_ofList, List.cons_append,
            piece_append]
        · intro closed rest hb
          rw [unclosed_iff] at closed
          rw [String.toList_ofList, List.cons_append, words_cons solid,
            piece_cut closed hb]
          rfl
      · obtain ⟨before, after, split, place, ⟨ws, ahead⟩, itself⟩ := ih h
        refine ⟨c :: ((piece c cs).tail ++ before), after, ?_, ?_,
          ⟨token.word :: ws, fun rest hb => ?_⟩, itself⟩
        · rw [List.cons_append, List.append_assoc, ← split, piece_append]
        · rw [place, Token.stop, ← List.cons_append, String.ofList_append,
            String.utf8ByteSize_append, Nat.add_assoc]
        · -- a token follows, so the piece has not taken all there was
          have closed : ¬ (c = quoteMark ∧ quoteMark ∉ (piece c cs).tail) := by
            intro unclosed
            obtain ⟨rfl, missing⟩ := unclosed
            rw [piece_of_unclosed missing, lexFrom] at h
            cases h
          have stops : Breaks (piece c cs).rest → Breaks (before ++ rest) := by
            rw [split]
            exact breaks_append_congr before hb
          rw [List.cons_append, List.append_assoc, words_cons solid,
            piece_cut closed stops, ahead rest hb]
          rfl

theorem toList_white {w : String} (h : Text.isBlank w = true) :
    ∀ c ∈ w.toList, Text.isBlankChar c = true :=
  List.all_eq_true.mp h

/-- Put at the beginning of a token, white space leaves the words of the text
as they are, and so it does at the end of a token that is closed. -/
theorem Joint.words_insert {t : Token} {before after : List Char}
    (h : Joint t before after) {w : List Char}
    (white : ∀ c ∈ w, Text.isBlankChar c = true) :
    words (before ++ (w ++ (t.text.toList ++ after))) =
        words (before ++ (t.text.toList ++ after)) ∧
      (¬ t.Unclosed →
        words (before ++ (t.text.toList ++ (w ++ after))) =
          words (before ++ (t.text.toList ++ after))) := by
  obtain ⟨⟨ws, ahead⟩, itself⟩ := h
  refine ⟨?_, fun closed => ?_⟩
  · rw [ahead _ (breaks_white white), ahead _ id, words_white white]
  · have stops : Breaks after → Breaks (w ++ after) := breaks_white white
    rw [ahead _ (breaks_append_congr _ stops), ahead _ id,
      itself closed _ stops, itself closed _ id, words_white white]

/-- The texts of the tokens of an input, with a blank between any two, have the
words of the input. So has the input with white space put in where one of its
tokens begins, or where one ends that is not a text without its second quote. -/
theorem tokens_may_be_spaced_out (input : String) :
    (lex (" ".intercalate ((lex input).map Token.text))).map Token.word =
        (lex input).map Token.word ∧
      ∀ t ∈ lex input, ∃ before after, input = before ++ t.text ++ after ∧
        t.position = before.utf8ByteSize ∧
        ∀ w, Text.isBlank w = true →
          (lex (before ++ w ++ t.text ++ after)).map Token.word =
              (lex input).map Token.word ∧
            (¬ t.Unclosed →
              (lex (before ++ t.text ++ w ++ after)).map Token.word =
                (lex input).map Token.word) := by
  refine ⟨words_intercalate (List.suffix_refl _), fun t ht => ?_⟩
  obtain ⟨before, after, split, place, joint⟩ := joint_of_mem_lexFrom ht
  refine ⟨String.ofList before, String.ofList after, ?_, ?_, fun w hw => ?_⟩
  · rw [← String.toList_inj, String.toList_append, String.toList_append,
      String.toList_ofList, String.toList_ofList, List.append_assoc]
    exact split
  · rw [place, Nat.zero_add]
  · have inserted := joint.words_insert (toList_white hw)
    rw [← split] at inserted
    simpa [words, lex] using inserted

/-- Letters outside ASCII, texts and a mark with nothing between them, and a
last text that is not closed. -/
def touchingTokens : String :=
  "\u00e9\u00e92\x27(\x27f(\x27,"

theorem touching_tokens_spaced_out :
    (lex "\u00e9 \u00e92 \x27(\x27 f ( \x27,").map Token.word =
        (lex touchingTokens).map Token.word ∧
      (⟨.other, "\x27(\x27", 5⟩ : Token) ∈ lex touchingTokens ∧
      ¬ Token.Unclosed ⟨.other, "\x27(\x27", 5⟩ ∧
      Text.isBlank "\u3000" = true ∧
      ∃ before after, touchingTokens = before ++ "\x27(\x27" ++ after ∧
        5 = before.utf8ByteSize ∧
        (lex (before ++ "\u3000" ++ "\x27(\x27" ++ after)).map Token.word =
          (lex touchingTokens).map Token.word ∧
        (lex (before ++ "\x27(\x27" ++ "\u3000" ++ after)).map Token.word =
          (lex touchingTokens).map Token.word := by
  obtain ⟨joined, each⟩ := tokens_may_be_spaced_out touchingTokens
  have spaced : " ".intercalate ((lex touchingTokens).map Token.text) =
      "\u00e9 \u00e92 \x27(\x27 f ( \x27," := by decide +kernel
  have member : (⟨.other, "\x27(\x27", 5⟩ : Token) ∈ lex touchingTokens := by
    decide +kernel
  have closed : ¬ Token.Unclosed ⟨.other, "\x27(\x27", 5⟩ := by
    intro unclosed
    have missing : _ ∧ quoteMark ∉ ['(', '\x27'] := unclosed_iff.mp unclosed
    exact missing.2 (by decide)
  have white : Text.isBlank "\u3000" = true := by decide
  obtain ⟨before, after, split, place, inserted⟩ := each _ member
  obtain ⟨start, stop⟩ := inserted _ white
  rw [spaced] at joined
  exact ⟨joined, member, closed, white, before, after, split, place, start,
    stop closed⟩

end Query

end SpatialSql
