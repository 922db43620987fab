import SpatialSql.Proofs.DocumentScanning
import SpatialSql.Text.Run

/-!
# Spellings of tokens

The same tokens can be written in many ways. There may be spaces between them,
and a character of a string stands for itself, or is written as a letter behind
a backslash, or as its UTF-16 code units in hexadecimal digits of either case.

`Spells` has all of these ways. It is told from the side of the writer, who has
a character and chooses a spelling for it, and owes nothing to the scanning
functions. `tokens_of_spells` says that the choice is lost when the text is cut
into tokens. It asks of the tokens that no numeral stands next to another, since
two numerals in a row read as one, and that none is too great for a count; this
is `Legible`.
-/

namespace SpatialSql.Json

/-! ## Ways of writing -/

/-- The hexadecimal digits with their values. -/
def hexDigits : List (Char × Nat) :=
  "0123456789abcdef".toList.zipIdx ++ "ABCDEF".toList.zipIdx 10

/-- Four hexadecimal digits write a UTF-16 code unit. -/
def SpellsUnit (n : Nat) : List Char → Prop
  | [a, b, c, d] =>
    (a, n / 0x1000) ∈ hexDigits ∧ (b, n / 0x100 % 0x10) ∈ hexDigits ∧
      (c, n / 0x10 % 0x10) ∈ hexDigits ∧ (d, n % 0x10) ∈ hexDigits
  | _ => False

/-- The letters that stand behind a backslash, and what they stand for. -/
def letterEscapes : List (Char × Char) :=
  [('"', '"'), ('\\', '\\'), ('/', '/'), ('b', '\x08'), ('f', '\x0c'),
    ('n', '\n'), ('r', '\r'), ('t', '\t')]

/-- The character may stand for itself. -/
def isLiteral (c : Char) : Bool :=
  0x20 ≤ c.toNat && c ≠ '"' && c ≠ '\\'

/-- The ways of writing a character in a string. -/
inductive SpellsChar (c : Char) : List Char → Prop
  | literal : isLiteral c = true → SpellsChar c [c]
  | letter {l} : (l, c) ∈ letterEscapes → SpellsChar c ['\\', l]
  | unit {digits} : SpellsUnit c.toNat digits →
      SpellsChar c ('\\' :: 'u' :: digits)
  /-- A character outside of the basic plane is a pair of surrogates. -/
  | pair {high low} : 0x10000 ≤ c.toNat →
      SpellsUnit (0xD800 + (c.toNat - 0x10000) / 0x400) high →
      SpellsUnit (0xDC00 + (c.toNat - 0x10000) % 0x400) low →
      SpellsChar c ('\\' :: 'u' :: (high ++ '\\' :: 'u' :: low))

/-- The ways of writing the characters of a string, without the quotes. -/
inductive SpellsString : List Char → List Char → Prop
  | nil : SpellsString [] []
  | cons {c piece cs body} : SpellsChar c piece → SpellsString cs body →
      SpellsString (c :: cs) (piece ++ body)

/-- The ways of writing a token. -/
inductive SpellsToken : Token → List Char → Prop
  | openObject : SpellsToken .openObject ['\x7b']
  | closeObject : SpellsToken .closeObject ['\x7d']
  | openArray : SpellsToken .openArray ['[']
  | closeArray : SpellsToken .closeArray [']']
  | comma : SpellsToken .comma [',']
  | colon : SpellsToken .colon [':']
  | word (w : Word) : SpellsToken (.word w) w.text.toList
  /-- A count is written without leading zeros. -/
  | natural (n : Nat) : SpellsToken (.number (.natural n)) (Nat.toDigits 10 n)
  | string {s : String} {body} : SpellsString s.toList body →
      SpellsToken (.string s) ('"' :: (body ++ ['"']))

/-- The ways of writing tokens, with any spaces before, between and after
them. -/
inductive Spells : List Token → List Char → Prop
  | nil : Spells [] []
  | space {c ts cs} : isSpace c = true → Spells ts cs → Spells ts (c :: cs)
  | token {t piece ts cs} : SpellsToken t piece → Spells ts cs →
      Spells (t :: ts) (piece ++ cs)

/-! ## Strings -/

theorem spellsString_literal {cs : List Char} (h : cs.all isLiteral = true) :
    SpellsString cs cs := by
  induction cs with
  | nil => exact .nil
  | cons c cs ih =>
      obtain ⟨first, later⟩ := Bool.and_eq_true_iff.mp h
      exact .cons (.literal first) (ih later)

/-- A string may be written as it is, if nothing in it has to be escaped. -/
theorem spellsToken_literal (s : String) (h : s.toList.all isLiteral = true) :
    SpellsToken (.string s) ('"' :: (s.toList ++ ['"'])) :=
  .string (spellsString_literal h)

theorem hexValue?_of_mem {c : Char} {n : Nat} (h : (c, n) ∈ hexDigits) :
    hexValue? c = some n := by
  have all : ∀ digit ∈ hexDigits, hexValue? digit.1 = some digit.2 := by decide
  exact all (c, n) h

theorem scanHexUnit_of_spells {n : Nat} {digits : List Char}
    (h : SpellsUnit n digits) : scanHexUnit digits = .ok (n, []) := by
  unfold SpellsUnit at h
  split at h
  · next a b c d =>
      obtain ⟨ha, hb, hc, hd⟩ := h
      have value : hexUnit? a b c d = some n := by
        rw [hexUnit?, hexValue?_of_mem ha, hexValue?_of_mem hb,
          hexValue?_of_mem hc, hexValue?_of_mem hd]
        show some (_ : Nat) = some n
        congr 1
        omega
      rw [scanHexUnit, value]
  · cases h

/-- A code unit that is a character is no surrogate. -/
theorem not_surrogate (c : Char) :
    isLowSurrogate c.toNat = false ∧ isHighSurrogate c.toNat = false := by
  have valid : c.toNat.isValidChar := c.valid
  unfold Nat.isValidChar at valid
  simp only [isLowSurrogate, isHighSurrogate, Bool.and_eq_false_iff,
    decide_eq_false_iff_not]
  omega

theorem scanUnits_of_unit {c : Char} {digits : List Char}
    (h : SpellsUnit c.toNat digits) : scanUnits digits = .ok (c, []) := by
  obtain ⟨notLow, notHigh⟩ := not_surrogate c
  rw [scanUnits, scanHexUnit_of_spells h]
  simp only [notLow, notHigh, Bool.false_eq_true, if_false, Char.ofNat_toNat]

theorem scanUnits_of_pair {c : Char} {high low : List Char}
    (outside : 0x10000 ≤ c.toNat)
    (first : SpellsUnit (0xD800 + (c.toNat - 0x10000) / 0x400) high)
    (second : SpellsUnit (0xDC00 + (c.toNat - 0x10000) % 0x400) low) :
    scanUnits (high ++ '\\' :: 'u' :: low) = .ok (c, []) := by
  have valid : c.toNat.isValidChar := c.valid
  unfold Nat.isValidChar at valid
  have scanned := settled_scanHexUnit high _ [] ('\\' :: 'u' :: low)
    (scanHexUnit_of_spells first)
  have notLow :
      isLowSurrogate (0xD800 + (c.toNat - 0x10000) / 0x400) = false := by
    simp only [isLowSurrogate, Bool.and_eq_false_iff, decide_eq_false_iff_not]
    omega
  have isHigh :
      isHighSurrogate (0xD800 + (c.toNat - 0x10000) / 0x400) = true := by
    simp only [isHighSurrogate, Bool.and_eq_true, decide_eq_true_eq]
    omega
  have isLow :
      isLowSurrogate (0xDC00 + (c.toNat - 0x10000) % 0x400) = true := by
    simp only [isLowSurrogate, Bool.and_eq_true, decide_eq_true_eq]
    omega
  have value : ofSurrogates (0xD800 + (c.toNat - 0x10000) / 0x400)
      (0xDC00 + (c.toNat - 0x10000) % 0x400) = c := by
    rw [ofSurrogates, Nat.add_sub_cancel_left, Nat.add_sub_cancel_left,
      Nat.add_assoc, Nat.div_add_mod', Nat.add_sub_cancel' outside,
      Char.ofNat_toNat]
  rw [scanUnits, scanned]
  simp only [notLow, isHigh, Bool.false_eq_true, if_false, if_true,
    List.nil_append]
  rw [scanLowSurrogate, scanHexUnit_of_spells second]
  simp only [isLow, if_true, value]

theorem scanString_escape {cs rest : List Char} {c : Char}
    (h : scanEscape cs = .ok (c, rest)) :
    scanString ('\\' :: cs) =
      (scanString rest).map fun (xs, rest) => (c :: xs, rest) := by
  rw [scanString, if_neg (by decide), if_pos rfl]
  split
  · next same =>
      rw [h] at same
      cases same
      rfl
  · next same =>
      rw [h] at same
      cases same

theorem scanEscape_units {cs : List Char} {c : Char}
    (h : scanUnits cs = .ok (c, [])) (more : List Char) :
    scanEscape ('u' :: (cs ++ more)) = .ok (c, more) := by
  rw [scanEscape, if_pos rfl]
  exact settled_scanUnits cs c [] more h

theorem shortEscape?_of_mem {l c : Char} (h : (l, c) ∈ letterEscapes) :
    shortEscape? l = some c ∧ l ≠ 'u' := by
  have all : ∀ escape ∈ letterEscapes,
      shortEscape? escape.1 = some escape.2 ∧ escape.1 ≠ 'u' := by decide
  exact all (l, c) h

theorem scanString_of_spellsChar {c : Char} {piece : List Char}
    (h : SpellsChar c piece) (more : List Char) :
    scanString (piece ++ more) =
      (scanString more).map fun (xs, rest) => (c :: xs, rest) := by
  cases h with
  | literal literal =>
      simp only [isLiteral, Bool.and_eq_true, decide_eq_true_eq] at literal
      obtain ⟨⟨printable, noQuote⟩, noBackslash⟩ := literal
      rw [List.singleton_append, scanString, if_neg noQuote, if_neg noBackslash,
        if_neg (Nat.not_lt.mpr printable)]
  | @letter l mem =>
      obtain ⟨short, noUnits⟩ := shortEscape?_of_mem mem
      refine scanString_escape ?_
      show scanEscape (l :: more) = _
      rw [scanEscape, if_neg noUnits, short]
  | unit digits =>
      exact scanString_escape (scanEscape_units (scanUnits_of_unit digits) more)
  | pair outside first second =>
      have units := scanUnits_of_pair outside first second
      exact scanString_escape (scanEscape_units units more)

theorem scanString_of_spells {cs body : List Char} (h : SpellsString cs body)
    (more : List Char) : scanString (body ++ '"' :: more) = .ok (cs, more) := by
  induction h with
  | nil => rw [List.nil_append, scanString, if_pos rfl]
  | cons char _ ih =>
      rw [List.append_assoc, scanString_of_spellsChar char, ih]
      rfl

/-! ## Numerals -/

/-- The character can go on a numeral, or be mistaken for it. -/
def continuesNumeral (c : Char) : Bool :=
  c.isDigit || c = '.' || c = 'e' || c = 'E'

theorem le_ofDigitChars (ds : List Char) (n : Nat) :
    n ≤ Nat.ofDigitChars 10 ds n := by
  induction ds generalizing n with
  | nil => exact Nat.le_refl n
  | cons c ds ih =>
      rw [Nat.ofDigitChars_cons]
      exact Nat.le_trans (by omega) (ih _)

/-- Digits that write a number of 64 bits are all taken. -/
theorem takeWhole_of_fits {s : Number.Significand} {ds : List Char}
    (fits : Nat.ofDigitChars 10 ds s.value < Number.wordBound) :
    s.takeWhole ds = ⟨Nat.ofDigitChars 10 ds s.value, s.power⟩ := by
  induction ds generalizing s with
  | nil => rfl
  | cons c ds ih =>
      rw [Nat.ofDigitChars_cons, Nat.mul_comm 10] at fits ⊢
      have next := Nat.lt_of_le_of_lt (le_ofDigitChars ds _) fits
      exact (if_pos next).trans (ih fits)

theorem toDigits_cons (n : Nat) :
    ∃ d ds, Nat.toDigits 10 n = d :: ds ∧ d.isDigit = true := by
  obtain ⟨d, ds, written⟩ := List.exists_cons_of_ne_nil
    (Nat.toDigits_ne_nil (n := n) (b := 10))
  exact ⟨d, ds, written,
    Text.isDigit_toDigits n d (written ▸ List.mem_cons_self)⟩

theorem toDigits_head {n : Nat} {ds : List Char}
    (h : Nat.toDigits 10 n = '0' :: ds) : n = 0 := by
  induction n using Nat.strongRecOn generalizing ds with
  | ind n ih =>
      by_cases small : n < 10
      · rw [Nat.toDigits_of_lt_base small] at h
        exact Nat.digitChar_eq_zero.mp (List.cons.inj h).1
      · rw [Nat.toDigits_of_base_le (by decide) (Nat.not_lt.mp small)] at h
        obtain ⟨d, ds', same, -⟩ := toDigits_cons (n / 10)
        rw [same, List.cons_append] at h
        rw [(List.cons.inj h).1] at same
        have := ih (n / 10) (by omega) same
        omega

theorem scanDigits_append {ds rest : List Char} (nonempty : ds ≠ [])
    (digits : ∀ d ∈ ds, d.isDigit = true)
    (ended : ∀ c ∈ rest.head?, c.isDigit = false) :
    scanDigits (ds ++ rest) = .ok (ds, rest) := by
  cases ds with
  | nil => exact absurd rfl nonempty
  | cons d ds =>
      obtain ⟨taken, left⟩ := Text.run_append
        (fun d mem => digits d (List.mem_cons_of_mem _ mem)) ended
      rw [List.cons_append, scanDigits, if_pos (digits d List.mem_cons_self),
        taken, left]

theorem scanWhole_toDigits (n : Nat) {rest : List Char}
    (ended : ∀ c ∈ rest.head?, c.isDigit = false) :
    scanWhole (Nat.toDigits 10 n ++ rest) = .ok (Nat.toDigits 10 n, rest) := by
  rw [scanWhole,
    scanDigits_append Nat.toDigits_ne_nil (Text.isDigit_toDigits n) ended]
  split
  · next same =>
      have written := (Prod.mk.inj (Except.ok.inj same)).1
      rw [toDigits_head written, Nat.toDigits_zero] at written
      cases written
  · rfl

/-- A count is read from its digits, if it has 64 bits and nothing follows that
belongs to a numeral. -/
theorem scanNumber_toDigits {n : Nat} (fits : n < Number.wordBound)
    {rest : List Char} (ended : ∀ c ∈ rest.head?, continuesNumeral c = false) :
    scanNumber (Nat.toDigits 10 n ++ rest) = .ok (.natural n, rest) := by
  have noDigit : ∀ c ∈ rest.head?, c.isDigit = false := by
    intro c first
    have := ended c first
    simp only [continuesNumeral, Bool.or_eq_false_iff] at this
    exact this.1.1.1
  have value : Number.ofWhole false (Nat.toDigits 10 n) = .ok (.natural n) := by
    have all : Nat.ofDigitChars 10 (Nat.toDigits 10 n) 0 = n :=
      Nat.ofDigitChars_ten_toDigits
    have taken : Number.Significand.takeWhole ⟨0, 0⟩ (Nat.toDigits 10 n) =
        ⟨Nat.ofDigitChars 10 (Nat.toDigits 10 n) 0, 0⟩ :=
      takeWhole_of_fits (all.symm ▸ fits)
    simp only [Number.ofWhole, taken, all]
    rfl
  have unsigned : scanUnsigned false (Nat.toDigits 10 n ++ rest) =
      .ok (.natural n, rest) := by
    rw [scanUnsigned, scanWhole_toDigits n noDigit]
    simp only [bind, Except.bind]
    split
    · cases ended '.' rfl
    · cases ended 'e' rfl
    · cases ended 'E' rfl
    · rw [value]
      rfl
  unfold scanNumber
  split
  · next same =>
      obtain ⟨d, ds, written, digit⟩ := toDigits_cons n
      rw [written, List.cons_append] at same
      rw [(List.cons.inj same).1] at digit
      cases digit
  · exact unsigned

/-! ## Tokens -/

/-- No numeral comes first, so one may stand before. -/
def Apart (ts : List Token) : Prop :=
  ∀ n, ts.head? ≠ some (.number n)

/-- No numeral stands next to another, and each has 64 bits. -/
inductive Legible : List Token → Prop
  | nil : Legible []
  | natural {n ts} : n < Number.wordBound → Apart ts → Legible ts →
      Legible (.number (.natural n) :: ts)
  | other {t ts} : (∀ n, t ≠ .number n) → Legible ts → Legible (t :: ts)

theorem tokens_cons {c : Char} {cs rest : List Char} {t : Token}
    (noSpace : isSpace c = false) (h : scanToken c cs = .ok (t, rest)) :
    tokens (c :: cs) = t :: tokens rest := by
  rw [tokens, if_neg (Bool.eq_false_iff.mp noSpace)]
  split
  · next same =>
      rw [h] at same
      cases same
      rfl
  · next same =>
      rw [h] at same
      cases same

theorem scanToken_of_digit {d : Char} {cs rest : List Char} {n : Number}
    (digit : d.isDigit = true) (h : scanNumber (d :: cs) = .ok (n, rest)) :
    scanToken d cs = .ok (.number n, rest) := by
  have noMark : punctuation? d = none := by
    unfold punctuation?
    split
    all_goals first | rfl | cases digit
  have noWord : word? d = none := by
    unfold word?
    split
    all_goals first | rfl | cases digit
  have noQuote : d ≠ '"' := by
    rintro rfl
    cases digit
  have starts : (d = '-' || d.isDigit) = true := by
    rw [digit, Bool.or_true]
  simp only [scanToken, noMark, noWord]
  rw [if_neg noQuote, if_pos starts, h]

theorem scanToken_quote {cs xs rest : List Char}
    (h : scanString cs = .ok (xs, rest)) :
    scanToken '"' cs = .ok (.string (String.ofList xs), rest) := by
  have noMark : punctuation? '"' = none := rfl
  have noWord : word? '"' = none := rfl
  simp only [scanToken, noMark, noWord]
  rw [if_pos trivial, h]

theorem continuesNumeral_of_isSpace {c : Char} (h : isSpace c = true) :
    continuesNumeral c = false := by
  simp only [isSpace, Bool.or_eq_true, decide_eq_true_eq] at h
  rcases h with ((rfl | rfl) | rfl) | rfl
  all_goals rfl

theorem isSpace_of_isDigit {d : Char} (h : d.isDigit = true) :
    isSpace d = false := by
  cases space : isSpace d with
  | false => rfl
  | true =>
      have := continuesNumeral_of_isSpace space
      rw [continuesNumeral, h] at this
      cases this

/-- What follows a numeral does not belong to it. -/
theorem not_continuesNumeral {ts : List Token} {cs : List Char}
    (h : Spells ts cs) (apart : Apart ts) :
    ∀ c ∈ cs.head?, continuesNumeral c = false := by
  intro c first
  cases h with
  | nil => cases first
  | space space _ =>
      cases first
      exact continuesNumeral_of_isSpace space
  | token spelled _ =>
      cases spelled with
      | natural n => exact absurd rfl (apart (.natural n))
      | word w =>
          cases w
          all_goals
            cases first
            rfl
      | _ =>
          cases first
          rfl

theorem Legible.tail {t : Token} {ts : List Token} (h : Legible (t :: ts)) :
    Legible ts := by
  cases h with
  | natural _ _ later => exact later
  | other _ later => exact later

/-- A text that spells tokens is cut into these tokens. -/
theorem tokens_of_spells {ts : List Token} {cs : List Char} (h : Spells ts cs)
    (legible : Legible ts) : tokens cs = ts := by
  induction h with
  | nil => rw [tokens]
  | space space _ ih =>
      rw [tokens, if_pos space]
      exact ih legible
  | @token t piece ts cs spelled later ih =>
      rw [← ih legible.tail]
      cases spelled with
      | word w =>
          cases w
          all_goals exact tokens_cons rfl rfl
      | natural n =>
          cases legible with
          | natural fits apart _ =>
              have ended := not_continuesNumeral later apart
              have scanned := scanNumber_toDigits fits ended
              obtain ⟨d, ds, written, digit⟩ := toDigits_cons n
              rw [written, List.cons_append] at scanned ⊢
              exact tokens_cons (isSpace_of_isDigit digit)
                (scanToken_of_digit digit scanned)
          | other noNumeral _ => exact absurd rfl (noNumeral (.natural n))
      | @string s body chars =>
          have scanned := scanString_of_spells chars cs
          refine tokens_cons rfl ?_
          rw [List.append_eq, List.append_assoc, List.singleton_append,
            scanToken_quote scanned, String.ofList_toList]
      | _ => exact tokens_cons rfl rfl

/-! ## There is a way -/

theorem exists_spellsUnit {n : Nat} (h : n < 0x10000) :
    ∃ digits, SpellsUnit n digits := by
  have all : ∀ n < 0x10, ∃ c, (c, n) ∈ hexDigits := by
    intro n small
    have here : n ∈ hexDigits.map Prod.snd := by
      revert n
      decide
    obtain ⟨digit, mem, rfl⟩ := List.mem_map.mp here
    exact ⟨digit.1, mem⟩
  obtain ⟨a, ha⟩ := all (n / 0x1000) (by omega)
  obtain ⟨b, hb⟩ := all (n / 0x100 % 0x10) (by omega)
  obtain ⟨c, hc⟩ := all (n / 0x10 % 0x10) (by omega)
  obtain ⟨d, hd⟩ := all (n % 0x10) (by omega)
  exact ⟨[a, b, c, d], ha, hb, hc, hd⟩

theorem exists_spellsChar (c : Char) : ∃ piece, SpellsChar c piece := by
  by_cases basic : c.toNat < 0x10000
  · obtain ⟨digits, unit⟩ := exists_spellsUnit basic
    exact ⟨_, .unit unit⟩
  · have valid : c.toNat.isValidChar := c.valid
    unfold Nat.isValidChar at valid
    obtain ⟨high, first⟩ : ∃ high,
        SpellsUnit (0xD800 + (c.toNat - 0x10000) / 0x400) high :=
      exists_spellsUnit (by omega)
    obtain ⟨low, second⟩ : ∃ low,
        SpellsUnit (0xDC00 + (c.toNat - 0x10000) % 0x400) low :=
      exists_spellsUnit (by omega)
    exact ⟨_, .pair (Nat.not_lt.mp basic) first second⟩

theorem exists_spellsString (cs : List Char) : ∃ body, SpellsString cs body := by
  induction cs with
  | nil => exact ⟨[], .nil⟩
  | cons c cs ih =>
      obtain ⟨piece, char⟩ := exists_spellsChar c
      obtain ⟨body, chars⟩ := ih
      exact ⟨piece ++ body, .cons char chars⟩

/-- There is a way of writing the token. -/
def Token.Writable (t : Token) : Prop :=
  ∃ piece, SpellsToken t piece

theorem writable_string (s : String) : (Token.string s).Writable :=
  (exists_spellsString s.toList).elim fun _ body => ⟨_, .string body⟩

theorem exists_spells {ts : List Token} (h : ∀ t ∈ ts, t.Writable) :
    ∃ cs, Spells ts cs := by
  induction ts with
  | nil => exact ⟨[], .nil⟩
  | cons t ts ih =>
      obtain ⟨piece, spelled⟩ := h t List.mem_cons_self
      obtain ⟨cs, later⟩ := ih fun t mem => h t (List.mem_cons_of_mem _ mem)
      exact ⟨piece ++ cs, .token spelled later⟩

end SpatialSql.Json
