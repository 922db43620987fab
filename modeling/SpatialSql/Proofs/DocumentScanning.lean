import SpatialSql.Json.Lexer

/-!
# Scanning does not look behind what it has read

A JSON document is cut into tokens from left to right, and what is put behind a
document changes none of the tokens that were complete. Strings end at their
quote and words at their last letter, so for them the characters behind never
matter. A numeral has no end of its own, so there has to be one character
behind it that does not belong to it; once there is one, the rest is of no
consequence.

`tokens_append` is what this comes to for whole documents. A bracket that closes
shows its end, so if it is the last token of a document then the tokens of a
longer one are those of the document and those of what was put behind it.
-/

namespace SpatialSql.Json

/-- What was read is read again when more is put behind it, and the more is
left. -/
def Settled {α : Type} (scan : List Char → Except Fault (α × List Char)) : Prop :=
  ∀ cs a rest more, scan cs = .ok (a, rest) →
    scan (cs ++ more) = .ok (a, rest ++ more)

/-- The same, provided that something was left already. -/
def SettledBefore {α : Type} (scan : List Char → Except Fault (α × List Char)) :
    Prop :=
  ∀ cs a rest more, scan cs = .ok (a, rest) → rest ≠ [] →
    scan (cs ++ more) = .ok (a, rest ++ more)

theorem map_eq_ok {ε α β : Type} {r : Except ε α} {f : α → β} {b : β}
    (h : r.map f = .ok b) : ∃ a, r = .ok a ∧ f a = b := by
  cases r with
  | error e => cases h
  | ok a => exact ⟨a, rfl, Except.ok.inj h⟩

theorem bind_eq_ok {ε α β : Type} {r : Except ε α} {f : α → Except ε β} {b : β}
    (h : r >>= f = .ok b) : ∃ a, r = .ok a ∧ f a = .ok b := by
  cases r with
  | error e => cases h
  | ok a => exact ⟨a, rfl, h⟩

/-! ## Words and strings -/

theorem settled_scanLetters (letters : List Char) :
    ∀ cs rest more, scanLetters letters cs = .ok rest →
      scanLetters letters (cs ++ more) = .ok (rest ++ more) := by
  induction letters with
  | nil =>
      intro cs rest more h
      obtain rfl := Except.ok.inj h
      rfl
  | cons l letters ih =>
      intro cs rest more h
      cases cs with
      | nil => cases h
      | cons c cs =>
          rw [scanLetters] at h
          rw [List.cons_append, scanLetters]
          split at h
          · next same =>
              rw [if_pos same]
              exact ih cs rest more h
          · cases h

theorem settled_scanHexUnit : Settled scanHexUnit := by
  intro cs n rest more h
  unfold scanHexUnit at h
  split at h
  · next a b c d rest' =>
      rw [List.cons_append, List.cons_append, List.cons_append, List.cons_append,
        scanHexUnit]
      split at h
      · cases h
        rfl
      · cases h
  · split at h <;> cases h

theorem settled_scanLowSurrogate (high : Nat) :
    Settled (scanLowSurrogate high) := by
  intro cs x rest more h
  unfold scanLowSurrogate at h
  split at h
  · cases h
  · cases h
  · next cs' =>
      unfold scanLowSurrogate
      split at h
      · next low rest' scanned =>
          have again := settled_scanHexUnit cs' low rest' more scanned
          simp only [List.cons_append, again]
          split at h
          · next isLow =>
              obtain ⟨rfl, rfl⟩ := Prod.mk.inj (Except.ok.inj h)
              rw [if_pos isLow]
          · cases h
      · cases h
  · cases h

theorem settled_scanUnits : Settled scanUnits := by
  intro cs x rest more h
  unfold scanUnits at h ⊢
  split at h
  · next n rest' scanned =>
      simp only [settled_scanHexUnit cs n rest' more scanned]
      split at h
      · cases h
      · next notLow =>
          rw [if_neg notLow]
          split at h
          · next isHigh =>
              rw [if_pos isHigh]
              exact settled_scanLowSurrogate n rest' x rest more h
          · next notHigh =>
              rw [if_neg notHigh]
              cases h
              rfl
  · cases h

theorem settled_scanEscape : Settled scanEscape := by
  intro cs x rest more h
  cases cs with
  | nil => cases h
  | cons c cs =>
      rw [scanEscape] at h
      rw [List.cons_append, scanEscape]
      split at h
      · next units =>
          rw [if_pos units]
          exact settled_scanUnits cs x rest more h
      · next notUnits =>
          rw [if_neg notUnits]
          split at h
          · cases h
            rfl
          · cases h

theorem settled_scanString : Settled scanString := by
  intro cs xs rest more h
  fun_induction scanString cs generalizing xs rest with
  | case1 => cases h
  | case2 cs =>
      cases h
      rw [List.cons_append, scanString, if_pos rfl]
  | case3 cs x rest' scanned notQuote ih =>
      obtain ⟨⟨ys, rest''⟩, inner, heq⟩ := map_eq_ok h
      cases heq
      have escape := settled_scanEscape cs x rest' more scanned
      rw [List.cons_append, scanString, if_neg notQuote, if_pos rfl]
      split
      · next escape' =>
          rw [escape] at escape'
          cases escape'
          rw [ih _ _ inner]
          rfl
      · next escape' =>
          rw [escape] at escape'
          cases escape'
  | case4 => cases h
  | case5 => cases h
  | case6 c cs notQuote notEscape printable ih =>
      obtain ⟨⟨ys, rest'⟩, inner, heq⟩ := map_eq_ok h
      cases heq
      rw [List.cons_append, scanString, if_neg notQuote, if_neg notEscape,
        if_neg printable, ih _ _ inner]
      rfl

/-! ## Numerals -/

theorem settled_scanDigits : SettledBefore scanDigits := by
  intro cs ds rest more h left
  cases cs with
  | nil => cases h
  | cons c cs =>
      rw [scanDigits] at h
      rw [List.cons_append, scanDigits]
      split at h
      · next digit =>
          cases h
          have stops : (cs.dropWhile Char.isDigit).isEmpty = false := by
            rw [List.isEmpty_eq_false_iff]
            exact left
          have shorter : (cs.takeWhile Char.isDigit).length ≠ cs.length := by
            intro all
            have whole := congrArg List.length
              (List.takeWhile_append_dropWhile (p := Char.isDigit) (l := cs))
            rw [List.length_append] at whole
            exact left (List.length_eq_zero_iff.mp (by omega))
          rw [if_pos digit, List.takeWhile_append, if_neg shorter,
            List.dropWhile_append, stops]
          rfl
      · cases h

theorem settled_scanWhole : SettledBefore scanWhole := by
  intro cs ds rest more h left
  unfold scanWhole at h ⊢
  split at h
  · cases h
  · next notZero =>
      rw [settled_scanDigits cs ds rest more h left]
      split
      · next same =>
          cases same
          exact absurd h (notZero _ _ _)
      · rfl

/-- Digits whose value is taken, as the power of ten takes it. -/
theorem settled_map_scanDigits (value : List Char → Int) :
    SettledBefore fun cs => (scanDigits cs).map fun (ds, rest) =>
      (value ds, rest) := by
  intro cs power rest more h left
  obtain ⟨⟨ds, rest'⟩, scanned, heq⟩ := map_eq_ok h
  cases heq
  show Except.map _ (scanDigits (cs ++ more)) = _
  rw [settled_scanDigits cs ds rest more scanned left]
  rfl

theorem settled_scanPower : SettledBefore scanPower := by
  intro cs power rest more h left
  cases cs with
  | nil => cases h
  | cons c cs =>
      unfold scanPower at h
      split at h
      · next cs' same =>
          cases same
          exact settled_map_scanDigits (fun ds => -(digitsValue ds : Int))
            cs power rest more h left
      · next cs' same =>
          cases same
          exact settled_map_scanDigits (fun ds => (digitsValue ds : Int))
            cs power rest more h left
      · next notMinus notPlus =>
          rw [List.cons_append, scanPower]
          · exact settled_map_scanDigits (fun ds => (digitsValue ds : Int))
              (c :: cs) power rest more h left
          · intro cs' same
            cases same
            exact notMinus cs rfl
          · intro cs' same
            cases same
            exact notPlus cs rfl

theorem settled_scanScale (isNegative : Bool) (s : Number.Significand) :
    SettledBefore (scanScale isNegative s) := by
  intro cs n rest more h left
  unfold scanScale at h
  split at h
  · next c cs =>
      rw [List.cons_append, scanScale]
      split at h
      · next letter =>
          obtain ⟨⟨power, rest'⟩, scanned, h⟩ := bind_eq_ok h
          obtain ⟨number, value, heq⟩ := bind_eq_ok h
          cases heq
          rw [if_pos letter,
            settled_scanPower cs power rest more scanned left]
          show (Number.ofSignificand _ _ >>= _) = _
          rw [value]
          rfl
      · next noLetter =>
          obtain ⟨number, value, heq⟩ := map_eq_ok h
          cases heq
          rw [if_neg noLetter, value]
          rfl
  · exact absurd (rest_of_map_pair h) left

/-- What is left behind a scale was there before it. -/
theorem scanScale_leaves {isNegative : Bool} {s : Number.Significand}
    {cs rest : List Char} {n : Number}
    (h : scanScale isNegative s cs = .ok (n, rest)) (left : rest ≠ []) :
    cs ≠ [] := by
  rintro rfl
  exact left (List.length_eq_zero_iff.mp (Nat.le_zero.mp (length_scanScale h)))

theorem settled_scanUnsigned (isNegative : Bool) :
    SettledBefore (scanUnsigned isNegative) := by
  intro cs n rest more h left
  unfold scanUnsigned at h ⊢
  obtain ⟨⟨whole, rest'⟩, scanned, h⟩ := bind_eq_ok h
  cases rest' with
  | nil =>
      obtain ⟨number, value, heq⟩ := map_eq_ok h
      cases heq
      exact absurd rfl left
  | cons c rest' =>
      rw [settled_scanWhole cs whole (c :: rest') more scanned nofun]
      simp only [bind, Except.bind, List.cons_append] at h ⊢
      split at h
      · next after same =>
          cases same
          obtain ⟨⟨fraction, rest''⟩, scanned', h⟩ := bind_eq_ok h
          have followed := scanScale_leaves h left
          have digits :=
            settled_scanDigits rest' fraction rest'' more scanned' followed
          simp only [digits]
          exact settled_scanScale _ _ rest'' n rest more h left
      · next same =>
          cases same
          exact settled_scanScale _ _ ('e' :: rest') n rest more h left
      · next same =>
          cases same
          exact settled_scanScale _ _ ('E' :: rest') n rest more h left
      · next notPoint notLower notUpper =>
          obtain ⟨number, value, heq⟩ := map_eq_ok h
          cases heq
          split
          · next same =>
              cases same
              exact absurd rfl (notPoint _)
          · next same =>
              cases same
              exact absurd rfl (notLower _)
          · next same =>
              cases same
              exact absurd rfl (notUpper _)
          · rw [value]
            rfl

theorem settled_scanNumber : SettledBefore scanNumber := by
  intro cs n rest more h left
  cases cs with
  | nil => cases h
  | cons c cs =>
      unfold scanNumber at h
      split at h
      · next cs' same =>
          cases same
          exact settled_scanUnsigned true cs n rest more h left
      · next notMinus =>
          rw [List.cons_append, scanNumber]
          · exact settled_scanUnsigned false (c :: cs) n rest more h left
          · intro cs' same
            cases same
            exact notMinus cs rfl

/-! ## Tokens -/

/-- What was read of a token is read again, unless it is a numeral at the end. -/
theorem settled_scanToken {c : Char} {cs rest : List Char} {token : Token}
    (more : List Char) (h : scanToken c cs = .ok (token, rest))
    (ended : rest ≠ [] ∨ ∀ n, token ≠ .number n) :
    scanToken c (cs ++ more) = .ok (token, rest ++ more) := by
  unfold scanToken at h ⊢
  split at h
  · cases h
    rfl
  · split at h
    · split at h
      · next w _ _ scanned =>
          cases h
          rw [settled_scanLetters _ cs rest more scanned]
      · cases h
    · split at h
      · next quote =>
          rw [if_pos quote]
          split at h
          · next scanned =>
              cases h
              rw [settled_scanString cs _ rest more scanned]
          · cases h
      · next noQuote =>
          rw [if_neg noQuote]
          split at h
          · next digit =>
              rw [if_pos digit]
              split at h
              · next n _ scanned =>
                  cases h
                  have left : rest ≠ [] :=
                    ended.resolve_right fun other => other n rfl
                  have again :=
                    settled_scanNumber (c :: cs) n rest more scanned left
                  rw [List.cons_append] at again
                  rw [again]
              · cases h
          · cases h

namespace Token

/-- The token starts an object or an array. -/
def opens : Token → Bool
  | openObject | openArray => true
  | _ => false

/-- The token ends an object or an array. -/
def closes : Token → Bool
  | closeObject | closeArray => true
  | _ => false

end Token

theorem closes_broken {c : Char} {cs : List Char} {token : Token}
    (h : scanToken c cs = .error token) : token.closes = false := by
  unfold scanToken at h
  split at h
  · cases h
  · split at h
    · split at h
      · cases h
      · cases h
        rfl
    · split at h
      · split at h
        · cases h
        · cases h
          rfl
      · split at h
        · split at h
          · cases h
          · cases h
            rfl
        · cases h
          rfl

/-- A text whose last token closes an object or an array keeps its tokens when
it is prolonged. -/
theorem tokens_append {cs : List Char} (more : List Char)
    (closed : ∀ token ∈ (tokens cs).getLast?, token.closes = true) :
    tokens (cs ++ more) = tokens cs ++ tokens more := by
  fun_induction tokens cs with
  | case1 => rfl
  | case2 c cs space ih =>
      rw [List.cons_append, tokens, if_pos space]
      exact ih closed
  | case3 c cs noSpace token rest scanned ih =>
      have ended : rest ≠ [] ∨ ∀ n, token ≠ .number n := by
        cases rest with
        | nil =>
            refine .inr fun n same => ?_
            rw [same, tokens] at closed
            cases closed (.number n) rfl
        | cons => exact .inl nofun
      have again := settled_scanToken more scanned ended
      have laterClosed : ∀ t ∈ (tokens rest).getLast?, t.closes = true := by
        intro t last
        refine closed t ?_
        rw [List.getLast?_cons, Option.mem_def.mp last]
        rfl
      rw [List.cons_append, tokens, if_neg noSpace]
      split
      · next again' =>
          rw [again] at again'
          cases again'
          rw [ih laterClosed]
          rfl
      · next again' =>
          rw [again] at again'
          cases again'
  | case4 c cs noSpace token scanned =>
      have := closed token rfl
      rw [closes_broken scanned] at this
      cases this

theorem isSpace_of_tokens {cs : List Char} (h : tokens cs = []) :
    ∀ c ∈ cs, isSpace c = true := by
  fun_induction tokens cs with
  | case1 => nofun
  | case2 c cs space ih =>
      intro d mem
      rcases List.mem_cons.mp mem with rfl | later
      · exact space
      · exact ih h d later
  | case3 => cases h
  | case4 => cases h

end SpatialSql.Json
