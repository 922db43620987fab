import SpatialSql.Json.Fault

/-!
# Strings of a JSON document

What stands between two quotes: characters that stand for themselves and
escapes, which are a letter or one or two UTF-16 code units in hexadecimal. Each
scanning function takes the characters from a place on and answers what it read
with the characters after it, which are fewer.
-/

namespace SpatialSql.Json

/-- The value of a hexadecimal digit of either case. -/
def hexValue? (c : Char) : Option Nat :=
  if '0' ≤ c && c ≤ '9' then some (c.toNat - '0'.toNat)
  else if 'a' ≤ c && c ≤ 'f' then some (c.toNat - 'a'.toNat + 10)
  else if 'A' ≤ c && c ≤ 'F' then some (c.toNat - 'A'.toNat + 10)
  else none

/-- The number written by four hexadecimal digits. -/
def hexUnit? (a b c d : Char) : Option Nat := do
  pure ((((← hexValue? a) * 16 + (← hexValue? b)) * 16 + (← hexValue? c)) * 16 +
    (← hexValue? d))

/-- Reads four hexadecimal digits. The document ends too early if it has fewer
than four bytes left. -/
def scanHexUnit : List Char → Except Fault (Nat × List Char)
  | a :: b :: c :: d :: rest =>
    match hexUnit? a b c d with
    | some n => .ok (n, rest)
    | none => .error .invalidEscape
  | cs =>
    if (String.ofList cs).utf8ByteSize < 4 then .error .endInString
    else .error .invalidEscape

/-- The unit is the first of a surrogate pair. -/
def isHighSurrogate (n : Nat) : Bool :=
  0xD800 ≤ n && n ≤ 0xDBFF

/-- The unit is the second of a surrogate pair. -/
def isLowSurrogate (n : Nat) : Bool :=
  0xDC00 ≤ n && n ≤ 0xDFFF

/-- The character that a surrogate pair stands for. -/
def ofSurrogates (high low : Nat) : Char :=
  Char.ofNat (0x10000 + (high - 0xD800) * 0x400 + (low - 0xDC00))

/-- Reads the second half of a surrogate pair, which is an escape of its own. -/
def scanLowSurrogate (high : Nat) : List Char → Except Fault (Char × List Char)
  | [] | ['\\'] => .error .endInString
  | '\\' :: 'u' :: cs =>
    match scanHexUnit cs with
    | .ok (low, rest) =>
      if isLowSurrogate low then .ok (ofSurrogates high low, rest)
      else .error .loneSurrogate
    | .error fault => .error fault
  | _ => .error .unpairedHighSurrogate

/-- Reads an escape by code units, after its `\u`. -/
def scanUnits (cs : List Char) : Except Fault (Char × List Char) :=
  match scanHexUnit cs with
  | .ok (n, rest) =>
    if isLowSurrogate n then .error .loneSurrogate
    else if isHighSurrogate n then scanLowSurrogate n rest
    else .ok (Char.ofNat n, rest)
  | .error fault => .error fault

/-- The character that a one-letter escape stands for. -/
def shortEscape? : Char → Option Char
  | '"' => some '"'
  | '\\' => some '\\'
  | '/' => some '/'
  | 'b' => some '\x08'
  | 'f' => some '\x0c'
  | 'n' => some '\n'
  | 'r' => some '\r'
  | 't' => some '\t'
  | _ => none

/-- Reads an escape, after its backslash. -/
def scanEscape : List Char → Except Fault (Char × List Char)
  | [] => .error .endInString
  | c :: cs =>
    if c = 'u' then scanUnits cs
    else
      match shortEscape? c with
      | some x => .ok (x, cs)
      | none => .error .invalidEscape

theorem length_scanHexUnit {cs rest : List Char} {n : Nat}
    (h : scanHexUnit cs = .ok (n, rest)) :
    rest.length < cs.length := by
  unfold scanHexUnit at h
  split at h
  · split at h
    · cases h
      simp only [List.length_cons]
      omega
    · cases h
  · split at h <;> cases h

theorem length_scanLowSurrogate {high : Nat} {cs rest : List Char} {x : Char}
    (h : scanLowSurrogate high cs = .ok (x, rest)) : rest.length < cs.length := by
  unfold scanLowSurrogate at h
  split at h
  · cases h
  · cases h
  · split at h
    · rename_i low rest' scanned
      split at h
      · have := length_scanHexUnit scanned
        simp only [Except.ok.injEq, Prod.mk.injEq] at h
        rw [← h.2]
        simp only [List.length_cons]
        omega
      · cases h
    · cases h
  · cases h

theorem length_scanUnits {cs rest : List Char} {x : Char}
    (h : scanUnits cs = .ok (x, rest)) :
    rest.length < cs.length := by
  unfold scanUnits at h
  split at h
  · rename_i n rest' scanned
    have shorter := length_scanHexUnit scanned
    split at h
    · cases h
    · split at h
      · exact Nat.lt_trans (length_scanLowSurrogate h) shorter
      · cases h
        exact shorter
  · cases h

theorem length_scanEscape {cs rest : List Char} {x : Char}
    (h : scanEscape cs = .ok (x, rest)) :
    rest.length < cs.length := by
  cases cs with
  | nil => cases h
  | cons c cs =>
    rw [scanEscape] at h
    split at h
    · have := length_scanUnits h
      simp only [List.length_cons]
      omega
    · split at h
      · cases h
        simp
      · cases h

/-- Reads a string, after its opening quote: what it says, and the characters
after its closing quote. -/
def scanString : List Char → Except Fault (List Char × List Char)
  | [] => .error .endInString
  | c :: cs =>
    if c = '"' then .ok ([], cs)
    else if c = '\\' then
      match _h : scanEscape cs with
      | .ok (x, rest) => (scanString rest).map fun (xs, rest) => (x :: xs, rest)
      | .error fault => .error fault
    else if c.toNat < 0x20 then .error .controlCharacter
    else (scanString cs).map fun (xs, rest) => (c :: xs, rest)
termination_by cs => cs.length
decreasing_by
  · have := length_scanEscape _h
    simp only [List.length_cons]
    omega
  · simp

/-- Prepending a character to what a scan read leaves the characters after it as
they are. -/
theorem rest_of_map_cons {r : Except Fault (List Char × List Char)} {x : Char}
    {xs rest : List Char}
    (h : r.map (fun (ys, rest') => (x :: ys, rest')) = .ok (xs, rest)) :
    ∃ ys, r = .ok (ys, rest) := by
  rcases r with fault | ⟨ys, rest'⟩
  · cases h
  · simp only [Except.map, Except.ok.injEq, Prod.mk.injEq] at h
    exact ⟨ys, by rw [h.2]⟩

theorem length_scanString {cs rest xs : List Char}
    (h : scanString cs = .ok (xs, rest)) :
    rest.length < cs.length := by
  fun_induction scanString cs generalizing xs rest with
  | case1 => cases h
  | case2 => cases h; simp
  | case3 cs x rest' scanned _ ih =>
    obtain ⟨ys, inner⟩ := rest_of_map_cons h
    have := ih inner
    have := length_scanEscape scanned
    simp only [List.length_cons]
    omega
  | case4 => cases h
  | case5 => cases h
  | case6 c cs _ _ _ ih =>
    obtain ⟨ys, inner⟩ := rest_of_map_cons h
    have := ih inner
    simp only [List.length_cons]
    omega

end SpatialSql.Json
