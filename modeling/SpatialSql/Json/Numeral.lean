import SpatialSql.Json.Number

/-!
# Numerals of a JSON document

A numeral has a whole part, which starts with a zero only if it is one, and may
have a fraction and a power of ten. A part without a digit is a fault; at the
end of the document it is the fault of a document that ends too early.
-/

namespace SpatialSql.Json

/-- Reads one digit or more. -/
def scanDigits : List Char → Except Fault (List Char × List Char)
  | [] => .error .endInValue
  | c :: cs =>
    if c.isDigit then
      .ok (c :: cs.takeWhile Char.isDigit, cs.dropWhile Char.isDigit)
    else .error .invalidNumber

/-- Reads the whole part. -/
def scanWhole (cs : List Char) : Except Fault (List Char × List Char) :=
  match scanDigits cs with
  | .ok ('0' :: _ :: _, _) => .error .invalidNumber
  | scanned => scanned

/-- The number that digits write. -/
def digitsValue (ds : List Char) : Nat :=
  ds.foldl (fun n c => n * 10 + Number.digitValue c) 0

/-- Reads a power of ten, after the letter that announces it. -/
def scanPower : List Char → Except Fault (Int × List Char)
  | '-' :: cs => (scanDigits cs).map fun (ds, rest) => (-(digitsValue ds : Int), rest)
  | '+' :: cs => (scanDigits cs).map fun (ds, rest) => ((digitsValue ds : Int), rest)
  | cs => (scanDigits cs).map fun (ds, rest) => ((digitsValue ds : Int), rest)

/-- Reads the power of ten of a numeral with this significand, if it has one,
and finds the numeral's value. -/
def scanScale (isNegative : Bool) (s : Number.Significand) (cs : List Char) :
    Except Fault (Number × List Char) :=
  match cs with
  | c :: rest =>
    if c = 'e' || c = 'E' then do
      let (power, rest) ← scanPower rest
      let number ← Number.ofSignificand isNegative ⟨s.value, s.power + power⟩
      pure (number, rest)
    else (Number.ofSignificand isNegative s).map (·, cs)
  | [] => (Number.ofSignificand isNegative s).map (·, [])

/-- Reads a numeral without its sign. -/
def scanUnsigned (isNegative : Bool) (cs : List Char) :
    Except Fault (Number × List Char) := do
  let (whole, rest) ← scanWhole cs
  match rest with
  | '.' :: rest =>
    let (fraction, rest) ← scanDigits rest
    scanScale isNegative
      ((Number.Significand.takeWhole ⟨0, 0⟩ whole).takeFraction fraction) rest
  | 'e' :: _ | 'E' :: _ =>
    scanScale isNegative (Number.Significand.takeWhole ⟨0, 0⟩ whole) rest
  | _ => (Number.ofWhole isNegative whole).map (·, rest)

/-- Reads a numeral, from its sign or its first digit on. -/
def scanNumber : List Char → Except Fault (Number × List Char)
  | '-' :: cs => scanUnsigned true cs
  | cs => scanUnsigned false cs

theorem length_scanDigits {cs ds rest : List Char}
    (h : scanDigits cs = .ok (ds, rest)) :
    rest.length < cs.length := by
  cases cs with
  | nil => cases h
  | cons c cs =>
    rw [scanDigits] at h
    split at h
    · cases h
      have := (List.dropWhile_sublist (l := cs) Char.isDigit).length_le
      simp only [List.length_cons]
      omega
    · cases h

theorem length_scanWhole {cs ds rest : List Char} (h : scanWhole cs = .ok (ds, rest)) :
    rest.length < cs.length := by
  unfold scanWhole at h
  split at h
  · cases h
  · exact length_scanDigits h

theorem length_map_scanDigits {cs rest : List Char}
    {f : List Char × List Char → Int × List Char} {power : Int}
    (keeps : ∀ r, (f r).2 = r.2) (h : (scanDigits cs).map f = .ok (power, rest)) :
    rest.length < cs.length := by
  cases scanned : scanDigits cs with
  | error fault => simp [scanned, Except.map] at h
  | ok r =>
    simp only [scanned, Except.map, Except.ok.injEq] at h
    have : rest = r.2 := by rw [← keeps r, h]
    rw [this]
    exact length_scanDigits (show scanDigits cs = .ok (r.1, r.2) from scanned)

theorem length_scanPower {cs rest : List Char} {power : Int}
    (h : scanPower cs = .ok (power, rest)) :
    rest.length < cs.length := by
  unfold scanPower at h
  split at h
  · have := length_map_scanDigits (fun _ => rfl) h
    simp only [List.length_cons]
    omega
  · have := length_map_scanDigits (fun _ => rfl) h
    simp only [List.length_cons]
    omega
  · exact length_map_scanDigits (fun _ => rfl) h

theorem rest_of_map_pair {α β : Type} {r : Except Fault α} {a : α} {b c : β}
    (h : r.map (·, b) = .ok (a, c)) :
    c = b := by
  rcases r with fault | x
  · cases h
  · simp only [Except.map, Except.ok.injEq, Prod.mk.injEq] at h
    exact h.2.symm

theorem length_scanScale {isNegative : Bool} {s : Number.Significand}
    {cs rest : List Char} {n : Number}
    (h : scanScale isNegative s cs = .ok (n, rest)) : rest.length ≤ cs.length := by
  unfold scanScale at h
  split at h
  · rename_i c cs
    split at h
    · cases scanned : scanPower cs with
      | error fault => simp [scanned, bind, Except.bind] at h
      | ok r =>
        have shorter := length_scanPower
          (show scanPower cs = .ok (r.1, r.2) from scanned)
        cases value : Number.ofSignificand isNegative ⟨s.value, s.power + r.1⟩ with
        | error fault => simp [scanned, value, bind, Except.bind] at h
        | ok n' =>
          simp only [scanned, value, bind, Except.bind, pure, Except.pure,
            Except.ok.injEq, Prod.mk.injEq] at h
          rw [← h.2]
          simp only [List.length_cons]
          omega
    · exact Nat.le_of_eq (congrArg List.length (rest_of_map_pair h))
  · exact Nat.le_of_eq (congrArg List.length (rest_of_map_pair h))

theorem length_scanUnsigned {isNegative : Bool} {cs rest : List Char} {n : Number}
    (h : scanUnsigned isNegative cs = .ok (n, rest)) : rest.length < cs.length := by
  unfold scanUnsigned at h
  cases scanned : scanWhole cs with
  | error fault => simp [scanned, bind, Except.bind] at h
  | ok r =>
    have shorter := length_scanWhole (show scanWhole cs = .ok (r.1, r.2) from scanned)
    simp only [scanned, bind, Except.bind] at h
    split at h
    · rename_i after point
      cases scanned' : scanDigits after with
      | error fault => simp [scanned'] at h
      | ok r' =>
        have := length_scanDigits
          (show scanDigits after = .ok (r'.1, r'.2) from scanned')
        simp only [scanned'] at h
        have := length_scanScale h
        rw [point] at shorter
        simp at shorter
        omega
    · exact Nat.lt_of_le_of_lt (length_scanScale h) shorter
    · exact Nat.lt_of_le_of_lt (length_scanScale h) shorter
    · rw [rest_of_map_pair h]
      exact shorter

theorem length_scanNumber {cs rest : List Char} {n : Number}
    (h : scanNumber cs = .ok (n, rest)) :
    rest.length < cs.length := by
  unfold scanNumber at h
  split at h
  · have := length_scanUnsigned h
    simp only [List.length_cons]
    omega
  · exact length_scanUnsigned h

end SpatialSql.Json
