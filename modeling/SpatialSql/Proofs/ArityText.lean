import SpatialSql.Call.Basic
import SpatialSql.Proofs.CallGrammar
import SpatialSql.Proofs.CatalogRegistry
import SpatialSql.Text.Run

/-!
# What an arity is known by

An arity is written as one number, as two with `..=` between them or as one with
`..` behind it. Each begins with the digits of the least number, and what stands
behind those begins with a dot if there is anything at all, so it is known where
the digits end. The rest says what the greatest number is: the least again, one
of its own, or none. So the two numbers can be read back from the text, and
arities of one text are the same arity. They are the same too if they accept the
same numbers of arguments, for the bounds of an arity are the least and the
greatest that it accepts.

The refusal of a call has the text in its middle, behind the name of the
function. The name may be anything, even words that a refusal is made of, so the
text is looked for from the other end: behind it there are fixed words and the
digits of a number, and before it there is a blank, which the text itself has
none of. However a refusal is taken apart into a name, what it tells and a
number, the text is the last word of what it tells.
-/

namespace SpatialSql

namespace Arity

variable {arity arity' : Arity}

/-- The two answer alike for every number of arguments. -/
def AnswersAs (arity arity' : Arity) : Prop :=
  ∀ n, arity.contains n = arity'.contains n ∧
    arity.requiresMore n = arity'.requiresMore n ∧
    arity.allowsMore n = arity'.allowsMore n

theorem AnswersAs.refl (arity : Arity) : arity.AnswersAs arity :=
  fun _ => ⟨rfl, rfl, rfl⟩

/-! ## Its two numbers -/

theorem ext_bounds (least : arity.min = arity'.min)
    (greatest : arity.max = arity'.max) : arity = arity' := by
  have made := between_eq_ok_iff.mpr ⟨least, greatest⟩
  have made' := between_eq_ok_iff.mpr ⟨Eq.refl arity'.min, Eq.refl arity'.max⟩
  exact Except.ok.inj (made.symm.trans made')

theorem exists_between_iff {min : Nat} {max : Option Nat} :
    (∃ arity, between min max = .ok arity) ↔
      0 < min ∧ ∀ m, max = some m → min ≤ m := by
  constructor
  · rintro ⟨arity, made⟩
    obtain ⟨rfl, rfl⟩ := between_eq_ok_iff.mp made
    exact ⟨arity.min_pos, arity.min_le_max⟩
  · rintro ⟨positive, ordered⟩
    exact ⟨⟨min, max, positive, ordered⟩, between_eq_ok_iff.mpr ⟨rfl, rfl⟩⟩

/-! ## What it accepts -/

theorem admits_min (arity : Arity) : arity.Admits arity.min :=
  ⟨Nat.le_refl _, arity.min_le_max⟩

theorem admits_max {m : Nat} (greatest : arity.max = some m) : arity.Admits m := by
  refine ⟨arity.min_le_max m greatest, fun m' greatest' => ?_⟩
  rw [greatest] at greatest'
  exact Nat.le_of_eq (Option.some.inj greatest')

/-- Where all that is admitted is admitted by an arity with a greatest number,
there is a greatest number, and it is not above the other. -/
theorem exists_max_le (admits : ∀ n, arity.Admits n → arity'.Admits n) {m' : Nat}
    (greatest' : arity'.max = some m') : ∃ m, arity.max = some m ∧ m ≤ m' := by
  cases greatest : arity.max with
  | none =>
      -- without a greatest number this one is admitted, and it is above `m'`
      have above : arity.Admits (arity.min + m' + 1) := by
        refine ⟨by omega, fun m bound => ?_⟩
        rw [greatest] at bound
        cases bound
      have bounded := (admits _ above).2 m' greatest'
      omega
  | some m => exact ⟨m, rfl, (admits m (admits_max greatest)).2 m' greatest'⟩

theorem max_eq_of_admits_iff (same : ∀ n, arity.Admits n ↔ arity'.Admits n) {m' : Nat}
    (greatest' : arity'.max = some m') : arity.max = some m' := by
  obtain ⟨m, greatest, le⟩ := exists_max_le (fun n => (same n).mp) greatest'
  obtain ⟨m'', again, ge⟩ := exists_max_le (fun n => (same n).mpr) greatest
  rw [greatest'] at again
  cases again
  rw [greatest, Nat.le_antisymm le ge]

theorem eq_of_admits_iff (same : ∀ n, arity.Admits n ↔ arity'.Admits n) :
    arity = arity' := by
  refine ext_bounds (Nat.le_antisymm ?_ ?_) (Option.ext fun m => ⟨?_, ?_⟩)
  · exact ((same _).mpr arity'.admits_min).1
  · exact ((same _).mp arity.admits_min).1
  · exact max_eq_of_admits_iff fun n => (same n).symm
  · exact max_eq_of_admits_iff same

theorem eq_of_contains_eq (same : ∀ n, arity.contains n = arity'.contains n) :
    arity = arity' := by
  refine eq_of_admits_iff fun n => ?_
  rw [← contains_iff, ← contains_iff, same]

/-! ## Its text -/

/-- What stands behind the digits of the least number. -/
def behind (arity : Arity) : List Char :=
  match arity.max with
  | none => ['.', '.']
  | some m =>
    if m = arity.min then [] else '.' :: '.' :: '=' :: Nat.toDigits 10 m

theorem toList_text (arity : Arity) :
    arity.text.toList = Nat.toDigits 10 arity.min ++ arity.behind := by
  unfold text behind
  cases arity.max with
  | none =>
      simp only [Nat.toString_eq_repr, String.toList_append, Nat.toList_repr]
      rfl
  | some m =>
      simp only
      split
      · next same =>
          rw [same, Nat.toString_eq_repr, Nat.toList_repr, List.append_nil]
      · simp only [Nat.toString_eq_repr, String.toList_append, Nat.toList_repr,
          List.append_assoc]
        rfl

/-- The greatest number, if this stands behind the digits of the least. -/
def readMax (min : Nat) : List Char → Option Nat
  | [] => some min
  | '.' :: '.' :: '=' :: digits => some (Nat.ofDigitChars 10 digits 0)
  | _ => none

/-- The two numbers of an arity of this text. -/
def readBounds (cs : List Char) : Nat × Option Nat :=
  let min := Nat.ofDigitChars 10 (cs.takeWhile Char.isDigit) 0
  (min, readMax min (cs.dropWhile Char.isDigit))

theorem readMax_behind (arity : Arity) :
    readMax arity.min arity.behind = arity.max := by
  unfold behind
  cases arity.max with
  | none => rfl
  | some m =>
      simp only
      split
      · next same => rw [same, readMax]
      · rw [readMax, Nat.ofDigitChars_ten_toDigits]

theorem isDigit_head_behind (arity : Arity) :
    ∀ c ∈ arity.behind.head?, c.isDigit = false := by
  intro c first
  unfold behind at first
  split at first
  · cases first
    rfl
  · split at first
    · cases first
    · cases first
      rfl

/-- The text of an arity can be read back. -/
theorem readBounds_text (arity : Arity) :
    readBounds arity.text.toList = (arity.min, arity.max) := by
  obtain ⟨least, rest⟩ := Text.run_append
    (Text.isDigit_toDigits arity.min) arity.isDigit_head_behind
  rw [toList_text, readBounds, least, rest, Nat.ofDigitChars_ten_toDigits,
    readMax_behind]

theorem eq_of_text_eq (same : arity.text = arity'.text) : arity = arity' := by
  have numbers : (arity.min, arity.max) = (arity'.min, arity'.max) := by
    rw [← readBounds_text, ← readBounds_text, same]
  exact ext_bounds (congrArg Prod.fst numbers) (congrArg Prod.snd numbers)

theorem no_blank_in_digits (n : Nat) :
    ∀ c ∈ Nat.toDigits 10 n, (c != ' ') = true := by
  intro c mem
  have digit := Text.isDigit_toDigits n c mem
  refine bne_iff_ne.mpr fun blank => ?_
  rw [blank] at digit
  cases digit

theorem no_blank_behind (arity : Arity) :
    ∀ c ∈ arity.behind, (c != ' ') = true := by
  intro c mem
  unfold behind at mem
  split at mem
  · simp only [List.mem_cons, List.not_mem_nil, or_false] at mem
    rcases mem with rfl | rfl <;> rfl
  · split at mem
    · cases mem
    · simp only [List.mem_cons] at mem
      rcases mem with rfl | rfl | rfl | greatest
      · rfl
      · rfl
      · rfl
      · exact no_blank_in_digits _ c greatest

theorem no_blank_in_text (arity : Arity) :
    ∀ c ∈ arity.text.toList, (c != ' ') = true := by
  intro c mem
  rw [toList_text, List.mem_append] at mem
  rcases mem with least | rest
  · exact no_blank_in_digits _ c least
  · exact no_blank_behind arity c rest

end Arity

namespace Call

variable {d d' : Definition} {message message' shown : String}

/-! ## Refusals -/

/-- Some call of the function is refused in these words. -/
def Refuses (d : Definition) (message : String) : Prop :=
  ∃ (E : Type) (arguments : List E) (e : Error),
    ofArguments d arguments = .error e ∧ e.message = message

/-- A call is refused for the number of its arguments and for nothing else. -/
theorem refuses_iff :
    Refuses d message ↔ ∃ count, d.arity.contains count = false ∧
      message = d.name ++ " takes " ++ d.arity.text ++ " arguments, got " ++
        toString count := by
  constructor
  · rintro ⟨E, arguments, e, refused, rfl⟩
    unfold ofArguments at refused
    split at refused
    · cases refused
    · next outside =>
        cases refused
        exact ⟨arguments.length, Bool.eq_false_iff.mpr outside, rfl⟩
  · rintro ⟨count, outside, rfl⟩
    refine ⟨Unit, List.replicate count (), .wrongArgumentCount d.name d.arity count,
      ?_, rfl⟩
    rw [ofArguments, List.length_replicate, if_neg (Bool.eq_false_iff.mp outside)]

/-- The words can be taken for those of a refusal that tells this of an arity. -/
def Tells (message shown : String) : Prop :=
  ∃ (name : String) (count : Nat), message =
    name ++ " takes " ++ shown ++ " arguments, got " ++ toString count

theorem tells_text (refused : Refuses d message) : Tells message d.arity.text := by
  obtain ⟨count, -, words⟩ := refuses_iff.mp refused
  exact ⟨d.name, count, words⟩

/-- What a refusal has between the text of the arity and the number of arguments,
from behind. -/
def ending : List Char :=
  " arguments, got ".toList.reverse

/-- From behind, the last word before the ending of a refusal. -/
def lastTold (cs : List Char) : List Char :=
  ((cs.dropWhile Char.isDigit).drop ending.length).takeWhile (· != ' ')

theorem lastTold_append (count : Nat) (shown : List Char) {before : List Char}
    (blank : ∀ c ∈ before.head?, (c != ' ') = false) :
    lastTold ((Nat.toDigits 10 count).reverse ++ (ending ++ (shown ++ before))) =
      shown.takeWhile (· != ' ') := by
  have digits : ∀ c ∈ (Nat.toDigits 10 count).reverse, c.isDigit = true :=
    fun c mem => Text.isDigit_toDigits count c (List.mem_reverse.mp mem)
  have stop : ∀ c ∈ (ending ++ (shown ++ before)).head?, c.isDigit = false := by
    rintro c ⟨⟩
    rfl
  rw [lastTold, (Text.run_append digits stop).2, List.drop_left,
    Text.takeWhile_append_of_stop blank]

theorem lastTold_of_tells (told : Tells message shown) :
    lastTold message.toList.reverse =
      shown.toList.reverse.takeWhile (· != ' ') := by
  obtain ⟨name, count, rfl⟩ := told
  have backwards :
      (name ++ " takes " ++ shown ++ " arguments, got " ++
        toString count).toList.reverse =
      (Nat.toDigits 10 count).reverse ++ (ending ++ (shown.toList.reverse ++
        (" takes ".toList.reverse ++ name.toList.reverse))) := by
    simp only [Nat.toString_eq_repr, String.toList_append, Nat.toList_repr,
      List.reverse_append, ending]
  have blank : ∀ c ∈ (" takes ".toList.reverse ++ name.toList.reverse).head?,
      (c != ' ') = false := by
    rintro c ⟨⟩
    rfl
  rw [backwards, lastTold_append count _ blank]

/-- The last word of what a refusal tells is the text of the arity. -/
theorem text_of_tells (refused : Refuses d message) (told : Tells message shown) :
    d.arity.text.toList.reverse = shown.toList.reverse.takeWhile (· != ' ') := by
  have unbroken : ∀ c ∈ d.arity.text.toList.reverse, (c != ' ') = true :=
    fun c mem => d.arity.no_blank_in_text c (List.mem_reverse.mp mem)
  rw [← lastTold_of_tells told, lastTold_of_tells (tells_text refused)]
  exact (List.takeWhile_eq_self_iff.mpr unbroken).symm

theorem arity_eq_of_tells (refused : Refuses d message)
    (refused' : Refuses d' message') (told : Tells message shown)
    (told' : Tells message' shown) : d.arity = d'.arity := by
  have same := (text_of_tells refused told).trans (text_of_tells refused' told').symm
  exact Arity.eq_of_text_eq (String.toList_inj.mp (List.reverse_inj.mp same))

end Call

/-- Arities of one text were made of the same numbers, are the same and answer
alike, and arities that accept the same numbers of arguments have one text. A
call that is refused for the number of its arguments is told this text, and two
functions that are said to take the same do take the same, whatever they are
called and however many arguments there were. -/
theorem arity_is_known_by_its_text :
    (∀ min max, (∃ arity, Arity.between min max = .ok arity) ↔
      0 < min ∧ ∀ m, max = some m → min ≤ m) ∧
    (∀ min max arity min' max' arity',
      Arity.between min max = .ok arity → Arity.between min' max' = .ok arity' →
      (arity.text = arity'.text →
        min = min' ∧ max = max' ∧ arity = arity' ∧ arity.AnswersAs arity') ∧
      ((∀ n, arity.contains n = arity'.contains n) → arity.text = arity'.text)) ∧
    (∀ d message, Call.Refuses d message ↔
      ∃ count, d.arity.contains count = false ∧
        message = d.name ++ " takes " ++ d.arity.text ++ " arguments, got " ++
          toString count) ∧
    (∀ d message d' message' shown,
      Call.Refuses d message → Call.Refuses d' message' →
      Call.Tells message shown → Call.Tells message' shown →
      d.arity = d'.arity ∧ d.arity.AnswersAs d'.arity) := by
  refine ⟨fun _ _ => Arity.exists_between_iff, ?_, fun _ _ => Call.refuses_iff, ?_⟩
  · intro min max arity min' max' arity' made made'
    obtain ⟨rfl, rfl⟩ := Arity.between_eq_ok_iff.mp made
    obtain ⟨rfl, rfl⟩ := Arity.between_eq_ok_iff.mp made'
    constructor
    · intro same
      obtain rfl := Arity.eq_of_text_eq same
      exact ⟨rfl, rfl, rfl, .refl arity⟩
    · intro same
      rw [Arity.eq_of_contains_eq same]
  · intro d message d' message' shown refused refused' told told'
    have same := Call.arity_eq_of_tells refused refused' told told'
    exact ⟨same, same ▸ .refl d.arity⟩

/-- A function whose name ends in words that refusals have. -/
def Call.relate : Definition where
  name := "ST_Relate takes 2"
  arity := distance.arity
  platforms := .unrestricted
  name_not_blank := by decide

/-- Refusals of two functions that tell the same, and two arities of which one has
no greatest number. -/
theorem relate_is_known_by_its_text :
    (Call.Refuses Call.relate
        "ST_Relate takes 2 takes 2..=3 arguments, got 1" ∧
      Call.Refuses Call.distance "ST_Distance takes 2..=3 arguments, got 4" ∧
      Call.relate.arity.AnswersAs Call.distance.arity) ∧
    (Arity.between 2 (some 3) = .ok Call.relate.arity ∧
      Arity.between 2 (some 3) = .ok Call.distance.arity ∧
      Call.relate.arity.text = "2..=3" ∧
      Call.relate.arity = Call.distance.arity) ∧
    ∃ one more, Arity.between 1 (some 1) = .ok one ∧
      Arity.between 1 none = .ok more ∧ one.text ≠ more.text := by
  obtain ⟨accepted, texts, refuses, tells⟩ := arity_is_known_by_its_text
  refine ⟨?_, ?_, ?_⟩
  · have refused : Call.Refuses Call.relate
        "ST_Relate takes 2 takes 2..=3 arguments, got 1" :=
      (refuses _ _).mpr ⟨1, by decide, by decide⟩
    have refused' : Call.Refuses Call.distance
        "ST_Distance takes 2..=3 arguments, got 4" :=
      (refuses _ _).mpr ⟨4, by decide, by decide⟩
    have alike := tells _ _ _ _ "2..=3" refused refused'
      ⟨"ST_Relate takes 2", 1, by decide⟩ ⟨"ST_Distance", 4, by decide⟩
    exact ⟨refused, refused', alike.2⟩
  · have made : Arity.between 2 (some 3) = .ok Call.relate.arity := rfl
    have made' : Arity.between 2 (some 3) = .ok Call.distance.arity := rfl
    have same := (texts _ _ _ _ _ _ made made').1 (by decide)
    exact ⟨made, made', by decide, same.2.2.1⟩
  · obtain ⟨one, made⟩ := (accepted 1 (some 1)).mpr ⟨by decide, by decide⟩
    obtain ⟨more, made'⟩ := (accepted 1 none).mpr ⟨by decide, by decide⟩
    refine ⟨one, more, made, made', fun same => ?_⟩
    have numbers := (texts _ _ _ _ _ _ made made').1 same
    cases numbers.2.1

end SpatialSql
