import SpatialSql.Registry.Load

/-!
# Bytes in pieces

A stream delivers its bytes in pieces, as many and as long as it likes, and may
be interrupted between any two of them. `Delivers` says of a series of attempts
that these are the bytes it brings, and leaves open how they are cut. Nothing of
that is seen in the end: a configuration is read from the text of all the bytes,
wherever they were cut, even within a character, and if they are no text it is
not read.

A failed attempt ends everything. What came before it was neither taken for text
nor read as a configuration, so it makes no difference what it was.
-/

namespace SpatialSql

namespace Stream

/-- The attempts bring these bytes, in pieces none of which is empty and with
interruptions anywhere. -/
inductive Delivers : List Attempt → List UInt8 → Prop
  | ended : Delivers [] []
  | piece {chunk bytes : List UInt8} {attempts : List Attempt}
      (nonempty : chunk ≠ []) (rest : Delivers attempts bytes) :
      Delivers (.bytes chunk :: attempts) (chunk ++ bytes)
  | interruption {bytes : List UInt8} {attempts : List Attempt}
      (rest : Delivers attempts bytes) :
      Delivers (.interrupted :: attempts) bytes

/-- The bytes are the text in UTF-8. -/
def Encodes (all : List UInt8) (text : String) : Prop :=
  text.toUTF8.data.toList = all

instance (all : List UInt8) (text : String) : Decidable (Encodes all text) :=
  inferInstanceAs (Decidable (text.toUTF8.data.toList = all))

variable {attempts : List Attempt} {all : List UInt8}

/-! ## All the bytes -/

/-- What comes after a delivery goes on behind its bytes. -/
theorem Delivers.bytes_append (h : Delivers attempts all)
    (later : List Attempt) :
    bytes (attempts ++ later) = (bytes later).map (all ++ ·) := by
  induction h with
  | ended =>
      rw [List.nil_append]
      cases bytes later with
      | error reason => rfl
      | ok behind => rfl
  | @piece chunk before _ _ _ ih =>
      rw [List.cons_append, bytes, ih]
      cases bytes later with
      | error reason => rfl
      | ok behind =>
          exact congrArg Except.ok (List.append_assoc chunk before behind).symm
  | interruption _ ih =>
      rw [List.cons_append, bytes, ih]

theorem Delivers.bytes_eq (h : Delivers attempts all) :
    bytes attempts = .ok all := by
  have behind := h.bytes_append []
  rw [List.append_nil] at behind
  rw [behind]
  exact congrArg Except.ok (List.append_nil all)

theorem Delivers.bytes_of_failed (h : Delivers attempts all) (reason : String)
    (later : List Attempt) :
    bytes (attempts ++ .failed reason :: later) = .error reason :=
  h.bytes_append (.failed reason :: later)

/-! ## Their text -/

theorem fromUTF8?_eq_some_iff {text : String} :
    String.fromUTF8? (ByteArray.mk all.toArray) = some text ↔
      Encodes all text := by
  constructor
  · intro decoded
    rw [String.fromUTF8?] at decoded
    split at decoded
    · cases decoded
      rfl
    · cases decoded
  · intro encodes
    have given : ByteArray.mk all.toArray = text.toUTF8 := by
      rw [← encodes]
    rw [given]
    exact dif_pos text.isValidUTF8

/-- The text of a delivery is that of its bytes. -/
theorem Delivers.text_of_encodes (h : Delivers attempts all) {written : String}
    (encodes : Encodes all written) : text attempts = .ok written := by
  rw [text, h.bytes_eq]
  simp only [fromUTF8?_eq_some_iff.mpr encodes]

theorem Delivers.text_of_no_text (h : Delivers attempts all)
    (noText : ∀ written, ¬ Encodes all written) :
    text attempts =
      .error (.unreadable "stream did not contain valid UTF-8") := by
  have undecodable : String.fromUTF8? (ByteArray.mk all.toArray) = none :=
    Option.eq_none_iff_forall_ne_some.mpr fun written decoded =>
      noText written (fromUTF8?_eq_some_iff.mp decoded)
  rw [text, h.bytes_eq]
  simp only [undecodable]

theorem Delivers.text_of_failed (h : Delivers attempts all) (reason : String)
    (later : List Attempt) :
    text (attempts ++ .failed reason :: later) = .error (.unreadable reason) := by
  rw [text, h.bytes_of_failed]

end Stream

namespace Registry

variable {attempts : List Stream.Attempt}

theorem ofStream_of_text {text : String} (read : Stream.text attempts = .ok text) :
    ofStream attempts = ofJson text := by
  rw [ofStream, read]
  rfl

theorem ofStream_of_error {e : Error} (unread : Stream.text attempts = .error e) :
    ofStream attempts = ⟨.error e, empty, []⟩ := by
  rw [ofStream, unread]
  rfl

/-- A stream may bring its bytes in any pieces. The registry of a configuration
is that of the text which all the bytes make together, and if they make none, it
is not read. Nor is it read if an attempt fails, whatever the bytes before
were. -/
theorem any_pieces_make_the_registry {all : List UInt8}
    (delivered : Stream.Delivers attempts all) :
    (∀ text, Stream.Encodes all text → ofStream attempts = ofJson text) ∧
    ((∀ text, ¬ Stream.Encodes all text) → ofStream attempts =
      ⟨.error (.unreadable "stream did not contain valid UTF-8"), empty, []⟩) ∧
    ∀ reason later, ofStream (attempts ++ .failed reason :: later) =
      ⟨.error (.unreadable reason), empty, []⟩ := by
  refine ⟨fun text encodes => ?_, fun noText => ?_, fun reason later => ?_⟩
  · exact ofStream_of_text (delivered.text_of_encodes encodes)
  · exact ofStream_of_error (delivered.text_of_no_text noText)
  · exact ofStream_of_error (delivered.text_of_failed reason later)

/-- A character cut in two, with an interruption between its bytes, a whole
configuration before a failure, and half a character. -/
theorem cut_character_makes_the_registry :
    ofStream [.bytes "[\"deny_all\",[[\"".toUTF8.data.toList, .bytes [0xC3],
        .interrupted, .bytes [0xA9], .bytes "\",null,1]]]".toUTF8.data.toList] =
      ofJson "[\"deny_all\",[[\"é\",null,1]]]" ∧
    ofStream [.bytes "[\"deny_all\"]".toUTF8.data.toList, .failed "disk gone"] =
      ⟨.error (.unreadable "disk gone"), empty, []⟩ ∧
    ofStream [.bytes [0xC3]] =
      ⟨.error (.unreadable "stream did not contain valid UTF-8"), empty, []⟩ := by
  refine ⟨?_, ?_, ?_⟩
  · refine (any_pieces_make_the_registry (.piece ?_ (.piece ?_ (.interruption
      (.piece ?_ (.piece ?_ .ended)))))).1 _ (by decide)
    all_goals decide
  · refine (any_pieces_make_the_registry (.piece ?_ .ended)).2.2 _ []
    decide
  · have undecodable : String.fromUTF8? (ByteArray.mk #[0xC3]) = none := by decide
    refine (any_pieces_make_the_registry
      (.piece (List.cons_ne_nil 0xC3 []) .ended)).2.1 fun text encodes => ?_
    have decoded := Stream.fromUTF8?_eq_some_iff.mpr encodes
    exact Option.some_ne_none text (decoded.symm.trans undecodable)

end Registry

end SpatialSql
