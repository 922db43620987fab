import SpatialSql.Error

/-!
# Texts from streams

A stream hands out its bytes in chunks of its own choosing. An interrupted
attempt is made again; any other failure ends the reading at once, whatever has
arrived. Only when all bytes are there are they taken for UTF-8 text.
-/

namespace SpatialSql

/-- The outcome of one attempt to read from a stream. -/
inductive Stream.Attempt
  | bytes (chunk : List UInt8)
  /-- Nothing was read; the next attempt goes on. -/
  | interrupted
  | failed (reason : String)
  deriving DecidableEq

namespace Stream

/-- All bytes of a stream, or the reason why they cannot be had. -/
def bytes : List Attempt → Except String (List UInt8)
  | [] => .ok []
  | .bytes chunk :: rest => (bytes rest).map (chunk ++ ·)
  | .interrupted :: rest => bytes rest
  | .failed reason :: _ => .error reason

/-- The text of a stream. -/
def text (attempts : List Attempt) : Except Error String :=
  match bytes attempts with
  | .error reason => .error (.unreadable reason)
  | .ok all =>
    match String.fromUTF8? (ByteArray.mk all.toArray) with
    | some text => .ok text
    | none => .error (.unreadable "stream did not contain valid UTF-8")

end Stream

end SpatialSql
