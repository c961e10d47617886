namespace DocMarkup.Text

/-!
# Reading UTF-8

Bytes are read one at a time, with the unfinished character kept as a state, so
that a fault is reported at the first byte of the character that it spoils. The
range allowed for the next byte excludes overlong forms and surrogates.
-/

/-- Why bytes are not valid UTF-8. -/
inductive Utf8FaultReason where
  | startByte
  | continuationByte
  | endOfData
deriving DecidableEq, Repr

/-- A fault in UTF-8 text: the place of the spoilt character and the reason. -/
structure Utf8Fault where
  offset : Nat
  reason : Utf8FaultReason
deriving DecidableEq, Repr

/-- The wording of a reason. -/
def Utf8FaultReason.message : Utf8FaultReason → String
  | .startByte => "invalid start byte"
  | .continuationByte => "invalid continuation byte"
  | .endOfData => "unexpected end of data"

/--
A character whose first bytes have been read: where it starts, the value so
far, the number of bytes to come and the range allowed for the next one.
-/
structure UnfinishedCharacter where
  start : Nat
  value : Nat
  missing : Nat
  lowest : Nat
  highest : Nat
deriving DecidableEq, Repr

/-- What the first byte of a character of several bytes promises. -/
def openCharacter? (start lead : Nat) : Option UnfinishedCharacter :=
  if lead < 0xC2 then
    none
  else if lead < 0xE0 then
    some ⟨start, lead - 0xC0, 1, 0x80, 0xBF⟩
  else if lead < 0xF0 then
    some ⟨start, lead - 0xE0, 2,
      if lead == 0xE0 then 0xA0 else 0x80,
      if lead == 0xED then 0x9F else 0xBF⟩
  else if lead < 0xF5 then
    some ⟨start, lead - 0xF0, 3,
      if lead == 0xF0 then 0x90 else 0x80,
      if lead == 0xF4 then 0x8F else 0xBF⟩
  else
    none

/-- Read bytes from an offset on; the characters read before are kept in reverse. -/
def decodeFrom :
    Nat →
    Option UnfinishedCharacter →
    List Char →
    List UInt8 →
    Except Utf8Fault (List Char)
  | _, none, decoded, [] => .ok decoded.reverse
  | _, some unfinished, _, [] => .error ⟨unfinished.start, .endOfData⟩
  | offset, none, decoded, byte :: rest =>
      if byte.toNat < 0x80 then
        decodeFrom (offset + 1) none (Char.ofNat byte.toNat :: decoded) rest
      else
        match openCharacter? offset byte.toNat with
        | some unfinished => decodeFrom (offset + 1) (some unfinished) decoded rest
        | none => .error ⟨offset, .startByte⟩
  | offset, some unfinished, decoded, byte :: rest =>
      if unfinished.lowest ≤ byte.toNat && byte.toNat ≤ unfinished.highest then
        let value := unfinished.value * 64 + (byte.toNat - 0x80)
        if unfinished.missing ≤ 1 then
          decodeFrom (offset + 1) none (Char.ofNat value :: decoded) rest
        else
          decodeFrom (offset + 1)
            (some ⟨unfinished.start, value, unfinished.missing - 1, 0x80, 0xBF⟩)
            decoded rest
      else
        .error ⟨unfinished.start, .continuationByte⟩

/-- Drop a byte order mark at the front. -/
def withoutByteOrderMark : List UInt8 → List UInt8
  | 0xEF :: 0xBB :: 0xBF :: rest => rest
  | bytes => bytes

/-- The characters of UTF-8 text; offsets of faults do not count a byte order mark. -/
def decodeUtf8 (bytes : List UInt8) : Except Utf8Fault (List Char) :=
  decodeFrom 0 none [] (withoutByteOrderMark bytes)

/-- Turn every carriage return, with the line feed after it if there is one, into a line feed. -/
def unifyLineEnds : List Char → List Char
  | '\r' :: '\n' :: rest => '\n' :: unifyLineEnds rest
  | '\r' :: rest => '\n' :: unifyLineEnds rest
  | character :: rest => character :: unifyLineEnds rest
  | [] => []

/-- Turn every pair of a carriage return and a line feed into a line feed. -/
def pairedLineEnds : List Char → List Char
  | '\r' :: '\n' :: rest => '\n' :: pairedLineEnds rest
  | character :: rest => character :: pairedLineEnds rest
  | [] => []

end DocMarkup.Text
