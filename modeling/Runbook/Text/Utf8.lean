/-!
# Bytes as text

Text in UTF-8 is read one byte at a time.  A byte that cannot continue the
character before it ends that character, and what has been read of it counts
as one fault.  Reading text leniently puts the replacement character where a
fault is; reading it strictly refuses a fault.
-/

namespace Runbook

/-- The bytes of a file or of a message. -/
abbrev Bytes := List UInt8

namespace Text

/-- A character of which some bytes have been read. -/
structure PartialChar where
  bits : Nat
  missing : Nat
  low : Nat
  high : Nat

/-- Read the first byte of a character: a character of one byte, a fault, or
the beginning of a longer character. -/
def firstByte (byte : Nat) : Option Char ⊕ PartialChar :=
  if byte < 0x80 then .inl (some (Char.ofNat byte))
  else if byte < 0xC2 then .inl none
  else if byte < 0xE0 then .inr ⟨byte - 0xC0, 1, 0x80, 0xBF⟩
  else if byte = 0xE0 then .inr ⟨0, 2, 0xA0, 0xBF⟩
  else if byte = 0xED then .inr ⟨0xD, 2, 0x80, 0x9F⟩
  else if byte < 0xF0 then .inr ⟨byte - 0xE0, 2, 0x80, 0xBF⟩
  else if byte = 0xF0 then .inr ⟨0, 3, 0x90, 0xBF⟩
  else if byte < 0xF4 then .inr ⟨byte - 0xF0, 3, 0x80, 0xBF⟩
  else if byte = 0xF4 then .inr ⟨4, 3, 0x80, 0x8F⟩
  else .inl none

def startChar (byte : Nat) : List (Option Char) × Option PartialChar :=
  match firstByte byte with
  | .inl character => ([character], none)
  | .inr unfinished => ([], some unfinished)

def readByte (before : Option PartialChar) (byte : Nat) :
    List (Option Char) × Option PartialChar :=
  match before with
  | none => startChar byte
  | some ⟨bits, missing, low, high⟩ =>
    if low ≤ byte ∧ byte ≤ high then
      let bits := 64 * bits + (byte - 0x80)
      if missing = 1 then ([some (Char.ofNat bits)], none)
      else ([], some ⟨bits, missing - 1, 0x80, 0xBF⟩)
    else
      let (read, unfinished) := startChar byte
      (none :: read, unfinished)

/-- The characters of bytes, with nothing in the place of each fault. -/
def charsFrom (before : Option PartialChar) : Bytes → List (Option Char)
  | [] => if before.isSome then [none] else []
  | byte :: rest =>
    let (read, unfinished) := readByte before byte.toNat
    read ++ charsFrom unfinished rest

def ofBytes? (bytes : Bytes) : Option String :=
  ((charsFrom none bytes).mapM id).map String.ofList

/-- The text of bytes, with the replacement character for each fault. -/
def ofBytes (bytes : Bytes) : String :=
  String.ofList ((charsFrom none bytes).map fun character =>
    character.getD '\uFFFD')

def toBytes (text : String) : Bytes :=
  text.toList.flatMap String.utf8EncodeChar

end Text

end Runbook
