/-!
# Reading UTF-8

Bytes are read as UTF-8 whatever they are: a character whose bytes break off, and a byte that
begins no character, become U+FFFD, one for each longest run of bytes that a character could
have begun with. A character has the shortest form for its code point and is no surrogate, and
that shows in the range of its second byte.
-/

namespace ApiProxy.Text

/-- The ranges in which the bytes still have to lie that complete a character. -/
abbrev Pending := List (Nat × Nat)

/-- The range of a byte that continues a character. -/
def continuation : Nat × Nat := (0x80, 0xBF)

/-- What a byte at the beginning of a character says: the bits of the code point that it holds
and the bytes that have to follow. Nothing if no character begins with it. -/
def leadByte? (b : Nat) : Option (Nat × Pending) :=
  if b < 0x80 then some (b, [])
  else if b < 0xC2 then none
  else if b < 0xE0 then some (b % 0x20, [continuation])
  else if b = 0xE0 then some (b % 0x10, [(0xA0, 0xBF), continuation])
  else if b = 0xED then some (b % 0x10, [(0x80, 0x9F), continuation])
  else if b < 0xF0 then some (b % 0x10, [continuation, continuation])
  else if b = 0xF0 then some (b % 0x08, [(0x90, 0xBF), continuation, continuation])
  else if b < 0xF4 then some (b % 0x08, [continuation, continuation, continuation])
  else if b = 0xF4 then some (b % 0x08, [(0x80, 0x8F), continuation, continuation])
  else none

/-- What stands for bytes that are no character. -/
def replacement : Char := '\uFFFD'

/-- Put a character for bytes in front of what `rest` makes of the bytes behind them, if the
character is complete. -/
def complete (bits : Nat) (pending : Pending) (rest : Nat → Pending → List Char) : List Char :=
  match pending with
  | [] => Char.ofNat bits :: rest 0 []
  | p => rest bits p

/-- The characters of bytes, behind the beginning of a character of which the bits `bits` are
known and which the pending bytes complete. -/
def decodeFrom (bits : Nat) (pending : Pending) : List UInt8 → List Char
  | [] => if pending.isEmpty then [] else [replacement]
  | b :: bytes =>
    let fresh := match leadByte? b.toNat with
      | some (lead, p) => complete lead p fun bits p => decodeFrom bits p bytes
      | none => replacement :: decodeFrom 0 [] bytes
    match pending with
    | [] => fresh
    | (low, high) :: more =>
      if low ≤ b.toNat ∧ b.toNat ≤ high then
        complete (bits * 0x40 + b.toNat % 0x40) more fun bits p => decodeFrom bits p bytes
      else replacement :: fresh

/-- The text of bytes, with U+FFFD for what is no UTF-8. -/
def decodeUtf8 (bytes : List UInt8) : String :=
  String.ofList (decodeFrom 0 [] bytes)

end ApiProxy.Text
