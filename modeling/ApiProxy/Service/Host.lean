import ApiProxy.DomainName
import ApiProxy.Text.Utf8

/-!
# Hosts

A host is known by its name or by a number. A number of 32 bits is written as up to four numbers
with dots between them, in decimal, octal or hexadecimal digits, of which the last one takes all
bytes that are left. A name whose last label looks like a number is one. A number of 128 bits is
written in brackets, as up to eight pieces in hexadecimal digits with colons between them; two
colons stand for pieces that are zero, and the last two pieces may be written like a number of 32
bits in decimal digits.

Characters of a name may be escaped byte by byte.
-/

namespace ApiProxy

open Text

/-- A host. -/
inductive Host where
  | name (n : DomainName)
  /-- A number of 32 bits. -/
  | short (number : Nat)
  /-- A number of 128 bits, as eight pieces of 16 bits. -/
  | long (pieces : List Nat)
deriving DecidableEq, Repr

namespace Host

/-- The number that a row of digits spells to a base, if it is one. No digits spell zero. -/
def number? (base : Nat) (cs : List Char) : Option Nat :=
  cs.foldlM (fun n c => ((hexValue? c).filter (· < base)).map (n * base + ·)) 0

/-- The number that a part of a number of 32 bits spells, in hexadecimal digits behind `0x`, in
octal digits behind another zero, else in decimal digits. -/
def part? : List Char → Option Nat
  | [] => none
  | ['0'] => some 0
  | '0' :: 'x' :: cs => number? 16 cs
  | '0' :: cs => number? 8 cs
  | cs => number? 10 cs

/-- The parts of a text between dots. A dot at the end has none behind it. -/
def dottedParts (cs : List Char) : List (List Char) :=
  let parts := cs.splitOn '.'
  if parts.getLast? = some [] then parts.dropLast else parts

/-- Whether the last part of a name looks like a number. -/
def endsInNumber (parts : List (List Char)) : Bool :=
  match parts.getLast? with
  | none => false
  | some part => (!part.isEmpty && part.all Char.isDigit) || (part? part).isSome

/-- The number of the given bytes, of which the last number takes all that are left of four. -/
def ofBytes? (room : Nat) : List Nat → Option Nat
  | [] => none
  | [last] => if last < Nat.pow 256 room then some last else none
  | n :: ns => do
    let rest ← ofBytes? (room - 1) ns
    if n < 256 ∧ 1 < room then some (n * Nat.pow 256 (room - 1) + rest) else none

/-- The host of a number of 32 bits in parts. -/
def ofParts? (parts : List (List Char)) : Option Host := do
  let numbers ← parts.mapM part?
  short <$> ofBytes? 4 numbers

/-- A number below 256 in decimal digits without leading zeros. -/
def byte? (cs : List Char) : Option Nat :=
  if cs.isEmpty || (cs.head? == some '0' && 1 < cs.length) then none
  else (number? 10 cs).filter (· < 256)

/-- The piece that up to four hexadecimal digits spell. -/
def piece? (cs : List Char) : Option Nat :=
  if cs.isEmpty || 4 < cs.length then none else number? 16 cs

/-- The two pieces that four bytes with dots between them spell. -/
def dottedPieces? (cs : List Char) : Option (List Nat) :=
  match (cs.splitOn '.').mapM byte? with
  | some [a, b, c, d] => some [a * 256 + b, c * 256 + d]
  | _ => none

/-- The pieces of a text with colons between them, of which the last two may be written like a
number of 32 bits if they are the last ones of the host. -/
def pieces? (final : Bool) : List (List Char) → Option (List Nat)
  | [] => some []
  | [last] =>
    match piece? last with
    | some n => some [n]
    | none => if final then dottedPieces? last else none
  | part :: parts => do
    let n ← piece? part
    let ns ← pieces? final parts
    some (n :: ns)

/-- What stands before the first two colons in a row, and what stands behind them. -/
def splitAtGap? : List Char → Option (List Char × List Char)
  | ':' :: ':' :: cs => some ([], cs)
  | c :: cs => (splitAtGap? cs).map fun (before, behind) => (c :: before, behind)
  | [] => none

/-- The pieces of a text on one side of a gap, which may be empty. -/
def sidePieces? (final : Bool) (cs : List Char) : Option (List Nat) :=
  if cs.isEmpty then some [] else pieces? final (cs.splitOn ':')

/-- The host of a number of 128 bits. -/
def ofPieces? (cs : List Char) : Option Host :=
  match splitAtGap? cs with
  | none => (pieces? true (cs.splitOn ':')).bind fun ns =>
      if ns.length = 8 then some (long ns) else none
  | some (before, behind) => do
    let front ← sidePieces? false before
    let back ← sidePieces? true behind
    let given := front.length + back.length
    if given < 8 then some (long (front ++ List.replicate (8 - given) 0 ++ back)) else none

/-- The bytes that a text with escapes stands for. -/
def unescape : List Char → List UInt8
  | '%' :: a :: b :: cs =>
    match hexValue? a, hexValue? b with
    | some m, some n => UInt8.ofNat (m * 16 + n) :: unescape cs
    | _, _ => '%'.toUInt8 :: unescape (a :: b :: cs)
  | c :: cs => (String.singleton c).toUTF8.toList ++ unescape cs
  | [] => []
termination_by cs => cs.length

/-- The host of a domain name, which may be a number. -/
def ofName? (n : DomainName) : Option Host :=
  let parts := dottedParts (['.'].intercalate n.labels)
  if endsInNumber parts then ofParts? parts else some (name n)

/-- Read a host. -/
def ofChars? (cs : List Char) : Option Host :=
  match cs with
  | '[' :: cs => if cs.getLast? = some ']' then ofPieces? cs.dropLast else none
  | cs => (DomainName.ofChars? (decodeUtf8 (unescape cs)).toList).bind ofName?

end Host

end ApiProxy
