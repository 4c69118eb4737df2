import ApiProxy.Json.Fault
import ApiProxy.Text.Hexadecimal
import ApiProxy.Text.Rest

/-!
# Strings of a JSON text

A string ends at the first quote that is not part of an escape and holds no control
character below the space. It is looked at in two ways. `skim` only finds its end and checks
that every escape is one. `decode` also gives the text that the string stands for; there the
surrogates in hexadecimal escapes have to come in pairs.
-/

namespace ApiProxy.Json.Quoted

open Text (Rest hexValue?)

/-- The number of bytes that the UTF-8 form of a text takes. -/
def utf8Length (cs : List Char) : Nat :=
  cs.foldl (fun n c => n + c.utf8Size) 0

/-- The fault where four hexadecimal digits should stand and do not: the text ends if fewer
than four bytes are left of it. -/
def hexFault (cs : List Char) : Fault :=
  if utf8Length (cs.take 4) < 4 then .endInString else .invalidEscape

/-- The number in four hexadecimal digits. -/
def hexUnit? (a b c d : Char) : Option Nat := do
  return (((← hexValue? a) * 16 + (← hexValue? b)) * 16 + (← hexValue? c)) * 16 + (← hexValue? d)

/-- The character that a one-letter escape stands for. -/
def escape? : Char → Option Char
  | '"' => some '"'
  | '\\' => some '\\'
  | '/' => some '/'
  | 'b' => some '\x08'
  | 'f' => some '\x0c'
  | 'n' => some '\n'
  | 'r' => some '\r'
  | 't' => some '\t'
  | _ => none

theorem length_lt_unit {a b c d : Char} {r r' : List Char} (h : r'.length < r.length) :
    r'.length < ('\\' :: 'u' :: a :: b :: c :: d :: r).length := by
  simp only [List.length_cons]
  omega

theorem length_lt_escape {e : Char} {r r' : List Char} (h : r'.length < r.length) :
    r'.length < ('\\' :: e :: r).length := by
  simp only [List.length_cons]
  omega

/-- Go to the end of a string whose opening quote has been taken. -/
def skim (cs : List Char) : Except Fault (Rest cs) :=
  match cs with
  | [] => .error .endInString
  | '"' :: r => .ok ⟨r, Nat.lt_succ_self _⟩
  | ['\\'] => .error .endInString
  | '\\' :: 'u' :: a :: b :: c :: d :: r =>
    if (hexUnit? a b c d).isSome then (skim r).map fun r' => ⟨r'.1, length_lt_unit r'.2⟩
    else .error (hexFault (a :: b :: c :: d :: r))
  | '\\' :: 'u' :: r => .error (hexFault r)
  | '\\' :: e :: r =>
    if (escape? e).isSome then (skim r).map fun r' => ⟨r'.1, length_lt_escape r'.2⟩
    else .error .invalidEscape
  | c :: r =>
    if c.toNat < 0x20 then .error .controlCharacter
    else (skim r).map fun r' => ⟨r'.1, Nat.lt_succ_of_lt r'.2⟩

/-- The first half of a surrogate pair. -/
def isHighSurrogate (n : Nat) : Bool := 0xD800 ≤ n && n ≤ 0xDBFF

/-- The second half of a surrogate pair. -/
def isLowSurrogate (n : Nat) : Bool := 0xDC00 ≤ n && n ≤ 0xDFFF

/-- The character that a surrogate pair stands for. -/
def ofSurrogates (high low : Nat) : Char :=
  Char.ofNat ((high - 0xD800) * 0x400 + (low - 0xDC00) + 0x10000)

/-- The fault behind the first half of a surrogate pair that no escaped unit follows. -/
def pairFault : List Char → Fault
  | [] => .endInString
  | ['\\'] => .endInString
  | '\\' :: 'u' :: r => hexFault r
  | _ => .unexpectedHexEnd

/-- The text of a string whose opening quote has been taken. -/
def decode : List Char → Except Fault (List Char)
  | [] => .error .endInString
  | '"' :: _ => .ok []
  | ['\\'] => .error .endInString
  | '\\' :: 'u' :: a :: b :: c :: d :: r =>
    match hexUnit? a b c d with
    | none => .error (hexFault (a :: b :: c :: d :: r))
    | some n =>
      if isLowSurrogate n then .error .loneSurrogate
      else if isHighSurrogate n then
        match r with
        | '\\' :: 'u' :: a' :: b' :: c' :: d' :: r' =>
          match hexUnit? a' b' c' d' with
          | none => .error (hexFault (a' :: b' :: c' :: d' :: r'))
          | some m =>
            if isLowSurrogate m then (decode r').map (ofSurrogates n m :: ·)
            else .error .loneSurrogate
        | r => .error (pairFault r)
      else (decode r).map (Char.ofNat n :: ·)
  | '\\' :: 'u' :: r => .error (hexFault r)
  | '\\' :: e :: r =>
    match escape? e with
    | some c => (decode r).map (c :: ·)
    | none => .error .invalidEscape
  | c :: r =>
    if c.toNat < 0x20 then .error .controlCharacter else (decode r).map (c :: ·)

end ApiProxy.Json.Quoted
