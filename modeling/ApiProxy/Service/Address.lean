import ApiProxy.Service.Host

/-!
# Addresses of services

The address of a service on the web: a scheme, a host with an optional port, a path and an
optional query. It is read as browsers do. Control characters and spaces around it and line
ends in it are dropped, a backslash is a slash, the parts `.` and `..` of a path are carried
out, also where their dots are written `%2e`, and characters that may not stand in a path or a
query are escaped byte by byte. A part that names a drive, such as `C:`, is not taken back by a
`..` behind it. A fragment is not part of what a service is asked for.

Only `http` and `https` are schemes of services.
-/

namespace ApiProxy

/-- The address of something that a service can be asked for. -/
structure Address where
  /-- Whether the connection is encrypted. -/
  secure : Bool
  host : Host
  /-- The port, if one is given. -/
  port? : Option Nat
  /-- The path and the query, as they are sent. -/
  target : String
deriving DecidableEq, Repr

namespace Address

/-- Whether a character may not stand at either end of an address. -/
def isOuter (c : Char) : Bool := c.toNat ≤ 0x20

/-- Whether a character counts for nothing inside an address. -/
def isIgnored (c : Char) : Bool := c == '\t' || c == '\n' || c == '\r'

/-- An address without the characters that count for nothing. -/
def cleaned (cs : List Char) : List Char :=
  (((cs.dropWhile isOuter).reverse.dropWhile isOuter).reverse).filter (!isIgnored ·)

/-- Whether a character separates the parts of a path. -/
def isSlash (c : Char) : Bool := c == '/' || c == '\\'

/-- Whether a character ends the host of an address. -/
def endsAuthority (c : Char) : Bool := isSlash c || c == '?' || c == '#'

/-- A hexadecimal digit in upper case. -/
def hexDigit (n : Nat) : Char := (Nat.digitChar (n % 16)).toUpper

/-- The escape for a byte. -/
def escapeByte (b : UInt8) : List Char :=
  ['%', hexDigit (b.toNat / 16), hexDigit b.toNat]

/-- A character, escaped byte by byte if it is not ASCII or may not stand for itself. -/
def escapeChar (forbidden : List Char) (c : Char) : List Char :=
  if c.toNat < 0x20 || 0x7E < c.toNat || forbidden.contains c then
    (String.singleton c).toUTF8.toList.flatMap escapeByte
  else [c]

/-- The printable characters that may not stand in a path. -/
def forbiddenInPath : List Char := [' ', '"', '<', '>', '\x60', '#', '?', '\x7b', '\x7d']

/-- The printable characters that may not stand in a query. -/
def forbiddenInQuery : List Char := [' ', '"', '<', '>', '#', '\x27']

/-- A part of a path with its escaped dots as dots. -/
def plainDots : List Char → List Char
  | '%' :: '2' :: 'e' :: cs => '.' :: plainDots cs
  | '%' :: '2' :: 'E' :: cs => '.' :: plainDots cs
  | c :: cs => c :: plainDots cs
  | [] => []

/-- Whether a part of a path names a drive. -/
def isDrive : List Char → Bool
  | [letter, mark] => letter.isAlpha && (mark == ':' || mark == '|')
  | _ => false

/-- The parts of a path before the last one, which stays if it names a drive. -/
def backFrom (front : List (List Char)) : List (List Char) :=
  if (front.getLast?.map isDrive).getD false then front else front.dropLast

/-- The parts of a path once `.` and `..` are carried out, behind the parts `front`. A path
that ends in one of them ends in a slash. -/
def followDots (front : List (List Char)) : List (List Char) → List (List Char)
  | [] => front
  | part :: parts =>
    let closing := if parts.isEmpty then [[]] else []
    if plainDots part = ['.'] then followDots (front ++ closing) parts
    else if plainDots part = ['.', '.'] then followDots (backFrom front ++ closing) parts
    else followDots (front ++ [part]) parts

/-- The path as it is sent. -/
def sentPath (cs : List Char) : List Char :=
  let parts := (match cs with
    | c :: cs => if isSlash c then cs else c :: cs
    | [] => []).splitOnP isSlash
  (followDots [] parts).flatMap fun part => '/' :: part.flatMap (escapeChar forbiddenInPath)

/-- The query as it is sent, with the question mark, if there is a query. -/
def sentQuery : List Char → List Char
  | '?' :: cs => '?' :: (cs.takeWhile (· != '#')).flatMap (escapeChar forbiddenInQuery)
  | _ => []

/-- The number that a port's digits spell, if it is one: at most 65535. No digits are no
number, but fine. -/
def port (cs : List Char) : Option (Option Nat) :=
  if cs.isEmpty then some none
  else if cs.all Char.isDigit then
    let n := cs.foldl (fun n c => n * 10 + (c.toNat - '0'.toNat)) 0
    if n ≤ 65535 then some (some n) else none
  else none

/-- What follows the last sign `@`, if there is one, else everything. -/
def afterUser (cs : List Char) : List Char :=
  (cs.reverse.takeWhile (· != '@')).reverse

/-- What stands before the first colon that is not in brackets. -/
def beforePort (bracketed : Bool) : List Char → List Char
  | [] => []
  | c :: cs =>
    if c = ':' ∧ !bracketed then []
    else c :: beforePort (if c = '[' then true else if c = ']' then false else bracketed) cs

/-- A host and a port. -/
def hostAndPort? (cs : List Char) : Option (Host × Option Nat) := do
  let text := beforePort false cs
  let host ← Host.ofChars? text
  let n ← port (cs.drop (text.length + 1))
  some (host, n)

/-- Read what follows the scheme and its colon. -/
def ofRest? (secure : Bool) (cs : List Char) : Option Address := do
  let cs := cs.dropWhile isSlash
  let (host, port?) ← hostAndPort? (afterUser (cs.takeWhile (!endsAuthority ·)))
  let rest := cs.dropWhile (!endsAuthority ·)
  let path := rest.takeWhile fun c => c != '?' && c != '#'
  let behind := rest.drop path.length
  some
    { secure, port?, host, target := String.ofList (sentPath path ++ sentQuery behind) }

/-- Read an address, if it is that of a service. -/
def ofText? (text : String) : Option Address :=
  let cs := cleaned text.toList
  let scheme := (cs.takeWhile (· != ':')).map Char.toLower
  match cs.dropWhile (· != ':') with
  | [] => none
  | _ :: rest =>
    if scheme = "http".toList then ofRest? false rest
    else if scheme = "https".toList then ofRest? true rest
    else none

/-- The line that asks for what an address leads to. -/
def requestLine (a : Address) : String := "GET " ++ a.target

end Address

end ApiProxy
