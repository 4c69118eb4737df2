import ApiProxy.Service.Network
import ApiProxy.Text.Blank
import ApiProxy.Text.Decimal

/-!
# Exchanges with a service

What a service is sent when it is asked for what an address leads to, and how the bytes that it
sends back are read: a line with the status, lines with fields, an empty line, and a body up to the
end of the connection. A field may say how long the body is, and another one where to ask instead.
-/

namespace ApiProxy

open Text

/-- A host as it is written in an address. -/
def Host.text : Host → String
  | name n => String.ofList (['.'].intercalate n.labels)
  | short number =>
    ".".intercalate ([3, 2, 1, 0].map fun place => decimal (number >>> (8 * place) % 256))
  | long pieces =>
    "[" ++ ":".intercalate (pieces.map fun piece => String.ofList (Nat.toDigits 16 piece)) ++ "]"

namespace Address

/-- The host and the port. -/
def authority (a : Address) : String :=
  a.host.text ++ (a.port?.map fun port => ":" ++ decimal port).getD ""

/-- What a service is sent. -/
def question (a : Address) : String :=
  a.requestLine ++ " HTTP/1.0\r\nHost: " ++ a.authority ++ "\r\nAccept: */*\r\n\r\n"

/-- Where a service says to ask instead: at another address, or for another path. -/
def redirected? (a : Address) (place : String) : Option Address :=
  if place.toList.head? = some '/' then
    ofText? ((if a.secure then "https://" else "http://") ++ a.authority ++ place)
  else ofText? place

end Address

/-- What a service sends back. -/
structure Answer where
  status : Nat
  /-- The fields by their names in lower case. -/
  fields : List (String × String)
  /-- What has arrived behind the empty line. -/
  body : List UInt8

namespace Answer

/-- The bytes before the first empty line and those behind it. -/
def splitHead? : List UInt8 → Option (List UInt8 × List UInt8)
  | 13 :: 10 :: 13 :: 10 :: body => some ([], body)
  | b :: bs => (splitHead? bs).map fun (head, body) => (b :: head, body)
  | [] => none

/-- The name and the value of a field. -/
def fieldOfLine (line : String) : String × String :=
  let name := line.toList.takeWhile (· != ':')
  let value := line.toList.drop (name.length + 1)
  (String.ofList (name.map Char.toLower), trim (String.ofList value))

/-- Read what a service sends back. -/
def ofBytes? (bytes : List UInt8) : Option Answer := do
  let (head, body) ← splitHead? bytes
  let lines := (decodeUtf8 head).splitOn "\r\n"
  let status ← (((lines.headD "").splitOn " ").getD 1 "").toNat?
  return ⟨status, lines.tail.map fieldOfLine, body⟩

/-- The reply, whose body is as long as the service has said, if it has. -/
def reply (a : Answer) : Reply :=
  match (a.fields.lookup "content-length").bind String.toNat? with
  | none => ⟨a.status, a.body, true⟩
  | some length => ⟨a.status, a.body.take length, length ≤ a.body.length⟩

/-- Where a service says to ask instead, if it does. -/
def place? (a : Answer) : Option String :=
  if [301, 302, 303, 307, 308].contains a.status then a.fields.lookup "location" else none

end Answer

end ApiProxy
