import ApiProxy.Failure
import ApiProxy.Service.Address
import ApiProxy.Text.Utf8

/-!
# Descriptions from a service

A service gives its description at a fixed path below its address. A network says what comes
back for an address: nothing, or a reply with a status and a body. A status from 400 to 599 is a
refusal; the body of any other reply is the description, whatever its status says. A status below
200 only announces a reply that does not come, except that 101 ends the exchange without a body.
-/

namespace ApiProxy

/-- What a service answers. -/
structure Reply where
  status : Nat
  body : List UInt8
  /-- Whether the whole body has arrived. -/
  complete : Bool
deriving DecidableEq, Repr

/-- What comes back when a service is asked. -/
abbrev Network := Address → Option Reply

/-- The network on which nobody answers. -/
def Network.silent : Network := fun _ => none

/-- The path of the description below the address of a service. -/
def descriptionPath : String := "api/abp/api-definition"

/-- An address without the slashes at its end. -/
def withoutClosingSlashes (address : String) : String :=
  String.ofList (address.toList.reverse.dropWhile (· == '/')).reverse

/-- The address of the description of a service, with or without the data types. -/
def endpoint (address : String) (includeTypes : Bool) : String :=
  withoutClosingSlashes address ++ "/" ++ descriptionPath ++ "?includeTypes=" ++
    String.ofList (Json.boolChars includeTypes)

namespace Reply

/-- Whether a reply comes without a body, by its status. -/
def isBodiless (r : Reply) : Bool := r.status == 101 || r.status == 204 || r.status == 304

/-- Whether the status of a reply has three digits. -/
def isReadable (r : Reply) : Bool := 100 ≤ r.status && r.status ≤ 999

/-- Whether a reply refuses what was asked for, by its status. -/
def isRefusal (r : Reply) : Bool := 400 ≤ r.status && r.status ≤ 599

/-- The text of a reply. -/
def text (r : Reply) : Except FetchFault String :=
  if !r.isReadable then .error .unreadable
  else if r.isRefusal then .error (.refused r.status)
  else if r.isBodiless then .ok ""
  else if r.status < 200 then .error .truncated
  else if r.complete then .ok (Text.decodeUtf8 r.body)
  else .error .truncated

end Reply

namespace Network

/-- The text at an address. -/
def textAt (net : Network) (address : String) : Except FetchFault String :=
  match Address.ofText? address with
  | none => .error .badAddress
  | some a =>
    match net a with
    | none => .error .unreachable
    | some reply => reply.text

/-- The text of the description of a service. -/
def descriptionText (net : Network) (address : String) (includeTypes : Bool) :
    Except FetchFault String :=
  net.textAt (endpoint address includeTypes)

end Network

end ApiProxy
