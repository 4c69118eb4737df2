import ApiProxy.Description.Document
import ApiProxy.Text.Decimal
import ApiProxy.World

/-!
# Where descriptions come from

A source gives a description, with or without its data types, and cannot change anything. A
saved file gives what it holds and drops the data types if they are not wanted; a service is
told whether they are wanted, and what it answers is taken as it is.
-/

namespace ApiProxy

/-- Read a description from its text. -/
def ApiDescription.read (text : String) : Except Failure ApiDescription :=
  (ApiDescription.ofText text).mapError fun f => .document (.unreadable f)

/-- A description without its data types. -/
def ApiDescription.withoutTypes (m : ApiDescription) : ApiDescription :=
  { m with types := .empty }

/-- What comes of asking a source: its remarks and the description or a failure. -/
structure Supply where
  notes : List LogEntry
  result : Except Failure ApiDescription

/-- A source of descriptions. -/
structure Source where
  /-- The name of the source in messages. -/
  location : String
  /-- What the source gives in a world, with the data types or without. -/
  supply : World → Bool → Supply

namespace Source

/-- The source that gives what a saved file holds. -/
def file (path : Path) : Source where
  location := path.text
  supply w includeTypes :=
    { notes := [LogOrigin.savedFile.info ("Reading API description from " ++ path.text)]
      result :=
        match w.tree.readFile path with
        | .error f => .error (.fetch path.text (.file f))
        | .ok text =>
          (ApiDescription.read text).map fun m => if includeTypes then m else m.withoutTypes }

/-- What a service has said to a request, for the log. -/
def replyNotes : Except FetchFault String → List LogEntry
  | .error _ => []
  | .ok text =>
    [LogOrigin.service.debug "Received API description"
      [("bytes", Text.decimal text.utf8ByteSize)]]

/-- The source that asks a service. -/
def service (address : String) : Source where
  location := address
  supply w includeTypes :=
    let place := endpoint address includeTypes
    let reply := w.network.descriptionText address includeTypes
    { notes := LogOrigin.service.info ("Fetching API description from " ++ place) ::
        replyNotes reply
      result :=
        match reply with
        | .error f => .error (.fetch place f)
        | .ok text => ApiDescription.read text }

/-- The source that always gives the same. -/
def given (location : String) (result : Except Failure ApiDescription) : Source where
  location := location
  supply _ _ := { notes := [], result }

end Source

end ApiProxy
