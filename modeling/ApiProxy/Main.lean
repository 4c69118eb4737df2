import ApiProxy.CommandLine.Program
import ApiProxy.Service.Exchange
import Std.Async.DNS
import Std.Async.TCP
import Std.Time.Format

/-!
# Running the program

The program works on a copy of the part of the file system that its command line names, and what it
changed in the copy is then changed in the file system; what the file system refuses then ends the
program. A service is asked before the program runs, if its options are right. It is asked over a
connection that is not encrypted; one with the scheme `https` counts as unreachable.

There are no scripts for shells here, and one text for all command lines that cannot be understood.
-/

namespace ApiProxy.OnDisk

/-- The path of a location. -/
def pathAt (loc : Location) : String := "/" ++ "/".intercalate loc

/-- Where a path leads, by its text alone. -/
def place (current : Location) (p : Path) : Location :=
  p.names.foldl (fun loc part => if part = ".." then loc.dropLast else loc ++ [part])
    (if p.isAbsolute then [] else current)

/-- The content of a file, or nothing if it is no text. -/
def readContent (path : String) : IO String :=
  try IO.FS.readFile path catch _ => pure ""

/-- What stands at a path, down to a depth below which directories and files count as
empty. -/
partial def readNode? (depth : Nat) (path : String) : IO (Option Node) :=
  try
    let p ← IO.FS.realPath path
    if ← p.isDir then
      if depth = 0 then return some .emptyDirectory
      let mut entries : List (String × Node) := []
      for e in ← p.readDir do
        if let some n ← readNode? (depth - 1) (path ++ "/" ++ e.fileName) then
          entries := putAscending e.fileName n entries
      return some (.directory entries)
    else if depth = 0 then return some (.file "")
    else return some (.file (← readContent path))
  catch _ => return none

/-- Put what stands at a location in the file system into a copy. -/
def load (root : Node) (loc : Location) (depth : Nat) : IO Node := do
  match ← readNode? depth (pathAt loc) with
  | some n => return root.put loc n
  | none => return root

/-- The depth to which an output folder is read. -/
def outputDepth : Nat := 100

/-- The paths that a command line names, each with the depth to which it is read. -/
def namedPaths : Request → List (Path × Nat)
  | .run ⟨.generate o, _, _⟩ =>
    [(o.workDirectory, 1), (o.artifactPath, 1)] ++ (o.modelFile?.map (·, 1)).toList ++
      [(o.outputRoot, outputDepth)]
  | .run ⟨.remove o, _, _⟩ => [(o.workDirectory, 1), (o.outputRoot, outputDepth)]
  | _ => []

/-- The locations above a location, the highest first. -/
def above (loc : Location) : List Location :=
  (List.range loc.length).map loc.take

/-- A copy of the part of the file system that is named. -/
def read (current : Location) (paths : List (Path × Nat)) : IO FileTree := do
  let places := paths.map fun p => (place current p.1, p.2)
  let mut root := Node.emptyDirectory
  let directories := (current :: places.map (·.1)).flatMap fun loc => above loc ++ [loc]
  for length in List.range ((directories.map List.length).foldl max 0 + 1) do
    for loc in (directories.filter (·.length == length)).eraseDups do
      root ← load root loc 1
  for p in places do
    if 1 < p.2 then root ← load root p.1 p.2
  return { root, current }

/-- Change in the file system what is different in two copies. -/
partial def update (path : String) (before after : Option Node) : IO Unit :=
  match before, after with
  | none, none => pure ()
  | some (.directory _), none => IO.FS.removeDirAll path
  | some (.file _), none => IO.FS.removeFile path
  | some (.file old), some (.file new) => unless old == new do IO.FS.writeFile path new
  | _, some (.file new) => IO.FS.writeFile path new
  | some (.directory old), some (.directory new) => updateEntries path old new
  | _, some (.directory new) => do
    IO.FS.createDir path
    updateEntries path [] new
where
  /-- Change in the file system what is different in the entries of a directory. -/
  updateEntries (path : String) (old new : List (String × Node)) : IO Unit := do
    for e in new do
      update (path ++ "/" ++ e.1) (old.lookup e.1) (some e.2)
    for e in old do
      if (new.lookup e.1).isNone then update (path ++ "/" ++ e.1) (some e.2) none

end ApiProxy.OnDisk

namespace ApiProxy.OverNet

open Std.Async Std.Net

/-- Where a host can be reached. -/
def places (port : UInt16) : Host → IO (List SocketAddress)
  | h@(.name _) => do
    let found ← (DNS.getAddrInfo h.text (toString port)).block
    return found.toList.map fun
      | .v4 a => .v4 ⟨a, port⟩
      | .v6 a => .v6 ⟨a, port⟩
  | .short number =>
    let byte (place : Nat) := UInt8.ofNat (number >>> (8 * place))
    return [.v4 ⟨.ofParts (byte 3) (byte 2) (byte 1) (byte 0), port⟩]
  | .long pieces =>
    let piece (place : Nat) := UInt16.ofNat (pieces.getD place 0)
    return [.v6 ⟨.ofParts (piece 0) (piece 1) (piece 2) (piece 3) (piece 4) (piece 5) (piece 6)
      (piece 7), port⟩]

/-- Everything that arrives over a connection, behind what has arrived. -/
partial def receive (c : TCP.Socket.Client) (got : ByteArray) : Async ByteArray := do
  match ← c.recv? 65536 with
  | none => return got
  | some more => receive c (got ++ more)

/-- Ask for what an address leads to. -/
def ask (a : Address) : IO (Option Answer) := do
  if a.secure then return none
  try
    for place in ← places (UInt16.ofNat (a.port?.getD 80)) a.host do
      try
        let c ← TCP.Socket.Client.mk
        let exchange : Async ByteArray := do
          c.connect place
          c.send a.question.toUTF8
          receive c .empty
        return Answer.ofBytes? (← exchange.block).toList
      catch _ => continue
    return none
  catch _ => return none

/-- The reply for an address, which may lead on to another one a number of times. -/
def reply? : Nat → Address → IO (Option Reply)
  | 0, _ => return none
  | hops + 1, a => do
    let some answer ← ask a | return none
    match answer.place?.bind a.redirected? with
    | some next => reply? hops next
    | none => return some answer.reply

/-- How often an address may lead on to another one. -/
def maxHops : Nat := 10

/-- The network as far as a request asks it for something. -/
def network (t : FileTree) : Request → IO Network
  | .run ⟨.generate o, _, format⟩ => do
    match o.check t, o.modelFile?, o.address?, OutputFormat.ofName format with
    | .ok (), none, some address, .ok _ =>
      let some a := Address.ofText? (endpoint address o.withContracts) | return .silent
      let reply ← reply? (maxHops + 1) a
      return fun asked => if asked = a then reply else none
    | _, _, _, _ => return .silent
  | _ => return .silent

end ApiProxy.OverNet

namespace ApiProxy

/-- The present time in words. -/
def timeNow : IO String := do
  let t ← Std.Time.Timestamp.now
  let nanos := t.toNanosecondsSinceUnixEpoch.val % 86400000000000
  let d := Std.Time.PlainDateTime.ofEpochDay t.toDaysSinceUnixEpoch
    (.ofNanoseconds (.ofInt nanos))
  return d.format "uuuu-MM-dd'T'HH:mm:ss.SSSSSSSSS'Z'"

/-- The variables of the environment that the program looks at. -/
def variableNames : List String :=
  ["PROXYGEN_MODULE", "PROXYGEN_URL", "RUST_LOG", "CLICOLOR", "CLICOLOR_FORCE", "NO_COLOR"]

/-- The values of the variables that the program looks at. -/
def readEnvironment : IO Environment := do
  let values ← variableNames.filterMapM fun name => do
    return (← IO.getEnv name).map fun value => (name, value)
  return fun name => values.lookup name

/-- The name of a level in the log. -/
def LogLevel.label : LogLevel → String
  | debug => "DEBUG"
  | info => " INFO"
  | warn => " WARN"
  | error => "ERROR"

/-- What is put out as it is. -/
def plainWording : Wording where
  script _ := ""
  complaint := "error: the command line cannot be understood\n\nFor more information, try '--help'."

/-- Run the program. -/
def runInPlace (args : List String) : IO UInt32 := do
  let environment ← readEnvironment
  let now ← timeNow
  let current := (Path.ofText (← IO.currentDir).toString).names
  let request := Request.ofArguments environment args
  let tree ← OnDisk.read current (OnDisk.namedPaths request)
  let network ← OverNet.network tree request
  let surroundings : Surroundings :=
    { environment, terminal := ← (← IO.getStdout).isTty, times := ⟨now, now⟩ }
  let (outcome, world) :=
    request.execute surroundings { tree, network } .sound plainWording
  OnDisk.update "" (some tree.root) (some world.tree.root)
  for e in outcome.log do
    IO.eprintln (e.level.label ++ " " ++ e.origin.name ++ ": " ++ e.text)
  for text in outcome.complaint? do
    IO.eprintln text
  IO.print outcome.output
  return UInt32.ofNat outcome.exitCode.value.toNat

end ApiProxy

/-- Run the program. -/
def main (args : List String) : IO UInt32 := ApiProxy.runInPlace args
