/-
# The command line

Runs a command on files and servers. A command sees the files and directories that are named on
standard input, one path a line, and nothing else; a file that it has not seen is never
overwritten. Endpoints are reached over plain HTTP: the command is repeated with one more answer
each time until it asks for nothing new, and only then its output is shown and its files are
written.
-/

import Ensemble.CommandLine.Execution
import Ensemble.Endpoint.Replay
import Ensemble.Endpoint.Wire
import Ensemble.Workflow.Clock
import Std.Async.DNS
import Std.Async.TCP
import Std.Async.Timer
import Std.Time.DateTime.Timestamp

open Std.Async

namespace Ensemble.Terminal

/-- Take what a server sends until it closes the connection. -/
partial def receive (client : TCP.Socket.Client) (received : ByteArray) : Async ByteArray := do
  match ← client.recv? 65536 with
  | some bytes => receive client (received ++ bytes)
  | none => return received

/-- Send bytes to a server and take its answer. -/
def converse (address : HttpAddress) (message : ByteArray) : Async (Option ByteArray) := do
  let places ← DNS.getAddrInfo address.host (toString address.port.toNat)
  let place : Std.Net.SocketAddress ← match places.toList with
    | .v4 place :: _ => pure (.v4 ⟨place, address.port⟩)
    | .v6 place :: _ => pure (.v6 ⟨place, address.port⟩)
    | [] => throw (IO.userError "no such host")
  let client ← TCP.Socket.Client.mk
  client.connect place
  client.send message
  some <$> receive client .empty

/-- Wait for some seconds. -/
def pause (seconds : Nat) : Async (Option ByteArray) := do
  sleep (.ofNat (seconds * 1000))
  return none

/-- What comes of a request. -/
def exchange (request : HttpRequest) : IO HttpOutcome := do
  match HttpAddress.ofUrl? request.url with
  | none => return .unreachable
  | some address =>
    try
      let answer ← (Async.race (converse address (request.wire address))
        (pause request.patience)).block
      return answer.elim .timedOut HttpOutcome.ofWire
    catch _ => return .unreachable

/-- The moment that the clock shows. -/
def now : IO Moment := do
  let time := (← Std.Time.Timestamp.now).val
  return (Moment.ofClock? time.second.val.toNat time.nano.val.toNat).getD default

/-- The tree with what a path leads to. -/
def see (tree : FileTree) (path : String) : IO FileTree := do
  try
    let content ← IO.FS.readBinFile path
    return (tree.writeInto path .overwrite true content).1
  catch
    | .inappropriateType .. => return (tree.ensureDirectories path).1
    | _ => return tree

/-- The tree of the paths on standard input. -/
partial def seeAll (input : IO.FS.Stream) (tree : FileTree) : IO FileTree := do
  let line ← input.getLine
  if line.isEmpty then return tree
  seeAll input (← see tree (Text.trim line))

/-- Write what stands in a tree under a path and did not stand in the one before. -/
def leave (before : FileTree) (path : String) (entry : FileEntry) : IO Unit := do
  if before.entries.get? path == some entry then return
  match entry with
  | .directory => IO.FS.createDirAll path
  | .file content =>
    let mode := if before.isFile path then IO.FS.Mode.write else IO.FS.Mode.writeNew
    (← IO.FS.Handle.mk path mode).write content

/-- Carry out a command with the answers so far, and again with each further one. -/
partial def carryOut (around : Surroundings Replay) (invocation : Invocation)
    (outcomes : List HttpOutcome) : IO (CommandOutcome Replay) := do
  let outcome := Surroundings.carryOut
    { around with
      world := .ofOutcomes outcomes
      stamp := { around.stamp with finishedAt := ← now } } invocation
  match outcome.world.missing with
  | none => return outcome
  | some request => carryOut around invocation (outcomes ++ [← exchange request])

/-- Carry out a command and show and keep what it leaves behind. -/
def perform (invocation : Invocation) : IO UInt32 := do
  let output ← IO.getStdout
  let tree ← seeAll (← IO.getStdin) .empty
  let chance ← IO.getRandomBytes 16
  let start ← now
  let around : Surroundings Replay :=
    ⟨tree, Replay.transport, .ofOutcomes [], ⟨.ofChance chance.toList, start, start⟩,
      ← output.isTty⟩
  let outcome ← carryOut around invocation []
  outcome.progress.forM IO.eprintln
  output.putStr outcome.output
  outcome.tree.entries.entries.forM fun entry => leave tree entry.1 entry.2
  match outcome.error with
  | none => return 0
  | some error =>
    IO.eprintln ("Error: " ++ error.message)
    error.reason?.forM fun reason => IO.eprintln ("Caused by: " ++ reason)
    return 1

end Ensemble.Terminal

/-- Do what the arguments ask for. -/
def main (arguments : List String) : IO UInt32 := do
  match Ensemble.Request.ofTexts arguments with
  | .ok (.invocation invocation) => Ensemble.Terminal.perform invocation
  | .ok .version =>
    IO.print Ensemble.Request.versionLine
    return 0
  | .ok .help =>
    IO.print Ensemble.Request.helpText
    return 0
  | .error stop =>
    IO.eprintln ("error: " ++ stop.message)
    return 2
