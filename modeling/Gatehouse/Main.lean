import Gatehouse.CommandLine.Reach
import Gatehouse.Host.Archive
/-!
# The program

Loads what the words of the command line reach into a host, runs them, writes what has changed back, and prints.
-/
open Gatehouse

/-- The variables of this process. -/
def readVariables : IO (SortedMap String) := do
  let bytes ← IO.FS.readBinFile "/proc/self/environ"
  let text := (Text.ofUtf8? bytes.toList).getD ""
  return SortedMap.ofList ((Text.splitOn '\x00' text.toList).filterMap fun entry =>
    (Text.splitFirst? '=' entry).map fun (name, value) => (String.ofList name, String.ofList value))

/-- The host with the directories and the file that a path leads through. -/
def loadPath (h : Host) (path : String) : IO Host := do
  let names := Disk.names (Disk.join h.directory path)
  let mut disk := h.disk
  for count in List.range names.length do
    let place := names.take (count + 1)
    let file := (← IO.currentDir) / Disk.address place
    if ← file.isDir then disk := disk.put place .directory
    else if ← file.pathExists then
      let bytes ← IO.FS.readBinFile file
      disk := disk.put place (Node.ofArchive ((Text.ofUtf8? bytes.toList).getD "\x00"))
  return { h with disk := disk }

/-- Writes the nodes of a disk that an earlier one does not have. -/
def storeChanges (old new : Disk) : IO Unit :=
  for (path, node) in new.nodes.entries do
    match node.archive? with
    | none => if (old.nodes.get? path).isNone then IO.FS.createDirAll path
    | some content =>
      if ((old.nodes.get? path).bind Node.archive?) != some content then IO.FS.writeFile path content

def main (arguments : List String) : IO UInt32 := do
  let directory := (← IO.currentDir).toString
  let start : Host := ⟨← readVariables, Disk.empty, directory⟩
  let h ← (directory :: CommandLine.settingsPaths start arguments).foldlM loadPath start
  let h ← (CommandLine.otherPaths h arguments).foldlM loadPath h
  let (outcome, after) := CommandLine.run h arguments
  storeChanges h.disk after.disk
  let outcome := outcome.unbound
  match outcome with
  | .printed text => (← IO.getStdout).putStr text
  | .failed failure => (← IO.getStderr).putStrLn failure.message
  | .crashed crash => (← IO.getStderr).putStrLn crash.message
  | _ => (← IO.getStderr).putStr CommandLine.usage
  return UInt32.ofNat outcome.code
