import Handbook.Draw.Json
import Handbook.Snapshot.Basic

namespace Handbook.CommandLine

def readBytes? (path : String) : IO (Option ByteArray) := do
  try return some (← IO.FS.readBinFile path)
  catch _ => return none

/-- What stands under a name of a directory of the machine. -/
def itemOf (entry : IO.FS.DirEntry) : IO DirectoryItem := do
  if ← entry.path.isDir then return .directory
  else return .file (← readBytes? entry.path.toString)

def listDirectory? (path : String) : IO (Option (List DirectoryEntry)) := do
  let directory : IO.FS.DirEntry := ⟨path, ""⟩
  try
    let found ← directory.root.readDir
    let entries ← found.toList.mapM fun entry => do
      return DirectoryEntry.mk entry.fileName.toUTF8 (← itemOf entry)
    return some entries
  catch _ => return none

/-- The files that options name, read from the machine. -/
def filesFor (options : Snapshot.Options) : IO Files := do
  let settings ←
    match options.settings with
    | some path => readBytes? path
    | none => pure none
  let entries ← listDirectory? options.directory
  return { read? := fun _ => settings, list? := fun _ => entries }

/-- This machine shapes no fonts: a character counts as five pixels. -/
def measure (text : String) : Px := Px.saturate (5 * text.length)

/-- Prints the outcome of a snapshot and tells the status of the program. -/
def finish : Except Snapshot.Failure DrawList → IO UInt32
  | .ok list => do
    IO.println list.toJson.toIndented
    return 0
  | .error failure => do
    IO.eprintln failure.report
    return failure.status.toUInt32

end Handbook.CommandLine

def main (arguments : List String) : IO UInt32 := do
  match Handbook.Snapshot.Options.ofArguments arguments with
  | .error misuse => Handbook.CommandLine.finish (.error (.misuse misuse))
  | .ok options =>
    let files ← Handbook.CommandLine.filesFor options
    Handbook.CommandLine.finish
      (Handbook.Snapshot.take ⟨files, Handbook.CommandLine.measure⟩ options)
