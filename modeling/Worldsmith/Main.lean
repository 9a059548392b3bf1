import Worldsmith.CommandLine.Dialogue
import Worldsmith.CommandLine.Invocation

/-!
# The program

Reads lines from the terminal or from a script and shows what comes of them. Files are fetched when
a line turns out to need them: every file that is not known counts as barred, the line fails, the
file is fetched, and the line is executed again.
-/

namespace Worldsmith

namespace Program

/-- What is shown for arguments that are not understood. -/
def usage : String :=
  "usage: [-d DIRECTORY] [-s SEED] [--max-steps N] [--trials N] [--max-individuals N] [-v] [SCRIPT]"

/-- Look for a file. -/
def fetch (path : String) : IO StorageItem := do
  match ← (IO.FS.readBinFile path).toBaseIO with
  | .ok content => return .file content
  | .error (.noFileOrDirectory ..) => return .nothing
  | .error _ => return .barred

/-- Put what was fetched where its path leads. -/
def store (storage : Storage) (path : String) (item : StorageItem) : Storage :=
  let steps := Storage.steps path
  let storage := storage.makeFolders (Storage.origin path) steps.dropLast
  match storage.locate path with
  | .ok route => storage.put route item
  | .error _ => storage

/-- Change what a session can read. -/
def withStorage (session : Session) (storage : Storage) : Session :=
  { session with shelf := { session.shelf with storage := storage } }

/-- The path of a file that a line failed to read. -/
def failedPath? : Except Error Reply → Option String
  | .error (.resource (.unreadable path)) => some path
  | _ => none

/-- Execute a line, fetching files until it needs no more. -/
partial def execute (line : String) (fetched : List String) (session : Session) :
    IO (Except Error Reply × Session) := do
  let (result, after) := (Turn.execute line).take session
  match failedPath? result with
  | none => return (result, after)
  | some path =>
    if fetched.contains path then return (result, after)
    let storage := store session.shelf.storage path (← fetch path)
    execute line (path :: fetched) (withStorage session storage)

/-- Write the file that a line has saved. -/
def flush (result : Except Error Reply) (session : Session) : IO (Except Error Reply) := do
  match result with
  | .ok (.saved path) =>
    match session.shelf.storage.content path with
    | .error failure => return .error (.resource (failure.error path))
    | .ok content =>
      match ← (IO.FS.writeBinFile path content).toBaseIO with
      | .ok _ => return result
      | .error _ => return .error (.resource (.unreadable path))
  | _ => return result

/-- Execute lines until there are no more or one says to quit. -/
partial def converse (prompting : Bool) (input : IO.FS.Stream) (session : Session) : IO Unit := do
  let output ← IO.getStdout
  if prompting then
    output.putStr Dialogue.prompt
    output.flush
  let line ← input.getLine
  if line.isEmpty then return
  let line := Text.trim line
  if Dialogue.isFarewell line then return
  let (result, session) ← execute line [] session
  let result ← flush result session
  output.putStr (Dialogue.echo prompting line ++ Dialogue.resultText result)
  output.flush
  converse prompting input (withStorage session ⟨[], .barred⟩)

/-- Run the program. -/
def run (arguments : List String) : IO UInt32 := do
  match Invocation.ofArguments? arguments with
  | none =>
    IO.eprintln usage
    return 2
  | some invocation =>
    let settings := invocation.settings
    let seed ← match settings.seed with
      | some seed => pure seed
      | none => IO.rand 0 (wordLimit - 1)
    let session := Session.start settings seed ⟨[], .barred⟩
    match invocation.script with
    | none => converse true (← IO.getStdin) session
    | some path => converse false (.ofHandle (← IO.FS.Handle.mk path .read)) session
    return 0

end Program

end Worldsmith

def main (arguments : List String) : IO UInt32 :=
  Worldsmith.Program.run arguments
