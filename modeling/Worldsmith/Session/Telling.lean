import Worldsmith.Session.Basic
import Worldsmith.Statement.Performance

/-!
# Telling a session something

A declaration changes what a session knows as it is carried out. One that makes a new kind has the
kind's definition file read, whose statements may make further kinds. Each noun's file is read once.
If any of this fails, the session goes back to what it knew before.
-/

namespace Worldsmith.Turn

/-- Carry out a declaration, as far as it gets, and give the kinds that it has made. -/
def perform (line : String) (reading : Reading) (declaration : Declaration) :
    Turn (List (Id .kind)) := do
  let session ← get
  let edit := reading.perform line (session.shelf.storage.menu session.shelf.settings) declaration
  let (outcome, world) := edit.perform session.world
  set { session with knowledge := { session.knowledge with world := world } }
  outcome

/-- Carry out a line of a definition file, which has to be a declaration. -/
def define (load : List (Id .kind) → Turn Unit) (path line : String) : Turn Unit := do
  let reading ← (← get).world.understand line
  match reading.pattern.action with
  | .command _ => throw (.grammar (.rejected line (.commandInFile path)))
  | .declare declaration => load (← perform line reading declaration)

/-- Look for the definition file of a kind, unless that has been done for its noun, and carry out
its lines. -/
def loadKind (load : List (Id .kind) → Turn Unit) (kind : Id .kind) : Turn Unit := do
  let session ← get
  let noun := session.world.kindName kind
  if session.knowledge.loaded.contains noun then return ()
  else
    set { session with
      knowledge := { session.knowledge with loaded := session.knowledge.loaded ++ [noun] } }
    let path := session.shelf.settings.file noun Settings.definitionExtension
    match session.shelf.storage.read path with
    | .error (.notFound _) => return ()
    | .error error => throw (.resource error)
    | .ok text => (statementsIn text).forM (define load path)

/-- Load the definition files of kinds, at most `fuel` of them within each other. -/
def load : (fuel : Nat) → List (Id .kind) → Turn Unit
  | 0, _ => return ()
  | fuel + 1, kinds => kinds.forM (loadKind (load fuel))

/-- Carry out a declaration and load the definition files that it asks for. If that fails, what is
known is what was known before. -/
def declare (line : String) (reading : Reading) (declaration : Declaration) : Turn Unit := do
  let before ← get
  try
    let kinds ← perform line reading declaration
    load (Knowledge.enoughLoads before.shelf.storage) kinds
  catch error =>
    modify fun session => { session with knowledge := before.knowledge }
    throw error
  modify fun session => { session with transcript := session.transcript ++ [line] }

end Worldsmith.Turn
