import Worldsmith.Session.Knowledge
import Worldsmith.Trials.Inspection
import Worldsmith.Trials.Survey

/-!
# Sessions

A session keeps what it has been told, the statements that told it, the last request, and the
engine, whose draws go on from search to search. A turn is one thing that a session is asked to
do. A turn that fails may have used the engine, and remembers what it was asked to imagine.
-/

namespace Worldsmith

structure Session where
  shelf : Shelf
  knowledge : Knowledge
  /-- Declarations in the order in which they were accepted. -/
  transcript : List String
  lastRequest : Option Request
  engine : Engine

/-- Something that a session is asked to do. -/
abbrev Turn := ExceptT Error (StateM Session)

/-- What comes of a line. -/
inductive Reply where
  /-- A declaration was accepted. -/
  | accepted
  | model (model : Model)
  /-- The transcript was saved. -/
  | saved (path : String)
  | report (text : String)

/-- A reply as it is shown. -/
def Reply.text : Reply → String
  | .accepted => ""
  | .model m => m.text
  | .saved path => "saved to " ++ path
  | .report r => r

namespace Session

/-- A session that has been told nothing. -/
def start (settings : Settings) (seed : Nat) (storage : Storage) : Session :=
  ⟨⟨settings, storage⟩, .empty, [], none, .ofSeed seed settings.maxSteps⟩

def world (session : Session) : World := session.knowledge.world

/-- Forget what the session has been told. -/
def reset (session : Session) : Session :=
  { session with knowledge := .empty, transcript := [], lastRequest := none }

end Session

namespace Turn

/-- Take a turn, and give the session after it. -/
def take {α : Type} (turn : Turn α) (session : Session) : Except Error α × Session :=
  StateT.run (ExceptT.run turn) session

/-- Do something with the engine. -/
def withEngine {α : Type} (f : World → Engine → α × Engine) : Turn α := do
  let session ← get
  let (a, engine) := f session.world session.engine
  set { session with engine := engine }
  return a

/-- Imagine what is requested. -/
def imagine (request : Request) : Turn Model := do
  modify fun session => { session with lastRequest := some request }
  match ← withEngine fun world engine => engine.model (.ofRequest world request) with
  | .ok model => return model
  | .error failure => throw (.noExample failure)

/-- Check all expectations. -/
def test : Turn Inspection :=
  withEngine fun world engine => (Inspection.start world).run engine

/-- Imagine the last request again and again, and count. -/
def stats : Turn SurveyReport := do
  let session ← get
  match session.lastRequest with
  | none => throw (.misuse .nothingImagined)
  | some request =>
    let trials := session.shelf.settings.trials
    let survey ← withEngine fun world engine => (Survey.start world request trials).run engine
    return survey.report

/-- Save the transcript as a definition file, and give its path. -/
def save (name : String) : Turn String := do
  let session ← get
  let path := session.shelf.settings.file name Settings.definitionExtension
  let text := "\n".intercalate session.transcript ++ "\n"
  match session.shelf.storage.write path text.toUTF8 with
  | .error error => throw (.resource error)
  | .ok storage =>
    set { session with shelf := { session.shelf with storage := storage } }
    return path

end Turn

end Worldsmith
