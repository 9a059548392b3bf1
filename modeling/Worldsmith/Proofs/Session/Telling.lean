import Worldsmith.Proofs.Session.Turns
import Worldsmith.Session.Telling

/-!
# What telling comes to

A declaration is carried out step by step, and what a session knows changes with each step. As long
as nothing fails, this comes to functions of what is known. If something fails, however deep within
definition files, what is known by then has to be put back.

## Main definitions

* `Knowledge.load`, `Knowledge.state` — what is known after loading, and after a declaration.
* `Turn.Comes` — a turn does what a function says to what is known, and nothing else.

## Main statements

* `Turn.comes_load` — loading comes to what is known after it.
* `Turn.take_declare` — a declaration that is accepted is one more that the session knows, and one
  that is refused leaves the session as it was.
-/

namespace Worldsmith

namespace Knowledge

/-- Carry out a declaration, and give the kinds that it has made. -/
def perform (shelf : Shelf) (line : String) (reading : Reading) (declaration : Declaration)
    (knowledge : Knowledge) : Except Error (List (Id .kind) × Knowledge) :=
  let edit := reading.perform line (shelf.storage.menu shelf.settings) declaration
  match edit.perform knowledge.world with
  | (.ok kinds, world) => .ok (kinds, { knowledge with world := world })
  | (.error error, _) => .error error

/-- Carry out a line of a definition file, which has to be a declaration. -/
def define (shelf : Shelf) (load : List (Id .kind) → Knowledge → Except Error Knowledge)
    (path : String) (knowledge : Knowledge) (line : String) : Except Error Knowledge := do
  let reading ← knowledge.world.understand line
  match reading.pattern.action with
  | .command _ => throw (.grammar (.rejected line (.commandInFile path)))
  | .declare declaration =>
    let (kinds, knowledge) ← knowledge.perform shelf line reading declaration
    load kinds knowledge

/-- Look for the definition file of a kind, unless that has been done for its noun, and carry out
its lines. -/
def loadKind (shelf : Shelf) (load : List (Id .kind) → Knowledge → Except Error Knowledge)
    (knowledge : Knowledge) (kind : Id .kind) : Except Error Knowledge :=
  let noun := knowledge.world.kindName kind
  if knowledge.loaded.contains noun then .ok knowledge
  else
    let knowledge := { knowledge with loaded := knowledge.loaded ++ [noun] }
    let path := shelf.settings.file noun Settings.definitionExtension
    match shelf.storage.read path with
    | .error (.notFound _) => .ok knowledge
    | .error error => .error (.resource error)
    | .ok text => (statementsIn text).foldlM (define shelf load path) knowledge

/-- Load the definition files of kinds, at most `fuel` of them within each other. -/
def load (shelf : Shelf) : (fuel : Nat) → List (Id .kind) → Knowledge → Except Error Knowledge
  | 0, _, knowledge => .ok knowledge
  | fuel + 1, kinds, knowledge => kinds.foldlM (loadKind shelf (load shelf fuel)) knowledge

/-- Carry out a declaration and load the definition files that it asks for. -/
def state (shelf : Shelf) (line : String) (reading : Reading) (declaration : Declaration)
    (knowledge : Knowledge) : Except Error Knowledge := do
  let (kinds, knowledge) ← knowledge.perform shelf line reading declaration
  load shelf (enoughLoads shelf.storage) kinds knowledge

end Knowledge

/-- A session that knows something else. -/
def Session.knowing (session : Session) (knowledge : Knowledge) : Session :=
  { session with knowledge := knowledge }

/-- A session that has accepted one more declaration. -/
def Session.accept (session : Session) (line : String) (knowledge : Knowledge) : Session :=
  { session with knowledge := knowledge, transcript := session.transcript ++ [line] }

namespace Turn

variable {session : Session}

/-- Whether a turn leaves known what a function says, and changes nothing else. One that fails may
leave anything known. -/
def Comes (turn : Turn Unit) (session : Session) : Except Error Knowledge → Prop
  | .ok knowledge => turn.take session = (.ok (), session.knowing knowledge)
  | .error error => ∃ knowledge, turn.take session = (.error error, session.knowing knowledge)

namespace Comes

/-- A turn fails only if the function does, and in the same way. -/
theorem eq_error {turn : Turn Unit} {result : Except Error Knowledge} {error : Error}
    (comes : turn.Comes session result) (failed : (turn.take session).1 = .error error) :
    result = .error error := by
  cases result with
  | ok knowledge =>
    have done : turn.take session = (.ok (), session.knowing knowledge) := comes
    rw [done] at failed
    cases failed
  | error other =>
    obtain ⟨knowledge, same⟩ := comes
    rw [same] at failed
    cases failed
    rfl

theorem of_pure : (pure () : Turn Unit).Comes session (.ok session.knowledge) := rfl

theorem of_throw (error : Error) : (throw error : Turn Unit).Comes session (.error error) :=
  ⟨session.knowledge, rfl⟩

/-- A turn may go on as another one where something else is known by then. -/
theorem of_take_eq {turn next : Turn Unit} {knowledge : Knowledge}
    {result : Except Error Knowledge}
    (same : turn.take session = next.take (session.knowing knowledge))
    (comes : next.Comes (session.knowing knowledge) result) : turn.Comes session result := by
  cases result with
  | ok => exact same.trans comes
  | error => exact comes.imp fun _ failed => same.trans failed

theorem of_get {next : Session → Turn Unit} {result : Except Error Knowledge}
    (comes : (next session).Comes session result) : (get >>= next).Comes session result :=
  .of_take_eq rfl comes

theorem of_set {next : Turn Unit} {knowledge : Knowledge} {result : Except Error Knowledge}
    (comes : next.Comes (session.knowing knowledge) result) :
    (do set (session.knowing knowledge); next : Turn Unit).Comes session result :=
  .of_take_eq rfl comes

theorem of_lift {α : Type} (first : Except Error α) {next : α → Turn Unit}
    {rest : α → Except Error Knowledge} (comes : ∀ a, (next a).Comes session (rest a)) :
    (liftM first >>= next).Comes session (first >>= rest) := by
  cases first with
  | error error => exact ⟨session.knowledge, rfl⟩
  | ok a => exact .of_take_eq rfl (comes a)

theorem bind {turn next : Turn Unit} {first : Except Error Knowledge}
    {rest : Knowledge → Except Error Knowledge} (comes : turn.Comes session first)
    (goes : ∀ knowledge, next.Comes (session.knowing knowledge) (rest knowledge)) :
    (do turn; next : Turn Unit).Comes session (first >>= rest) := by
  cases first with
  | error error =>
    obtain ⟨knowledge, failed⟩ := comes
    exact ⟨knowledge, by rw [take_bind, failed]⟩
  | ok knowledge =>
    have done : turn.take session = (.ok (), session.knowing knowledge) := comes
    exact .of_take_eq (by rw [take_bind, done]) (goes knowledge)

/-- What is done to one thing after another. -/
theorem of_forM {α : Type} {f : α → Turn Unit} {g : Knowledge → α → Except Error Knowledge}
    (each : ∀ x knowledge, (f x).Comes (session.knowing knowledge) (g knowledge x)) (xs : List α)
    (knowledge : Knowledge) :
    (xs.forM f).Comes (session.knowing knowledge) (xs.foldlM g knowledge) := by
  induction xs generalizing knowledge with
  | nil => exact of_pure
  | cons x xs ih =>
    rw [List.foldlM_cons, List.forM_eq_forM, List.forM_cons, ← List.forM_eq_forM]
    exact (each x knowledge).bind ih

end Comes

/-- The world changes as far as the edits go that a declaration asks for. -/
theorem take_perform (line : String) (reading : Reading) (declaration : Declaration)
    (knowledge : Knowledge) : (perform line reading declaration).take (session.knowing knowledge) =
      let menu := session.shelf.storage.menu session.shelf.settings
      let made := (reading.perform line menu declaration).perform knowledge.world
      (made.1, session.knowing { knowledge with world := made.2 }) := by
  simp only [perform, take_bind, take_get, take_set, take_lift]
  rfl

section Loading

variable {later : List (Id .kind) → Turn Unit}
  {load : List (Id .kind) → Knowledge → Except Error Knowledge}

theorem comes_perform (loads : ∀ kinds knowledge,
      (later kinds).Comes (session.knowing knowledge) (load kinds knowledge)) (line : String)
    (reading : Reading) (declaration : Declaration) (knowledge : Knowledge) :
    (perform line reading declaration >>= later).Comes (session.knowing knowledge) (do
      let (kinds, knowledge) ← knowledge.perform session.shelf line reading declaration
      load kinds knowledge) := by
  have taken : (perform line reading declaration).take (session.knowing knowledge) = _ :=
    take_perform line reading declaration knowledge
  rw [Knowledge.perform]
  dsimp only at taken
  rcases made : Edit.perform _ knowledge.world with ⟨error | kinds, world⟩
  · rw [made] at taken
    exact ⟨{ knowledge with world := world }, by rw [take_bind, taken]; rfl⟩
  · rw [made] at taken
    exact .of_take_eq (by rw [take_bind, taken]; rfl)
      (loads kinds { knowledge with world := world })

theorem comes_define (loads : ∀ kinds knowledge,
      (later kinds).Comes (session.knowing knowledge) (load kinds knowledge)) (path line : String)
    (knowledge : Knowledge) : (define later path line).Comes (session.knowing knowledge)
      (knowledge.define session.shelf load path line) := by
  refine .of_get (.of_lift _ fun reading => ?_)
  cases reading.pattern.action with
  | command => exact .of_throw _
  | declare declaration => exact comes_perform loads line reading declaration knowledge

theorem comes_loadKind (loads : ∀ kinds knowledge,
      (later kinds).Comes (session.knowing knowledge) (load kinds knowledge)) (kind : Id .kind)
    (knowledge : Knowledge) : (loadKind later kind).Comes (session.knowing knowledge)
      (knowledge.loadKind session.shelf load kind) := by
  refine .of_get ?_
  dsimp only [Knowledge.loadKind, Session.knowing, Session.world]
  split
  · exact .of_pure
  · refine .of_set ?_
    cases session.shelf.storage.read (session.shelf.settings.file (knowledge.world.kindName kind)
      Settings.definitionExtension) with
    | error error =>
      cases error with
      | notFound path => exact rfl
      | unreadable path => exact .of_throw _
    | ok text => exact .of_forM (comes_define loads _) (statementsIn text) _

end Loading

/-- Loading comes to what is known after it. -/
theorem comes_load (fuel : Nat) (kinds : List (Id .kind)) (knowledge : Knowledge) :
    (load fuel kinds).Comes (session.knowing knowledge)
      (Knowledge.load session.shelf fuel kinds knowledge) := by
  induction fuel generalizing kinds knowledge with
  | zero => exact .of_pure
  | succ fuel ih => exact .of_forM (comes_loadKind ih) kinds knowledge

/-- What is known is put back if a declaration fails, or what it has loaded. -/
theorem take_declare (line : String) (reading : Reading) (declaration : Declaration) :
    (declare line reading declaration).take session =
      match session.knowledge.state session.shelf line reading declaration with
      | .ok knowledge => (.ok (), session.accept line knowledge)
      | .error error => (.error error, session) := by
  have comes : (perform line reading declaration >>=
      load (Knowledge.enoughLoads session.shelf.storage)).Comes session
        (session.knowledge.state session.shelf line reading declaration) :=
    comes_perform (comes_load _) line reading declaration session.knowledge
  simp only [declare, take_bind, take_get, take_tryCatch]
  cases stated : session.knowledge.state session.shelf line reading declaration with
  | error error =>
    rw [stated] at comes
    obtain ⟨knowledge, failed⟩ := comes
    rw [take_bind] at failed
    rw [failed]
    rfl
  | ok knowledge =>
    rw [stated] at comes
    have done : Turn.take _ session = (.ok (), session.knowing knowledge) := comes
    rw [take_bind] at done
    rw [done]
    rfl

end Turn

end Worldsmith
