import Worldsmith.Error
import Worldsmith.Session.Settings
import Worldsmith.Text.Lines

/-!
# Storage

The files that a session reads and writes: a tree of folders, seen from the directory the session
runs in. A file that is missing and a file that cannot be read are told apart.
-/

namespace Worldsmith

/-- The way from the current directory to a place, one step after another. -/
abbrev Route := List String

/-- What there is at a place. -/
inductive StorageItem where
  | file (content : ByteArray)
  | folder
  | nothing
  /-- Something that cannot be read, or is not known. -/
  | barred
  deriving Inhabited

namespace StorageItem

def isFolder : StorageItem → Bool
  | folder => true
  | _ => false

/-- The size of a file in bytes. -/
def size : StorageItem → Nat
  | file content => content.size
  | _ => 0

end StorageItem

/-- Files and folders, each with its route. Whatever is above the current directory, or at the root
of all directories, counts as a folder about which nothing else is known. -/
structure Storage where
  items : List (Route × StorageItem)
  /-- What there is at all other places. -/
  elsewhere : StorageItem

/-- Why a path does not lead to a file. -/
inductive RouteFailure where
  | missing
  /-- The path is too long or no path at all, passes through a file, or leads to something else
  than a file. -/
  | barred
  deriving DecidableEq, Repr

/-- A failure of a path as an error. -/
def RouteFailure.error (path : String) : RouteFailure → ResourceError
  | .missing => .notFound path
  | .barred => .unreadable path

namespace Storage

def empty : Storage := ⟨[], .nothing⟩

/-- The step to the root of all directories. -/
def rootStep : String := "/"

/-- The step to the folder above. -/
def upStep : String := ".."

/-- What there is at the end of a route. -/
def item (storage : Storage) (route : Route) : StorageItem :=
  if route.all fun step => step = upStep || step = rootStep then .folder
  else (storage.items.lookup route).getD storage.elsewhere

/-- The route to the folder above. -/
def above (route : Route) : Route :=
  match route.getLast? with
  | none => [upStep]
  | some last =>
    if last = rootStep then route
    else if last = upStep then route ++ [upStep]
    else route.dropLast

/-- No name may be longer than this, in bytes. -/
def maxNameSize : Nat := 255

/-- Every path is shorter than this, in bytes. -/
def maxPathSize : Nat := 4096

/-- Go from a place along the steps of a path. All places on the way have to be folders; there may
be nothing at the last. -/
def walk (storage : Storage) (place : Route) : List String → Except RouteFailure Route
  | [] => .ok place
  | step :: rest =>
    match storage.item place with
    | .nothing => .error .missing
    | .file _ | .barred => .error .barred
    | .folder =>
      if step.isEmpty || step = "." then walk storage place rest
      else if step = upStep then walk storage (above place) rest
      else if maxNameSize < step.utf8ByteSize then .error .barred
      else walk storage (place ++ [step]) rest

/-- Where a path begins. -/
def origin (path : String) : Route :=
  if path.startsWith "/" then [rootStep] else []

/-- The steps of a path. -/
def steps (path : String) : List String :=
  (path.toList.splitOn '/').map String.ofList

/-- No path may have this character in it. -/
def terminator : Char := '\x00'

/-- The place that a path leads to. -/
def locate (storage : Storage) (path : String) : Except RouteFailure Route :=
  if path.toList.contains terminator then .error .barred
  else if path.isEmpty then .error .missing
  else if maxPathSize ≤ path.utf8ByteSize then .error .barred
  else storage.walk (origin path) (steps path)

/-- What is in the file that a path leads to. -/
def content (storage : Storage) (path : String) : Except RouteFailure ByteArray := do
  match storage.item (← storage.locate path) with
  | .file content => return content
  | .nothing => throw .missing
  | .folder | .barred => throw .barred

/-- Read a file as text. -/
def read (storage : Storage) (path : String) : Except ResourceError String := do
  let content ← (storage.content path).mapError (RouteFailure.error path)
  match String.fromUTF8? content with
  | some text => return text
  | none => throw (.unreadable path)

/-- Put something at the end of a route in place of what was there. -/
def put (storage : Storage) (route : Route) (item : StorageItem) : Storage :=
  { storage with items := (route, item) :: storage.items.filter (·.1 != route) }

/-- Write a file. The folder it is to be in has to exist. -/
def write (storage : Storage) (path : String) (content : ByteArray) :
    Except ResourceError Storage :=
  match storage.locate path with
  | .error _ => .error (.unreadable path)
  | .ok route =>
    match storage.item route with
    | .file _ | .nothing => .ok (storage.put route (.file content))
    | .folder | .barred => .error (.unreadable path)

/-- Take away what a path leads to. -/
def remove (storage : Storage) (path : String) : Storage :=
  match storage.locate path with
  | .error _ => storage
  | .ok route => storage.put route .nothing

/-- Make folders of all places on a path from some place on. -/
def makeFolders (storage : Storage) (place : Route) : List String → Storage
  | [] => storage
  | step :: rest =>
    if step.isEmpty || step = "." then makeFolders storage place rest
    else if step = upStep then makeFolders storage (above place) rest
    else
      let place := place ++ [step]
      let storage :=
        if (storage.item place).isFolder then storage else storage.put place .folder
      makeFolders storage place rest

/-- Make a folder, and all folders that it is in. -/
def makeFolder (storage : Storage) (path : String) : Storage :=
  storage.makeFolders (origin path) (steps path)

/-- The size of all files together, in bytes. -/
def size (storage : Storage) : Nat :=
  storage.items.foldl (fun total (_, item) => total + item.size) storage.elsewhere.size

/-- The values that a menu offers, one to a line. -/
def menu (storage : Storage) (settings : Settings) (source : String) :
    Except ResourceError (List String) :=
  (storage.read (settings.file source Settings.menuExtension)).map fun text =>
    ((Text.lines text).map Text.trim).filter fun line => !line.isEmpty

end Storage

end Worldsmith
