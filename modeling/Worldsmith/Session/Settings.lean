/-!
# Settings

What can be chosen about a session, and where its files are.
-/

namespace Worldsmith

structure Settings where
  /-- The directory of definition files, menus and saved worlds. -/
  definitionsDir : Option String
  /-- The seed of the random choices, if they are to be repeatable. -/
  seed : Option Nat
  /-- Search steps before giving up. -/
  maxSteps : Nat
  /-- Searches made for statistics. -/
  trials : Nat
  /-- The most individuals that can be asked for at once. -/
  maxIndividuals : Nat
  deriving Repr

/-- Search steps before giving up, unless chosen otherwise. -/
def defaultMaxSteps : Nat := 100000

namespace Settings

def default : Settings := ⟨none, none, defaultMaxSteps, 100, 50⟩

/-- The ending of definition files and saved worlds. -/
def definitionExtension : String := "gen"

/-- The ending of menus. -/
def menuExtension : String := "txt"

/-- A path within a directory. An absolute path stays as it is. -/
def joinPath (dir file : String) : String :=
  if file.startsWith "/" || dir.isEmpty then file
  else if dir.endsWith "/" then dir ++ file
  else dir ++ "/" ++ file

/-- The path of the file `name.extension`. Without a directory of its own a session uses the
current one. -/
def file (settings : Settings) (name extension : String) : String :=
  joinPath (settings.definitionsDir.getD ".") (name ++ "." ++ extension)

end Settings

end Worldsmith
