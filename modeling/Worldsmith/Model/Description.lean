import Worldsmith.Model.Basic
import Worldsmith.Text.AsciiCase

/-!
# Names and descriptions

The name or description of a being follows the template of the nearest kind that has one, slot by
slot. Without a template the name is the adjectives and the noun, and the description is the name
and all properties. Within a template that is being filled the same template of the same being is
not filled again; the plain name stands in for it.

What fills a template is a parameter of everything that may come upon one, and the monad is the
one it runs in.
-/

/-- The monad that gives nothing but the result. Within the library an `Id` is the number of a
concept. -/
abbrev Plainly (α : Type) : Type := Id α

namespace Worldsmith

namespace Model

/-- What a template is for. -/
inductive Caption where
  | name
  | description
  deriving DecidableEq, Repr

/-- The templates that are being filled. -/
abbrev Path := List (Nat × Caption)

/-- What a template has shown already. -/
structure Shown where
  properties : List (Id .property)
  parts : List (Id .part)

/-- The template of a kind. -/
def Caption.template? (caption : Caption) (kind : Kind) : Option Template :=
  match caption with
  | .name => kind.nameTemplate
  | .description => kind.descriptionTemplate

/-- The names of the most specific kinds of a being. -/
def noun (m : Model) (i : Nat) : String :=
  " ".intercalate ((m.specificKinds i).map m.world.kindName)

/-- The adjectives of a being in words. -/
def modifiers (m : Model) (i : Nat) : String :=
  " ".intercalate ((m.adjectives i).map m.world.adjectiveName)

/-- Adjectives and noun. -/
def plainName (m : Model) (i : Nat) : String :=
  " ".intercalate ([m.modifiers i, m.noun i].filter fun text => !text.isEmpty)

/-- The template of the nearest kind that has one. -/
def template? (m : Model) (i : Nat) (caption : Caption) : Option Template :=
  ((m.specificKinds i).flatMap m.world.ancestors).findSome? fun kind =>
    caption.template? (m.world.kind kind)

/-- The properties of all kinds of a being. -/
def properties (m : Model) (i : Nat) : List (Id .property) :=
  ((m.kinds i).flatMap fun kind => (m.world.kind kind).properties).eraseDups

/-- The parts that a being has because of what it turned out to be. -/
def parts (m : Model) (i : Nat) : List (Id .part × Nat) :=
  (m.being i).parts.filter fun part => m.isOf i (m.world.part part.1).owner

/-- A property of a being by its name. -/
def findProperty? (m : Model) (i : Nat) (name : String) : Option (Id .property) :=
  (m.properties i).find? fun p => Text.sameAscii (untokenize (m.world.property p).name) name

/-- A part of a being by its name. -/
def findPart? (m : Model) (i : Nat) (name : String) : Option (Id .part × Nat) :=
  (m.parts i).find? fun part => Text.sameAscii (untokenize (m.world.part part.1).name) name

/-- How a template is filled within the templates of a path. -/
abbrev Render (M : Type → Type) := Nat → Template → Caption → Path → M String

section By

variable {M : Type → Type} [Monad M]

/-- The name of a being. -/
def nameBy (m : Model) (render : Render M) (path : Path) (i : Nat) : M String :=
  match (m.being i).permanent with
  | some permanent => pure (untokenize (m.world.individual permanent).name)
  | none =>
    if path.contains (i, .name) then pure (m.plainName i)
    else
      match m.template? i .name with
      | some template => render i template .name path
      | none => pure (m.plainName i)

/-- The names and values of all properties that have not been shown. -/
def valuesBut (m : Model) (i : Nat) (shown : Shown) : List String :=
  (m.properties i).filterMap fun p =>
    if shown.properties.contains p then none
    else (m.value? i p).map fun value => untokenize (m.world.property p).name ++ ": " ++ value

/-- Names and values of all properties and parts that have not been shown. -/
def propertiesBy (m : Model) (render : Render M) (path : Path) (i : Nat) (shown : Shown) :
    M String := do
  let left := (m.parts i).filter fun part => !shown.parts.contains part.1
  let parts ← left.mapM fun part => do
    let name ← m.nameBy render path part.2
    return untokenize (m.world.part part.1).name ++ ": " ++ name
  return ", ".intercalate (m.valuesBut i shown ++ parts)

/-- The description of a being. -/
def descriptionBy (m : Model) (render : Render M) (path : Path) (i : Nat) : M String :=
  if path.contains (i, .description) then pure (m.plainName i)
  else
    match m.template? i .description with
    | some template => render i template .description path
    | none => do
      let name ← m.nameBy render path i
      let properties ← m.propertiesBy render path i ⟨[], []⟩
      return if properties.isEmpty then name else name ++ ", " ++ properties

/-- What stands in a template for something that is not known. -/
def unknown : String := "unknown"

/-- Fill a slot, and note what has been shown. -/
def fillSlot (m : Model) (render : Render M) (path : Path) (i : Nat) (slot : String)
    (shown : Shown) : M (String × Shown) :=
  if slot = "Noun" then pure (m.noun i, shown)
  else if slot = "Modifiers" then pure (m.modifiers i, shown)
  else if slot = "AllProperties" then do
    let text ← m.propertiesBy render path i shown
    return (text, shown)
  else if slot = "ContainerName" then
    match (m.being i).container with
    | some (container, _) => do
      let text ← m.nameBy render path container
      return (text, shown)
    | none => pure (unknown, shown)
  else
    match m.findProperty? i slot with
    | some p =>
      pure ((m.value? i p).getD unknown, { shown with properties := shown.properties ++ [p] })
    | none =>
      match m.findPart? i slot with
      | some (part, child) => do
        let text ← m.descriptionBy render path child
        return (text, { shown with parts := shown.parts ++ [part] })
      | none => pure ("<unknown property " ++ slot ++ ">", shown)

/-- Fill the slots of a template from left to right. An empty filling leaves no trace. -/
def fillSlots (m : Model) (render : Render M) (path : Path) (i : Nat) (shown : Shown) :
    List Token → M (List Token)
  | [] => pure []
  | token :: rest =>
    if token.kind = .marker then do
      let (text, shown) ← m.fillSlot render path i token.text shown
      let rest ← fillSlots m render path i shown rest
      return if text.isEmpty then rest else .word text :: rest
    else do
      let rest ← fillSlots m render path i shown rest
      return token :: rest

/-- Fill a template. Those within it are filled as told, with this one on their path. -/
def fillTemplate (m : Model) (render : Render M) : Render M :=
  fun i template caption path => do
    let tokens ← m.fillSlots render ((i, caption) :: path) i ⟨[], []⟩ template.tokens
    return untokenize tokens

/-- Number the names that are the same. -/
def numbered (names : List String) : List String :=
  names.zipIdx.map fun (name, i) =>
    if names.count name = 1 then name
    else name ++ " #" ++ ((names.take (i + 1)).count name).repr

/-- The names of all beings, numbered where several are the same. -/
def labelsBy (m : Model) (render : Render M) : M (List String) := do
  return numbered (← (List.range m.size).mapM (m.nameBy render []))

/-- The requested beings, one to a line, and how beings are related. -/
def textBy (m : Model) (render : Render M) : M String := do
  let labels := (← m.labelsBy render).toArray
  let descriptions ← m.blueprint.requested.mapM (m.descriptionBy render [])
  let relations := m.relationships.map fun r =>
    labels.getD r.subject "" ++ " " ++ untokenize (m.world.verb r.verb).thirdPerson ++ " " ++
      labels.getD r.object ""
  return "\n".intercalate (descriptions ++ relations)

end By

/-- Fill a template. Templates are nested at most `fuel` deep. -/
def render (m : Model) : (fuel : Nat) → Render Plainly
  | 0 => fun i _ _ _ => m.plainName i
  | fuel + 1 => m.fillTemplate (render m fuel)

/-- A path names each of the two templates of each being at most once. -/
def maxNesting (m : Model) : Nat := 2 * m.size + 1

def name (m : Model) (i : Nat) : String :=
  m.nameBy (m.render m.maxNesting) [] i

def description (m : Model) (i : Nat) : String :=
  m.descriptionBy (m.render m.maxNesting) [] i

def labels (m : Model) : List String :=
  m.labelsBy (m.render m.maxNesting)

def text (m : Model) : String :=
  m.textBy (m.render m.maxNesting)

end Model

end Worldsmith
