import Worldsmith.Language.Inflection
import Worldsmith.Sentence.Reader
import Worldsmith.World.Basic

/-!
# Coining

Which words can become new names, and how new kinds get the forms of their names.
-/

namespace Worldsmith

/-- Words that never become part of a new name. -/
def reservedWords : List String :=
  ["a", "an", "the", "and", "or", "not", "is", "are", "be", "can", "cannot", "must", "has",
   "have", "should", "called", "its", "their", "each", "themselves", "kind", "kinds"]

/-- Words that may follow the first word of a new verb: "play with". -/
def prepositions : List String :=
  ["with", "to", "at", "on", "in", "of", "for", "about", "from", "by", "into", "over", "under",
   "after", "near"]

/-- Whether a name consists of plain words and stands for nothing yet. -/
def World.isCoinable (world : World) (name : Name) : Bool :=
  !name.isEmpty && name.all (fun t => t.kind == .word && !t.isOneOf reservedWords) &&
    (world.find? name).isNone

/-- The singular and plural of a new kind whose name is typed in some number. A name that has no
singular is read as one. -/
def bothNumbers? (name : Name) : GrammaticalNumber → Option (Name × Name)
  | .singular => name.plural.toOption.map fun plural => (name, plural)
  | .plural =>
    match name.singular with
    | .ok singular => some (singular, name)
    | .error _ => name.plural.toOption.map fun plural => (name, plural)

/-- A name with its first word in small letters. -/
def Name.lowerFirst : Name → Name
  | [] => []
  | first :: rest => { first with text := Text.lowerText first.text } :: rest

namespace Reader

/-- Coin a kind, or find the coinage that claims its name. A capital at the start of a sentence
does not count. -/
def coinKind (world : World) (name : Name) (number : GrammaticalNumber) (atStart : Bool)
    (reader : Reader) : Option (Nat × Reader) :=
  if !world.isCoinable name then none
  else
    match reader.pending? name with
    | some index =>
      if reader.coinages[index]?.any Coinage.isKind then some (index, reader) else none
    | none =>
      match bothNumbers? (if atStart then name.lowerFirst else name) number with
      | none => none
      | some (singular, plural) =>
        if (world.find? singular).isSome || (world.find? plural).isSome then none
        else some (reader.coin (.kind singular plural))

/-- Coin something with one name, or find the coinage that claims it, which has to be of the same
sort. -/
def coinNamed (world : World) (name : Name) (coinage : Coinage) (sameSort : Coinage → Bool)
    (reader : Reader) : Option (Nat × Reader) :=
  match reader.pending? name with
  | some index => if reader.coinages[index]?.any sameSort then some (index, reader) else none
  | none => if world.isCoinable name then some (reader.coin coinage) else none

end Reader

end Worldsmith
