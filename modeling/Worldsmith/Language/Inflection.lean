import Worldsmith.Language.Token
import Worldsmith.Error

/-!
# Inflection

Plural, singular and gerund forms. Irregular words come first; otherwise the first rule whose
ending the word has is applied to what stands before the ending. In a name of several words the
last word takes the number and the first takes the gerund.
-/

namespace Worldsmith

/-- One or many. -/
inductive GrammaticalNumber where
  | singular
  | plural
  deriving DecidableEq, Repr

namespace Inflection

/-- Words that no rule covers, singular first. Some have one form for both numbers. -/
def irregular : List (String × String) :=
  [("person", "people"), ("child", "children"), ("mouse", "mice"), ("louse", "lice"),
   ("goose", "geese"), ("foot", "feet"), ("tooth", "teeth"), ("ox", "oxen"), ("die", "dice"),
   ("human", "humans"), ("german", "germans"), ("leaf", "leaves"), ("loaf", "loaves"),
   ("thief", "thieves"), ("wolf", "wolves"), ("elf", "elves"), ("dwarf", "dwarves"),
   ("half", "halves"), ("shelf", "shelves"), ("calf", "calves"), ("knife", "knives"),
   ("wife", "wives"), ("life", "lives"), ("cactus", "cacti"), ("fungus", "fungi"),
   ("octopus", "octopi"), ("hero", "heroes"), ("potato", "potatoes"), ("tomato", "tomatoes"),
   ("echo", "echoes"), ("bus", "buses"), ("gas", "gases"), ("criterion", "criteria"),
   ("phenomenon", "phenomena"), ("sheep", "sheep"), ("fish", "fish"), ("deer", "deer"),
   ("moose", "moose"), ("series", "series"), ("species", "species"), ("aircraft", "aircraft")]

/-- Endings in the singular and in the plural. The last rule takes any word. -/
def endings : List (String × String) :=
  [("man", "men"), ("ss", "sses"), ("sh", "shes"), ("ch", "ches"), ("x", "xes"), ("zz", "zzes"),
   ("ay", "ays"), ("ey", "eys"), ("oy", "oys"), ("uy", "uys"), ("y", "ies"), ("", "s")]

/-- Whether `ending` ends `word` and leaves something in front. -/
def hasEnding (word ending : List Char) : Bool :=
  ending.isSuffixOf word && ending.length < word.length

/-- Begin `word` with a capital if `model` does. -/
def matchCase (model word : String) : String :=
  match model.toList, word.toList with
  | m :: _, c :: rest => if Text.isUppercase m then String.ofList (c.toUpper :: rest) else word
  | _, _ => word

/-- Apply the first rule whose first ending `word` has. -/
def changeEnding (rules : List (String × String)) (word : String) : Option String :=
  let lower := (Text.lowerText word).toList
  (rules.find? fun rule => hasEnding lower rule.1.toList).map fun rule =>
    String.ofList (word.toList.take (word.toList.length - rule.1.toList.length)) ++ rule.2

/-- The other number of a word, where `rules` and `exceptions` lead from the one it has. -/
def other (exceptions rules : List (String × String)) (word : String) : Option String :=
  match exceptions.lookup (Text.lowerText word) with
  | some form => some (matchCase word form)
  | none => changeEnding rules word

/-- Lead from plurals to singulars instead. -/
def turned (pairs : List (String × String)) : List (String × String) :=
  pairs.map Prod.swap

/-- The plural of a word. -/
def plural (word : String) : Except GrammarError String :=
  match other irregular endings word with
  | some form => .ok form
  | none => .error (.noInflection word .plural)

/-- The singular of a word. -/
def singular (word : String) : Except GrammarError String :=
  match other (turned irregular) (turned endings) word with
  | some form => .ok form
  | none => .error (.noInflection word .singular)

def isVowel (c : Char) : Bool :=
  ['a', 'e', 'i', 'o', 'u'].contains c

/-- Whether a word is a consonant, a vowel and a consonant that doubles. -/
def doublesLast : List Char → Bool
  | [a, b, c] => !isVowel a && isVowel b && !isVowel c && !(['w', 'x', 'y'].contains c)
  | _ => false

/-- The part of a verb that stands before "ing". -/
def gerundStem (word : List Char) (lower : String) : List Char :=
  let small := lower.toList
  if ['i', 'e'].isSuffixOf small then word.take (word.length - 2) ++ ['y']
  else if ['e'].isSuffixOf small && !(['e', 'e'].isSuffixOf small) && !(['y', 'e'].isSuffixOf small)
      && 2 < lower.utf8ByteSize then word.dropLast
  else if doublesLast small then word ++ word.getLast?.toList
  else word

/-- The "-ing" form of a verb. -/
def gerund (word : String) : String :=
  String.ofList (gerundStem word.toList (Text.lowerText word)) ++ "ing"

end Inflection

namespace Name

/-- Inflect the last token of a name. -/
def inflectLast (inflect : String → Except GrammarError String) :
    Name → Except GrammarError Name
  | [] => .error (.noInflection "" .any)
  | [last] => do return [{ last with text := ← inflect last.text }]
  | token :: next :: rest => do return token :: (← inflectLast inflect (next :: rest))

def plural (name : Name) : Except GrammarError Name :=
  inflectLast Inflection.plural name

def singular (name : Name) : Except GrammarError Name :=
  inflectLast Inflection.singular name

/-- The gerund of a verb's name: "play with" becomes "playing with". -/
def gerund : Name → Name
  | [] => []
  | first :: rest => { first with text := Inflection.gerund first.text } :: rest

end Name

end Worldsmith
