import Worldsmith.Statement.Basic
import Worldsmith.Text.AsciiCase

/-!
# Statements about properties and parts
-/

namespace Worldsmith

namespace Statement

/-- Members of a kind have a number as a property. -/
def range (s : Statement) : Edit Unit := do
  let kind ← s.kindAt 0
  let low ← s.reading.count 0
  let high ← s.reading.count 1
  s.checkBounds low high
  let name ← s.reading.text 0
  modify fun world =>
    (world.addProperty kind name (.range low.toUInt64.toFloat high.toUInt64.toFloat)).2

/-- Members of a kind have one of the values in a file as a property. -/
def menuProperty (s : Statement) : Edit Unit := do
  let kind ← s.kindAt 0
  let source := untokenize (← s.reading.text 1)
  let values ← (s.menu source).mapError Error.resource
  if values.isEmpty then
    s.objection (α := Unit) (.emptyMenu source)
  let name ← s.reading.text 0
  modify fun world => (world.addProperty kind name (.menu source values [])).2

/-- Members of a kind have something as a property that only statements set. -/
def freeText (s : Statement) : Edit Unit := do
  let kind ← s.kindAt 0
  let name ← s.reading.text 0
  modify fun world => (world.addProperty kind name .text).2

/-- Members of a kind have a part. -/
def part (s : Statement) : Edit Unit := do
  let owner ← s.kindAt 0
  let phrase ← s.reading.noun 1
  let kind ← s.kind phrase
  let modifiers ← s.modifiers phrase
  let name ← s.reading.text 0
  if ((← get).findPart? owner name).isSome then
    s.objection (α := Unit) .partExists
  modify fun world =>
    ((world.makeTraitsRelevant kind modifiers).addPart owner name kind modifiers).2

/-! ## Values -/

/-- Cut tokens at commas and at "or". -/
def splitValues : List Token → List (List Token)
  | [] => [[]]
  | token :: rest =>
    if token.isOneOf [",", "or"] then [] :: splitValues rest
    else
      match splitValues rest with
      | [] => [[token]]
      | value :: values => (token :: value) :: values

/-- The values in a text such as "grey, white or black". -/
def valuesIn (tokens : List Token) : List String :=
  ((splitValues tokens).filter fun value => !value.isEmpty).map untokenize

/-- Whether a menu offers a value. -/
def offers (values : List String) (value : String) : Bool :=
  values.any (Text.sameAscii · value)

/-- Complain that a property cannot take a value. -/
def badValue {α : Type} (owner : String) (name value : List Token) : Edit α :=
  Edit.contradict (.propertyValue owner (untokenize name) (untokenize value))

/-- The value of an individual's property. -/
def individualValue (id : Id .individual) (name value : List Token) : Edit Unit := do
  let world ← get
  let individual := world.individual id
  let owner := untokenize individual.name
  match individual.kinds.findSome? fun kind => world.findProperty? kind name with
  | none => badValue owner name value
  | some property =>
    let text := untokenize value
    match (world.property property).domain with
    | .menu _ values _ =>
      if !offers values text then
        badValue (α := Unit) owner name value
    | _ => pure ()
    set (world.modifyIndividual id fun individual =>
      { individual with
        properties := individual.properties.filter (·.1 != property) ++ [(property, text)] })

/-- The values to which a property of members of a kind is restricted. -/
def kindValues (s : Statement) (id : Id .kind) (phrase : NounPhrase) (name value : List Token) :
    Edit Unit := do
  let world ← get
  let owner := world.kindName id
  match world.findProperty? id name with
  | none => badValue owner name value
  | some property =>
    let modifiers ← s.modifiers phrase
    match (world.property property).domain with
    | .menu source values restrictions =>
      let allowed := valuesIn value
      if allowed.all (offers values) then
        let restriction : MenuRestriction := ⟨⟨.kind id, true⟩ :: modifiers, allowed⟩
        set (world.modifyProperty property fun p =>
          { p with domain := .menu source values (restrictions ++ [restriction]) })
      else badValue owner name value
    | _ => badValue owner name value

/-- What a property is, of an individual or of all members of a kind. -/
def propertyValue (s : Statement) : Edit Unit := do
  let phrase ← s.reading.noun 0
  let name ← s.reading.text 0
  let value ← s.reading.text 1
  match ← s.concept phrase.head with
  | .individual id => individualValue id name value
  | .kind id => s.kindValues id phrase name value
  | _ => s.objection (α := Unit) .noProperties

end Statement

end Worldsmith
