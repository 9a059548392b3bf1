import Worldsmith.Sentence.Coining
import Worldsmith.Sentence.Count
import Worldsmith.Sentence.Series
import Worldsmith.Sentence.Slot

/-!
# Filling slots

What the tokens between the reader's position and a stop can mean as the filler of a slot. Nothing
is changed by a slot that cannot be filled: the reader given back is a new one.
-/

namespace Worldsmith

/-- The concepts at the start of a noun phrase, verbs excepted, and the tokens after them. Commas
between them are skipped. -/
def knownConcepts (lexicon : Lexicon Concept) (found : List (Entry Concept)) :
    List Token → List (Entry Concept) × List Token
  | [] => (found, [])
  | token :: rest =>
    if token.reads "," && !found.isEmpty then knownConcepts lexicon found rest
    else
      match h : lexicon.longest? (token :: rest) with
      | none => (found, token :: rest)
      | some (entry, length) =>
        match entry.value with
        | .verb _ => (found, token :: rest)
        | _ =>
          have : 0 < length := Lexicon.pos_of_longest? h
          knownConcepts lexicon (found ++ [entry]) ((token :: rest).drop length)
termination_by tokens => tokens.length
decreasing_by
  · simp
  · simp only [List.length_drop, List.length_cons]
    omega

/-- What an article or numeral says about a noun phrase: its number and count. -/
def determiner? (token : Token) : Option (GrammaticalNumber × Nat) :=
  if token.reads "a" || token.reads "an" then some (.singular, 1)
  else token.count?.map fun n => (if n = 1 then .singular else .plural, n)

/-- The modifiers that known concepts stand for. Proper nouns cannot be modifiers. -/
def modifiersOf? (concepts : List (Entry Concept)) : Option (List Modifier) :=
  concepts.mapM fun entry => entry.value.quality?.map fun _ => ⟨.known entry.value, true⟩

/-- The number of a noun phrase with a head in some form. Fails if a determiner says otherwise. -/
def numberOf? (form : WordForm) (determined : Option GrammaticalNumber) :
    Option (Option GrammaticalNumber) :=
  match form, determined with
  | .singular, some .plural => none
  | .plural, some .singular => none
  | .singular, _ => some (some .singular)
  | .plural, _ => some (some .plural)
  | _, number => some number

/-- The form of a new kind's name when it was typed in some number. -/
def coinedForm (coinage : Option Coinage) (number : GrammaticalNumber) : WordForm :=
  let single := match coinage with
    | some (.kind singular plural) => singular.same plural
    | _ => false
  if single then .either
  else
    match number with
    | .singular => .singular
    | .plural => .plural

/-- Whether a concept can be the head of a noun phrase. -/
def Concept.isNoun : Concept → Bool
  | .kind _ => true
  | .individual _ => true
  | _ => false

/-- The head of a noun phrase, its form, and the concepts in front of it. If the phrase ends in a
known noun that is the head; otherwise what is left over names a new kind. -/
def headOf? (world : World) (reader : Reader) (stop : Nat) (reading : GrammaticalNumber)
    (concepts : List (Entry Concept)) (rest : List Token) :
    Option (Mention × WordForm × List (Entry Concept) × Reader) :=
  match rest with
  | [] =>
    match concepts.getLast? with
    | some last =>
      if last.value.isNoun then some (.known last.value, last.form, concepts.dropLast, reader)
      else none
    | none => none
  | _ :: _ =>
    match reader.coinKind world rest reading (rest.length == stop) with
    | none => none
    | some (index, reader) =>
      some (.coined index, coinedForm reader.coinages[index]? reading, concepts, reader)

/-- Read a noun phrase. A new noun without a determiner is read in the number `bare`. -/
def readNounPhrase (world : World) (bare : GrammaticalNumber) (stop : Nat) (reader : Reader) :
    Option (NounPhrase × Reader) := do
  let text := Reader.span reader.tokens reader.position stop
  let first ← reader.peek?
  let determined := determiner? first
  let number := determined.map Prod.fst
  let count := determined.map Prod.snd
  let (concepts, rest) :=
    knownConcepts world.lexicon [] (if determined.isSome then text.drop 1 else text)
  let (head, form, concepts, reader) ←
    headOf? world reader stop (number.getD bare) concepts rest
  let modifiers ← modifiersOf? concepts
  let number ← numberOf? form number
  let proper := match head with
    | .known (.individual _) => true
    | _ => false
  if proper && (count.isSome || !modifiers.isEmpty) then none
  else some (⟨head, modifiers, number, count, text⟩, reader)

/-- Read a proper noun: a known one, or a new one that begins with a capital. -/
def readProperNoun (world : World) (stop : Nat) (reader : Reader) : Option (NounPhrase × Reader) :=
  let name := Reader.span reader.tokens reader.position stop
  let phrase (head : Mention) : NounPhrase := ⟨head, [], some .singular, none, name⟩
  match world.find? name with
  | some entry =>
    match entry.value with
    | .individual _ => some (phrase (.known entry.value), reader)
    | _ => none
  | none =>
    if world.isCoinable name && name.head?.any Token.isCapitalized then
      (reader.coinNamed world name (.individual name) Coinage.isIndividual).map
        fun (index, reader) => (phrase (.coined index), reader)
    else none

/-- Read an adjective, possibly after "not". -/
def readAdjective (world : World) (stop : Nat) (reader : Reader) : Option (Modifier × Reader) := do
  let first ← reader.peek?
  let denied := first.reads "not"
  let start := if denied then reader.position + 1 else reader.position
  let name := Reader.span reader.tokens start stop
  if name.isEmpty then none
  else
    match world.find? name with
    | some entry =>
      match entry.value with
      | .adjective _ => some (⟨.known entry.value, !denied⟩, reader)
      | _ => none
    | none =>
      (reader.coinNamed world name (.adjective name) Coinage.isAdjective).map
        fun (index, reader) => (⟨.coined index, !denied⟩, reader)

/-- The base form of a new verb: one word, and prepositions after it. -/
def newVerb? (world : World) : List Token → Option Name
  | [] => none
  | first :: rest =>
    if world.isCoinable [first] && rest.all (·.isOneOf prepositions) then
      some ((first :: rest).map fun t => .word t.key)
    else none

/-- Read a verb: a known one, or a new one if it may be coined. -/
def readVerb (world : World) (coin : Bool) (stop : Nat) (reader : Reader) :
    Option (Mention × Reader) :=
  let name := Reader.span reader.tokens reader.position stop
  match world.lexicon.longest? name with
  | some (entry, length) =>
    match entry.value with
    | .verb _ => if length = name.length then some (.known entry.value, reader) else none
    | _ => none
  | none =>
    if coin then
      match newVerb? world name with
      | none => none
      | some base =>
        match reader.pending? base with
        | some index =>
          if reader.coinages[index]?.any Coinage.isVerb then some (.coined index, reader) else none
        | none =>
          let (index, reader) := reader.coin (.verb base)
          some (.coined index, reader)
    else none

/-- Read each span in turn. -/
def readSpans {α : Type} (read : Nat → Reader → Option (α × Reader)) :
    List (Nat × Nat) → Reader → Option (List α × Reader)
  | [], reader => some ([], reader)
  | (start, stop) :: rest, reader => do
    let (item, reader) ← read stop (reader.advanceTo start)
    let (items, reader) ← readSpans read rest reader
    return (item :: items, reader)

/-- Read a series. -/
def readSeries {α : Type} (read : Nat → Reader → Option (α × Reader)) (stop : Nat)
    (reader : Reader) : Option (Series α × Reader) := do
  let spans ← splitSeries reader.position (Reader.span reader.tokens reader.position stop)
  let (items, reader) ← readSpans read spans.items reader
  return (⟨items, spans.conjunction⟩, reader)

/-- The position after a phrase that stands at some position. -/
def phraseEnd? (tokens : List Token) (position : Nat) : List String → Option Nat
  | [] => some position
  | word :: rest =>
    match tokens[position]? with
    | some token => if token.reads word then phraseEnd? tokens (position + 1) rest else none
    | none => none

/-- The position after a phrase given as text. -/
def choiceEnd? (tokens : List Token) (start : Nat) (phrase : String) : Option Nat :=
  phraseEnd? tokens start (Text.splitBlank phrase)

namespace Slot

/-- What the tokens up to `stop` mean as the filler of a slot. -/
def filler? (world : World) (slot : Slot) (stop : Nat) (reader : Reader) :
    Option (Constituent × Reader) :=
  match slot with
  | noun number => (readNounPhrase world number stop reader).map fun (np, r) => (.noun np, r)
  | proper => (readProperNoun world stop reader).map fun (np, r) => (.noun np, r)
  | nouns =>
    (readSeries (readNounPhrase world .plural) stop reader).map fun (s, r) => (.nouns s, r)
  | adjective => (readAdjective world stop reader).map fun (m, r) => (.adjective m, r)
  | adjectives =>
    (readSeries (readAdjective world) stop reader).map fun (s, r) => (.adjectives s, r)
  | verb coin => (readVerb world coin stop reader).map fun (m, r) => (.verb m, r)
  | count =>
    if stop = reader.position + 1 then
      (reader.peek?.bind Token.count?).map fun n => (.count n, reader)
    else none
  | text => some (.text (Reader.span reader.tokens reader.position stop), reader)
  | choice phrases =>
    (phrases.find? fun p => choiceEnd? reader.tokens reader.position p == some stop).map
      fun p => (.choice p, reader)

/-- Fill a slot with exactly the tokens up to `stop`, at least one. -/
def fill (world : World) (slot : Slot) (stop : Nat) (reader : Reader) :
    Option (Constituent × Reader) :=
  if stop ≤ reader.position then none
  else (slot.filler? world stop reader).map fun (found, reader) => (found, reader.advanceTo stop)

/-- Where a slot that settles its end by itself may end if it begins at `start`, best first. -/
def ends (world : World) (slot : Slot) (tokens : List Token) (start : Nat) : List Nat :=
  match tokens.drop start with
  | [] => []
  | first :: rest =>
    match slot with
    | count => if first.count?.isSome then [start + 1] else []
    | choice phrases => phrases.filterMap (choiceEnd? tokens start)
    | verb coin =>
      match world.lexicon.longest? (first :: rest) with
      | some (entry, length) =>
        match entry.value with
        | .verb _ => [start + length]
        | _ => []
      | none =>
        if coin && world.isCoinable [first] then
          let more := (rest.takeWhile (·.isOneOf prepositions)).length
          (List.range (more + 1)).reverse.map (start + 1 + ·)
        else []
    | _ => []

end Slot

end Worldsmith
