import Worldsmith.Sentence.Filling
import Worldsmith.Sentence.Library

/-!
# Matching sentences

A pattern is matched from left to right. A slot before a word tries to end at each place where the
word stands, nearest first; a slot before one that settles its own ends, wherever that one could
begin; the last slot takes all that is left. The first way through the pattern counts.
-/

namespace Worldsmith

namespace Requirement

/-- Whether a requirement is met by what has been found. -/
def isMet (requirement : Requirement) (found : List Constituent) (coinages : List Coinage) : Bool :=
  let noun (n : Nat) : Option NounPhrase := (found.filterMap Constituent.noun?)[n]?
  match requirement with
  | singular n => (noun n).any (·.agrees .singular)
  | plural n => (noun n).any (·.agrees .plural)
  | common n => (noun n).any fun phrase =>
    match phrase.head with
    | .known (.kind _) => true
    | .known _ => false
    | .coined index => coinages[index]?.any Coinage.isKind
  | unmodified n => (noun n).any (·.modifiers.isEmpty)
  | notAlternatives n =>
    ((found.filterMap Constituent.adjectives?)[n]?).any fun series =>
      series.conjunction != some .or

end Requirement

namespace Element

/-- The next element that takes tokens. -/
def nextTaking? : List Element → Option Element
  | [] => none
  | .requirement _ :: rest => nextTaking? rest
  | element :: _ => some element

/-- Where a slot at `start` may end, given what follows it. -/
def stops (world : World) (s : Slot) (rest : List Element) (tokens : List Token)
    (start : Nat) : List Nat :=
  if s.isSelfDelimiting then s.ends world tokens start
  else
    let inner := (List.range tokens.length).filter (start < ·)
    match nextTaking? rest with
    | none => [tokens.length]
    | some (.word key) => inner.filter fun p => tokens[p]?.any (wordMatches · key)
    | some (.slot next) =>
      if next.isSelfDelimiting then inner.filter fun p => !(next.ends world tokens p).isEmpty
      else (List.range (tokens.length + 1)).filter (start < ·)
    | some (.requirement _) => (List.range (tokens.length + 1)).filter (start < ·)

/-- Match elements from the reader's position to the end of the tokens. -/
def matchAll (world : World) :
    List Element → Reader → List Constituent → Option (List Constituent × Reader)
  | [], reader, found => if reader.atEnd then some (found, reader) else none
  | .word key :: rest, reader, found =>
    if reader.peek?.any (wordMatches · key) then
      matchAll world rest (reader.advanceTo (reader.position + 1)) found
    else none
  | .requirement r :: rest, reader, found =>
    if r.isMet found reader.coinages then matchAll world rest reader found else none
  | .slot s :: rest, reader, found =>
    (stops world s rest reader.tokens reader.position).findSome? fun stop =>
      match s.fill world stop reader with
      | none => none
      | some (constituent, reader) => matchAll world rest reader (found ++ [constituent])

end Element

/-- A sentence that was understood. -/
structure Reading where
  pattern : Pattern
  /-- The place of the pattern in the library. -/
  index : Nat
  constituents : List Constituent
  coinages : List Coinage

namespace Reading

/-- One of the constituents of a sort, or a complaint that it is missing. -/
def nth {α : Type} (reading : Reading) (sort : String) (select : Constituent → Option α)
    (n : Nat) : Except Error α :=
  match (reading.constituents.filterMap select)[n]? with
  | some a => .ok a
  | none => .error (.misuse (.missingConstituent sort n))

def noun (reading : Reading) : Nat → Except Error NounPhrase :=
  reading.nth "noun phrase" Constituent.noun?

def nouns (reading : Reading) : Nat → Except Error (Series NounPhrase) :=
  reading.nth "noun list" Constituent.nouns?

def adjective (reading : Reading) : Nat → Except Error Modifier :=
  reading.nth "adjective" Constituent.adjective?

def adjectives (reading : Reading) : Nat → Except Error (Series Modifier) :=
  reading.nth "adjective list" Constituent.adjectives?

def verb (reading : Reading) : Nat → Except Error Mention :=
  reading.nth "verb" Constituent.verb?

def count (reading : Reading) : Nat → Except Error Nat :=
  reading.nth "count" Constituent.count?

def text (reading : Reading) : Nat → Except Error (List Token) :=
  reading.nth "text" Constituent.text?

def choice (reading : Reading) : Nat → Except Error String :=
  reading.nth "choice" Constituent.choice?

/-- The number of noun phrases. -/
def nounCount (reading : Reading) : Nat :=
  (reading.constituents.filterMap Constituent.noun?).length

end Reading

namespace Pattern

/-- Read tokens as a pattern says. -/
def read? (world : World) (tokens : List Token) (pattern : Pattern) (index : Nat) :
    Option Reading :=
  (Element.matchAll world pattern.elements (.ofTokens tokens) []).map fun (found, reader) =>
    ⟨pattern, index, found, reader.coinages⟩

/-- The sources of all patterns that share a keyword with some tokens, each once. -/
def similar (tokens : List Token) : List String :=
  let keys := tokens.map Token.key
  ((library.filter fun pattern => pattern.keywords.any keys.contains).map Pattern.source).eraseDups

/-- Read tokens by the first pattern that takes them all. -/
def understand (world : World) (tokens : List Token) : Except GrammarError Reading :=
  match library.zipIdx.findSome? fun (pattern, index) => pattern.read? world tokens index with
  | some reading => .ok reading
  | none => .error (.noMatch (untokenize tokens) (similar tokens))

end Pattern

end Worldsmith
