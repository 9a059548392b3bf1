import Worldsmith.Sentence.Phrase

/-!
# Slots

The kinds of gaps in a sentence. Some settle where they end by themselves; the others are told by
what follows them.
-/

namespace Worldsmith

inductive Slot where
  /-- A noun phrase; a bare new noun is read in the given number. -/
  | noun (number : GrammaticalNumber)
  /-- A proper noun, known or new. -/
  | proper
  | nouns
  /-- An adjective, possibly after "not". -/
  | adjective
  | adjectives
  /-- A verb; a new one only if it may be coined. -/
  | verb (coin : Bool)
  /-- Digits or a number word. -/
  | count
  /-- Any tokens, at least one. -/
  | text
  /-- One of some fixed phrases. -/
  | choice (phrases : List String)
  deriving DecidableEq, Repr

namespace Slot

/-- Whether a slot settles by itself where it ends. -/
def isSelfDelimiting : Slot → Bool
  | verb _ => true
  | count => true
  | choice _ => true
  | _ => false

def modals : List String := ["can", "must"]

def frequencies : List String := ["very rare", "very common", "rare", "common"]

/-- The slot that a placeholder of a sentence stands for. -/
def ofPlaceholder (text : String) : Slot :=
  match text with
  | "NP" => noun .singular
  | "NPS" => noun .plural
  | "PN" => proper
  | "NPLIST" => nouns
  | "AP" => adjective
  | "APLIST" => adjectives
  | "VP" => verb true
  | "VERB" => verb false
  | "N" => count
  | "MODAL" => choice modals
  | "FREQUENCY" => choice frequencies
  | _ => .text

end Slot

end Worldsmith
