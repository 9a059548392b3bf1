import Mathlib.Data.List.Infix
import Worldsmith.Proofs.Language.Lexicon
import Worldsmith.Proofs.Lists
import Worldsmith.Sentence.Matching

/-!
# How reading goes on

Reading finds one thing after another. Each is known by some name, has been coined before, or is
coined now, and nothing else happens to a reader but that it goes to another position. So to read on
is to leave the tokens alone and to add to what has been coined. The mark of a reader leads back to
it from wherever it has gone, and a mention of something that is still to be made points into the
coinages from then on.

## Main definitions

* `Coinage.Fits` — a coinage that a sentence can make.
* `Reader.Finds` — what a reader can find, and what becomes of it.
* `Reader.ReadsOn` — a reader finds some things, one after another.
* `Mention.IsMade` — what is mentioned is known or among the coinages.
* `Reader.Yields` — reading on from one reader leads to another and to some mentions.

## Main statements

* `Reader.ReadsOn.yields` — to read on is to add to what has been coined.
* `Reader.Yields.backTo_mark` — to go back to the mark of a reader is to have not read on.
-/

namespace Worldsmith

/-! ## Finding -/

/-- Whether a concept is known by some name. -/
def World.Knows (world : World) (concept : Concept) : Prop :=
  ∃ name entry, world.find? name = some entry ∧ entry.value = concept

/-- Whether a sentence can coin something: it names it, in one number or the other, by plain words
that stand for nothing yet. -/
inductive Coinage.Fits (world : World) (tokens : List Token) : Coinage → Prop
  | kind (span : Name) (number : GrammaticalNumber) (atStart : Bool) (singular plural : Name)
      (cut : span <:+: tokens) (coinable : world.isCoinable span = true)
      (forms : bothNumbers? (if atStart then span.lowerFirst else span) number =
        some (singular, plural))
      (free : world.find? singular = none ∧ world.find? plural = none) :
      Fits world tokens (.kind singular plural)
  | adjective (name : Name) (cut : name <:+: tokens) (coinable : world.isCoinable name = true) :
      Fits world tokens (.adjective name)
  | verb (first : Token) (rest : List Token) (cut : first :: rest <:+: tokens)
      (coinable : world.isCoinable [first] = true)
      (particles : rest.all (·.isOneOf prepositions) = true) :
      Fits world tokens (.verb ((first :: rest).map fun t => .word t.key))
  | individual (name : Name) (cut : name <:+: tokens) (coinable : world.isCoinable name = true)
      (capital : name.head?.any Token.isCapitalized = true) :
      Fits world tokens (.individual name)

/-- What a reader can find, and what becomes of it. A coinage is of the sort that is looked for,
whether it has been there before or not. -/
inductive Reader.Finds (world : World) (sort : Coinage → Bool) (reader : Reader) :
    Mention → Reader → Prop
  | known (concept : Concept) (knows : world.Knows concept) :
    Finds world sort reader (.known concept) reader
  | coined (index : Nat) (sorted : reader.coinages[index]?.any sort = true) :
    Finds world sort reader (.coined index) reader
  | new (coinage : Coinage) (sorted : sort coinage = true)
      (fits : coinage.Fits world reader.tokens) :
    Finds world sort reader (.coined reader.coinages.length)
      { reader with coinages := reader.coinages ++ [coinage] }

/-- Whether a reader finds some things one after another and becomes another reader by that. -/
inductive Reader.ReadsOn (world : World) : Reader → List Mention → Reader → Prop
  | stay (reader : Reader) : ReadsOn world reader [] reader
  | find {before between after : Reader} {sort : Coinage → Bool} {mention : Mention}
      {mentions : List Mention} (found : before.Finds world sort mention between)
      (rest : ReadsOn world between mentions after) :
    ReadsOn world before (mention :: mentions) after
  | go {before after : Reader} {mentions : List Mention} (position : Nat)
      (rest : ReadsOn world (before.advanceTo position) mentions after) :
    ReadsOn world before mentions after

section Finding

variable {world : World} {first last reader reader' : Reader} {sort : Coinage → Bool}
  {mention : Mention} {mentions mentions' : List Mention}

theorem World.knows_of_find? {name : Name} {entry : Entry Concept}
    (known : world.find? name = some entry) : world.Knows entry.value :=
  ⟨name, entry, known, rfl⟩

theorem World.knows_of_longest? {tokens : List Token} {entry : Entry Concept} {length : Nat}
    (longest : world.lexicon.longest? tokens = some (entry, length)) : world.Knows entry.value :=
  knows_of_find? (Lexicon.longest?_eq_some_iff.mp longest).bound

namespace Reader.ReadsOn

theorem single (found : reader.Finds world sort mention reader') :
    reader.ReadsOn world [mention] reader' :=
  .find found (.stay reader')

theorem append (before : first.ReadsOn world mentions reader)
    (after : reader.ReadsOn world mentions' last) :
    first.ReadsOn world (mentions ++ mentions') last := by
  induction before with
  | stay => exact after
  | find found _ ih => exact .find found (ih after)
  | go position _ ih => exact .go position (ih after)

/-- Finding what is known leaves a reader as it is. -/
theorem of_known (reader : Reader)
    (known : ∀ mention ∈ mentions, ∃ concept, mention = .known concept ∧ world.Knows concept) :
    reader.ReadsOn world mentions reader := by
  induction mentions with
  | nil => exact .stay reader
  | cons mention rest ih =>
    obtain ⟨⟨concept, rfl, knows⟩, others⟩ := List.forall_mem_cons.mp known
    have found : reader.Finds world Coinage.isKind (.known concept) reader := .known concept knows
    exact .find found (ih others)

end Reader.ReadsOn

end Finding

/-! ## What has been made -/

/-- Whether what is mentioned is known or among the coinages. -/
def Mention.IsMade (coinages : List Coinage) : Mention → Prop
  | .known _ => True
  | .coined index => index < coinages.length

theorem Mention.IsMade.mono {coinages more : List Coinage} {mention : Mention}
    (made : mention.IsMade coinages) (grows : coinages <+: more) : mention.IsMade more := by
  cases mention with
  | known => trivial
  | coined index => exact Nat.lt_of_lt_of_le made grows.length_le

/-- Whether reading on from one reader leads to another and to some mentions. -/
structure Reader.Yields (before : Reader) (mentions : List Mention) (after : Reader) : Prop where
  tokens : after.tokens = before.tokens
  coinages : before.coinages <+: after.coinages
  made : ∀ mention ∈ mentions, mention.IsMade after.coinages

namespace Reader

variable {world : World} {reader reader' : Reader} {sort : Coinage → Bool} {mention : Mention}
  {mentions mentions' : List Mention}

namespace Yields

theorem refl (reader : Reader) : reader.Yields [] reader :=
  ⟨rfl, List.prefix_rfl, List.forall_mem_nil _⟩

/-- The mentions of what is read first stay made. -/
theorem append {first last : Reader} (before : first.Yields mentions reader)
    (after : reader.Yields mentions' last) : first.Yields (mentions ++ mentions') last where
  tokens := after.tokens.trans before.tokens
  coinages := before.coinages.trans after.coinages
  made := List.forall_mem_append.mpr
    ⟨fun mention mem => (before.made mention mem).mono after.coinages, after.made⟩

theorem advanceTo (yields : reader.Yields mentions reader') (position : Nat) :
    reader.Yields mentions (reader'.advanceTo position) :=
  ⟨yields.tokens, yields.coinages, yields.made⟩

theorem of_advanceTo {position : Nat}
    (yields : (reader.advanceTo position).Yields mentions reader') :
    reader.Yields mentions reader' :=
  ⟨yields.tokens, yields.coinages, yields.made⟩

/-- To go back to the mark of a reader is to have not read on. -/
theorem backTo_mark (yields : reader.Yields mentions reader') :
    reader'.backTo reader.mark = reader := by
  have coinages := List.prefix_iff_eq_take.mp yields.coinages
  rw [Reader.backTo, Reader.mark, yields.tokens, ← coinages]

end Yields

/-- What is found is made by then. -/
theorem Finds.yields (found : reader.Finds world sort mention reader') :
    reader.Yields [mention] reader' := by
  cases found with
  | known concept => exact ⟨rfl, List.prefix_rfl, by simp [Mention.IsMade]⟩
  | coined index sorted =>
    obtain ⟨coinage, there, -⟩ := (Option.any_eq_true _ _).mp sorted
    obtain ⟨inside, -⟩ := List.getElem?_eq_some_iff.mp there
    exact ⟨rfl, List.prefix_rfl, by simpa [Mention.IsMade] using inside⟩
  | new coinage => exact ⟨rfl, List.prefix_append _ _, by simp [Mention.IsMade]⟩

/-- To read on is to leave the tokens alone and to add to what has been coined. -/
theorem ReadsOn.yields (readsOn : reader.ReadsOn world mentions reader') :
    reader.Yields mentions reader' := by
  induction readsOn with
  | stay reader => exact .refl reader
  | find found _ ih => exact found.yields.append ih
  | go position _ ih => exact ih.of_advanceTo

end Reader

end Worldsmith
