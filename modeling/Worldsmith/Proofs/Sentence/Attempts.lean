import Worldsmith.Proofs.Sentence.Filling

/-!
# Matching with one reader

Sentences can be matched with one reader and one list of what has been found, shared by all that is
tried. An attempt moves the reader and coins as it goes. If it comes to nothing, it leaves the
reader wherever it had got to, with what it has coined: a noun phrase may turn out not to be one
after its head has been coined, and a series may break off after some of its items. Before anything
else is tried the reader goes back to a mark, and what was found last is taken out again. The
outcome is that of matching with a new reader for each attempt, and nothing is left behind where
there is no match.

## Main definitions

* `Attempt` — reading that moves one reader along.
* `Slot.attempt` — try to fill a slot.
* `Element.matchInPlace` — match elements with one reader.

## Main statements

* `Slot.agrees_attempt` — what fills a slot is what an attempt to fill it comes to, and an attempt
  that fails has at most read on.
* `Element.matchInPlace_eq` — matching with one reader comes to what matching comes to, and leaves
  all as it was where that is nothing.
-/

namespace Worldsmith

/-! ## Attempts -/

/-- Reading that moves one reader along. Where it fails the reader stays where it had got to. -/
abbrev Attempt (α : Type) := OptionT (StateM Reader) α

namespace Attempt

variable {α β : Type} {reader : Reader}

/-- What an attempt comes to, and where it leaves the reader. -/
def on (attempt : Attempt α) (reader : Reader) : Option α × Reader := attempt.run.run reader

/-- Reading whose last step is to coin, so that the reader is not moved where it fails. -/
def atOnce (read : Reader → Option (α × Reader)) : Attempt α := OptionT.mk fun reader =>
  match read reader with
  | some (item, after) => (some item, after)
  | none => (none, reader)

@[simp] theorem on_get : (get : Attempt Reader).on reader = (some reader, reader) := rfl

@[simp] theorem on_modify (move : Reader → Reader) :
    (modify move : Attempt PUnit).on reader = (some ⟨⟩, move reader) := rfl

@[simp] theorem on_liftOption (item : Option α) :
    (liftOption item : Attempt α).on reader = (item, reader) := by
  cases item <;> rfl

theorem on_atOnce (read : Reader → Option (α × Reader)) :
    (atOnce read).on reader =
      match read reader with
      | some (item, after) => (some item, after)
      | none => (none, reader) :=
  rfl

theorem on_bind (attempt : Attempt α) (next : α → Attempt β) :
    (attempt >>= next).on reader =
      match attempt.on reader with
      | (some item, after) => (next item).on after
      | (none, after) => (none, after) := by
  simp only [on, OptionT.run_bind, Option.elimM, StateT.run_bind]
  rcases StateT.run attempt.run reader with ⟨_ | item, after⟩ <;> rfl

end Attempt

/-- Try to read a noun phrase. What the head coins is left behind if the phrase fails after it. -/
def attemptNounPhrase (world : World) (bare : GrammaticalNumber) (stop : Nat) :
    Attempt NounPhrase := do
  let reader ← get
  let text := Reader.span reader.tokens reader.position stop
  let first ← liftOption reader.peek?
  let determined := determiner? first
  let number := determined.map Prod.fst
  let count := determined.map Prod.snd
  let (concepts, rest) :=
    knownConcepts world.lexicon [] (if determined.isSome then text.drop 1 else text)
  let (head, form, concepts) ← Attempt.atOnce fun reader =>
    (headOf? world reader stop (number.getD bare) concepts rest).map
      fun (head, form, concepts, after) => ((head, form, concepts), after)
  let modifiers ← liftOption (modifiersOf? concepts)
  let number ← liftOption (numberOf? form number)
  let proper := match head with
    | .known (.individual _) => true
    | _ => false
  if proper && (count.isSome || !modifiers.isEmpty) then failure
  else return ⟨head, modifiers, number, count, text⟩

/-- Try to read each span in turn. What the first ones coin is left behind if a later one fails. -/
def attemptSpans {α : Type} (attempt : Nat → Attempt α) : List (Nat × Nat) → Attempt (List α)
  | [] => return []
  | (start, stop) :: rest => do
    modify (·.advanceTo start)
    let item ← attempt stop
    let items ← attemptSpans attempt rest
    return item :: items

/-- Try to read a series. -/
def attemptSeries {α : Type} (attempt : Nat → Attempt α) (stop : Nat) : Attempt (Series α) := do
  let reader ← get
  let spans ← liftOption
    (splitSeries reader.position (Reader.span reader.tokens reader.position stop))
  let items ← attemptSpans attempt spans.items
  return ⟨items, spans.conjunction⟩

namespace Slot

/-- Try to read what fills a slot. -/
def attemptFiller (world : World) (slot : Slot) (stop : Nat) : Attempt Constituent :=
  match slot with
  | noun number => .noun <$> attemptNounPhrase world number stop
  | proper => .noun <$> Attempt.atOnce (readProperNoun world stop)
  | nouns => .nouns <$> attemptSeries (attemptNounPhrase world .plural) stop
  | adjective => .adjective <$> Attempt.atOnce (readAdjective world stop)
  | adjectives =>
    .adjectives <$> attemptSeries (fun stop => Attempt.atOnce (readAdjective world stop)) stop
  | verb coin => .verb <$> Attempt.atOnce (readVerb world coin stop)
  | count => Attempt.atOnce (count.filler? world stop)
  | text => Attempt.atOnce (text.filler? world stop)
  | choice phrases => Attempt.atOnce ((choice phrases).filler? world stop)

/-- Try to fill a slot with exactly the tokens up to `stop`, at least one. -/
def attempt (world : World) (slot : Slot) (stop : Nat) : Attempt Constituent := do
  let reader ← get
  if stop ≤ reader.position then failure
  else do
    let found ← slot.attemptFiller world stop
    modify (·.advanceTo stop)
    return found

end Slot

/-- How far the matching of a sentence has got. -/
structure Matching where
  reader : Reader
  found : List Constituent

/-- Go back to a mark with what has been found. -/
def Matching.backTo (matching : Matching) (mark : Mark) : Matching :=
  { matching with reader := matching.reader.backTo mark }

namespace Element

/-- Try stops one after another, each time from the same mark. -/
def tryStops (mark : Mark) (attempt : Nat → Matching → Bool × Matching) :
    List Nat → Matching → Bool × Matching
  | [], matching => (false, matching.backTo mark)
  | stop :: rest, matching =>
    match attempt stop (matching.backTo mark) with
    | (true, matched) => (true, matched)
    | (false, failed) => tryStops mark attempt rest failed

/-- Match elements from where the matching has got to up to the end of the tokens. -/
def matchInPlace (world : World) : List Element → Matching → Bool × Matching
  | [], matching => (matching.reader.atEnd, matching)
  | .word key :: rest, matching =>
    let reader := matching.reader
    if reader.peek?.any (wordMatches · key) then
      match matchInPlace world rest
          { matching with reader := reader.advanceTo (reader.position + 1) } with
      | (true, matched) => (true, matched)
      | (false, failed) => (false, failed.backTo reader.mark)
    else (false, matching)
  | .requirement r :: rest, matching =>
    if r.isMet matching.found matching.reader.coinages then matchInPlace world rest matching
    else (false, matching)
  | .slot s :: rest, matching =>
    let reader := matching.reader
    tryStops reader.mark (fun stop matching =>
      match (s.attempt world stop).on matching.reader with
      | (none, after) => (false, { matching with reader := after })
      | (some constituent, after) =>
        match matchInPlace world rest ⟨after, matching.found ++ [constituent]⟩ with
        | (true, matched) => (true, matched)
        | (false, failed) => (false, { failed with found := failed.found.dropLast }))
      (stops world s rest reader.tokens reader.position) matching

end Element

/-! ## What attempts come to -/

/-- Whether an attempt comes to what a reading does. An attempt that fails may have read on. -/
inductive Agrees {α : Type} (reader : Reader) : Option (α × Reader) → Option α × Reader → Prop
  | done (item : α) (after : Reader) (yields : reader.Yields [] after) :
    Agrees reader (some (item, after)) (some item, after)
  | failed (after : Reader) (yields : reader.Yields [] after) : Agrees reader none (none, after)

section Agreement

variable {α β : Type} {world : World} {reader between : Reader} {stop : Nat}

theorem Reader.Yields.on {mentions : List Mention} (yields : reader.Yields mentions between) :
    reader.Yields [] between :=
  ⟨yields.tokens, yields.coinages, by simp⟩

namespace Agrees

/-- What is tried after reading on is still tried after the beginning. -/
theorem after {result : Option (α × Reader)} {outcome : Option α × Reader}
    (yields : reader.Yields [] between) (agrees : Agrees between result outcome) :
    Agrees reader result outcome := by
  cases agrees with
  | done item after on => exact .done item after (yields.append on)
  | failed after on => exact .failed after (yields.append on)

theorem pure (item : α) :
    Agrees reader (some (item, reader)) ((Pure.pure item : Attempt α).on reader) :=
  .done item reader (.refl reader)

theorem bind {result : Option (α × Reader)} {attempt : Attempt α}
    {next : α × Reader → Option (β × Reader)} {attemptNext : α → Attempt β}
    (first : Agrees reader result (attempt.on reader))
    (rest : ∀ item after, Agrees after (next (item, after)) ((attemptNext item).on after)) :
    Agrees reader (result.bind next) ((attempt >>= attemptNext).on reader) := by
  rw [Attempt.on_bind]
  generalize attempt.on reader = outcome at first ⊢
  cases first with
  | done item after yields => exact (rest item after).after yields
  | failed after yields => exact .failed after yields

theorem map {result : Option (α × Reader)} {attempt : Attempt α} (f : α → β)
    (agrees : Agrees reader result (attempt.on reader)) :
    Agrees reader (result.map fun (item, after) => (f item, after))
      ((f <$> attempt).on reader) := by
  rw [map_eq_pure_bind, Option.map_eq_bind]
  exact agrees.bind fun item after => .pure (f item)

theorem liftOption {item : Option α} {next : α → Option (β × Reader)}
    {attemptNext : α → Attempt β}
    (rest : ∀ a, item = some a → Agrees reader (next a) ((attemptNext a).on reader)) :
    Agrees reader (item.bind next) ((liftOption item >>= attemptNext).on reader) := by
  rw [Attempt.on_bind, Attempt.on_liftOption]
  cases item with
  | some a => exact rest a rfl
  | none => exact .failed reader (.refl reader)

/-- What turns out not to fit in the end leaves the reader where it had got to. -/
theorem reject {item : α} {unfit : Bool} :
    Agrees reader (if unfit then none else some (item, reader))
      ((if unfit then failure else Pure.pure item : Attempt α).on reader) := by
  cases unfit with
  | true => exact .failed reader (.refl reader)
  | false => exact .pure item

theorem atOnce (read : Reader → Option (α × Reader))
    (yields : ∀ item after, read reader = some (item, after) → reader.Yields [] after) :
    Agrees reader (read reader) ((Attempt.atOnce read).on reader) := by
  rw [Attempt.on_atOnce]
  cases made : read reader with
  | some result => exact .done result.1 result.2 (yields _ _ made)
  | none => exact .failed reader (.refl reader)

end Agrees

theorem agrees_attemptNounPhrase (bare : GrammaticalNumber) (stop : Nat) (reader : Reader) :
    Agrees reader (readNounPhrase world bare stop reader)
      ((attemptNounPhrase world bare stop).on reader) := by
  unfold readNounPhrase attemptNounPhrase
  rw [Attempt.on_bind, Attempt.on_get]
  refine .liftOption fun first _ => ?_
  dsimp only
  have cut := undetermined_isInfix reader.tokens reader.position stop (determiner? first).isSome
  generalize (if (determiner? first).isSome then _ else _) = text at cut ⊢
  rw [Attempt.on_bind, Attempt.on_atOnce]
  cases headed : headOf? world reader stop (((determiner? first).map Prod.fst).getD bare)
      (knownConcepts world.lexicon [] text).1 (knownConcepts world.lexicon [] text).2 with
  | none => exact .failed reader (.refl reader)
  | some head =>
    rw [Option.map_some, Option.bind_eq_bind, Option.bind_some]
    refine .after (finds_of_headOf? cut headed).1.yields.on ?_
    exact .liftOption fun modifiers _ => .liftOption fun number _ => .reject

section Series

variable {read : Nat → Reader → Option (α × Reader)} {attempt : Nat → Attempt α}
  (step : ∀ stop reader, Agrees reader (read stop reader) ((attempt stop).on reader))
include step

theorem agrees_attemptSpans (spans : List (Nat × Nat)) :
    Agrees reader (readSpans read spans reader) ((attemptSpans attempt spans).on reader) := by
  induction spans generalizing reader with
  | nil => exact .pure []
  | cons span spans ih =>
    rw [readSpans, attemptSpans, Attempt.on_bind, Attempt.on_modify]
    refine .after ((Reader.Yields.refl reader).advanceTo span.1) ?_
    exact (step _ _).bind fun item after => ih.bind fun items last => .pure (item :: items)

theorem agrees_attemptSeries :
    Agrees reader (readSeries read stop reader) ((attemptSeries attempt stop).on reader) := by
  unfold readSeries attemptSeries
  rw [Attempt.on_bind, Attempt.on_get]
  refine .liftOption fun spans _ => ?_
  exact (agrees_attemptSpans step spans.items).bind fun items last =>
    .pure (Series.mk items spans.conjunction)

end Series

namespace Slot

theorem agrees_attemptFiller (slot : Slot) :
    Agrees reader (slot.filler? world stop reader) ((slot.attemptFiller world stop).on reader) := by
  have adjective (stop : Nat) (reader : Reader) : Agrees reader (readAdjective world stop reader)
      ((Attempt.atOnce (readAdjective world stop)).on reader) :=
    .atOnce _ fun _ _ made => (finds_of_readAdjective made).yields.on
  cases slot with
  | noun number => exact (agrees_attemptNounPhrase number stop reader).map Constituent.noun
  | proper =>
    exact (Agrees.atOnce (readProperNoun world stop) fun _ _ made =>
      (suits_of_readProperNoun made).2.yields.on).map Constituent.noun
  | nouns =>
    exact (agrees_attemptSeries (agrees_attemptNounPhrase .plural)).map Constituent.nouns
  | adjective => exact (adjective stop reader).map Constituent.adjective
  | adjectives => exact (agrees_attemptSeries adjective).map Constituent.adjectives
  | verb coin =>
    exact (Agrees.atOnce (readVerb world coin stop) fun _ _ made =>
      (finds_of_readVerb made).yields.on).map Constituent.verb
  | count => exact .atOnce (filler? world .count stop) fun _ _ made => (yields_of_filler? made).on
  | text => exact .atOnce (filler? world .text stop) fun _ _ made => (yields_of_filler? made).on
  | choice phrases =>
    exact .atOnce (filler? world (.choice phrases) stop) fun _ _ made =>
      (yields_of_filler? made).on

/-- What fills a slot is what an attempt to fill it comes to. -/
theorem agrees_attempt (world : World) (slot : Slot) (stop : Nat) (reader : Reader) :
    Agrees reader (slot.fill world stop reader) ((slot.attempt world stop).on reader) := by
  unfold fill attempt
  rw [Attempt.on_bind, Attempt.on_get]
  dsimp only
  split_ifs
  · exact .failed reader (.refl reader)
  · rw [Option.map_eq_bind]
    refine (agrees_attemptFiller slot).bind fun found after => ?_
    rw [Attempt.on_bind, Attempt.on_modify]
    exact .done found _ ((Reader.Yields.refl after).advanceTo stop)

end Slot

end Agreement

/-! ## Matching in place -/

namespace Matching

/-- What matching from some state comes to: all that was found, or nothing and the same state. -/
def outcome (start : Matching) : Option (List Constituent × Reader) → Bool × Matching
  | some (found, reader) => (true, ⟨reader, found⟩)
  | none => (false, start)

theorem backTo_mark {start : Matching} {after : Reader} (yields : start.reader.Yields [] after) :
    { start with reader := after }.backTo start.reader.mark = start := by
  rw [backTo, yields.backTo_mark]

end Matching

namespace Element

/-- Stops are tried from the same state, whatever is left behind by those that were tried before. -/
theorem tryStops_eq {start : Matching} {attempt : Nat → Matching → Bool × Matching}
    {find : Nat → Option (List Constituent × Reader)}
    (each : ∀ stop, ∃ failed : Matching, failed.backTo start.reader.mark = start ∧
      attempt stop start = failed.outcome (find stop))
    (stops : List Nat) {matching : Matching} (back : matching.backTo start.reader.mark = start) :
    tryStops start.reader.mark attempt stops matching = start.outcome (stops.findSome? find) := by
  induction stops generalizing matching with
  | nil => rw [tryStops, back, List.findSome?_nil, Matching.outcome]
  | cons stop rest ih =>
    obtain ⟨failed, failedBack, comes⟩ := each stop
    rw [tryStops, back, comes, List.findSome?_cons]
    cases find stop with
    | none => exact ih failedBack
    | some result => rfl

/-- Matching with one reader comes to what matching comes to. -/
theorem matchInPlace_eq (world : World) (elements : List Element) (start : Matching) :
    matchInPlace world elements start =
      start.outcome (matchAll world elements start.reader start.found) := by
  induction elements generalizing start with
  | nil =>
    rw [matchInPlace, matchAll]
    cases start.reader.atEnd <;> rfl
  | cons element rest ih =>
    cases element with
    | word key =>
      rw [matchInPlace, matchAll]
      split_ifs
      · rw [ih]
        cases matchAll world rest (start.reader.advanceTo (start.reader.position + 1))
            start.found with
        | none =>
          have back := Matching.backTo_mark
            ((Reader.Yields.refl start.reader).advanceTo (start.reader.position + 1))
          simp only [Matching.outcome, back]
        | some result => rfl
      · rfl
    | requirement r =>
      rw [matchInPlace, matchAll]
      split_ifs
      · exact ih start
      · rfl
    | slot s =>
      rw [matchInPlace, matchAll]
      refine tryStops_eq (fun stop => ?_) _ (Matching.backTo_mark (.refl start.reader))
      have agrees := s.agrees_attempt world stop start.reader
      generalize s.fill world stop start.reader = result at agrees ⊢
      generalize (s.attempt world stop).on start.reader = outcome at agrees ⊢
      cases agrees with
      | failed after yields => exact ⟨_, Matching.backTo_mark yields, rfl⟩
      | done constituent after yields =>
        refine ⟨_, Matching.backTo_mark yields, ?_⟩
        simp only [ih]
        cases matchAll world rest after (start.found ++ [constituent]) with
        | none => simp [Matching.outcome]
        | some result => rfl

end Element

end Worldsmith
