import Mathlib.Data.List.Chain
import Mathlib.Tactic.Common
import Worldsmith.Sentence.Reader
import Worldsmith.Sentence.Series

/-!
# What makes a series

A series is split from left to right, with the start of the current item, the conjunction met so
far and whether a comma stands right before. Seen as a whole, the tokens that are accepted are
those that begin and end with something else than a separator, in which no separator follows a
separator other than a comma, and which do not mix "and" with "or". Then the spans hold all tokens
that are no separators, each once and in order.

## Main definitions

* `IsSeries` — some tokens are a series.
* `IsSplit` — spans and a conjunction are what a range of tokens is split into.

## Main statements

* `splitSeries_exact` — just the series are split, and nothing of them is lost.
-/

namespace Worldsmith

variable {tokens rest : List Token} {start stop position i : ℕ} {known known' : Option Conjunction}
  {afterComma : Bool} {spans : List (ℕ × ℕ)} {mark : Option Separator} {c d : Conjunction}

/-- Whether a token or the lack of one may be in front of another. A separator comes only after an
item or a comma. -/
def MayPrecede (mark next : Option Separator) : Prop :=
  next = none ∨ mark = none ∨ mark = some .comma

/-- Whether a conjunction is among some tokens. -/
def IsSaid (tokens : List Token) (c : Conjunction) : Prop :=
  ∃ t ∈ tokens, separator? t = some (.conjunction c)

/-- Whether some tokens are a series. -/
structure IsSeries (tokens : List Token) : Prop where
  ne_nil : tokens ≠ []
  first : ∀ t ∈ tokens.head?, separator? t = none
  last : ∀ t ∈ tokens.getLast?, separator? t = none
  /-- A separator that follows a separator follows a comma. -/
  parted : tokens.IsChain fun t u => MayPrecede (separator? t) (separator? u)
  unmixed : ¬ (IsSaid tokens .and ∧ IsSaid tokens .or)

/-- Whether the token at a position is no separator. -/
def IsItemAt (tokens : List Token) (i : ℕ) : Prop :=
  ∃ t, tokens[i]? = some t ∧ separator? t = none

/-- Whether spans and a conjunction are what the tokens from `start` up to `stop` are split into. -/
structure IsSplit (tokens : List Token) (start stop : ℕ) (series : Series (ℕ × ℕ)) : Prop where
  inside : ∀ s ∈ series.items, start ≤ s.1 ∧ s.1 < s.2 ∧ s.2 ≤ stop
  ordered : series.items.Pairwise fun s t => s.2 < t.1
  free : ∀ s ∈ series.items, ∀ i, s.1 ≤ i → i < s.2 → IsItemAt tokens i
  covered : ∀ i, start ≤ i → i < stop → IsItemAt tokens i →
    ∃! s, s ∈ series.items ∧ s.1 ≤ i ∧ i < s.2
  said : ∀ c, IsSaid (Reader.span tokens start stop) c → series.conjunction = some c
  unsaid : (∀ c, ¬ IsSaid (Reader.span tokens start stop) c) → 1 < series.items.length →
    series.conjunction = some .and
  single : series.items.length = 1 → series.conjunction = none

/-! ## Conjunctions -/

/-- Whether a conjunction has been met or is among the tokens to come. -/
def IsJoined (known : Option Conjunction) (tokens : List Token) (c : Conjunction) : Prop :=
  known = some c ∨ IsSaid tokens c

theorem isSaid_cons {token : Token} : IsSaid (token :: rest) c ↔
    separator? token = some (.conjunction c) ∨ IsSaid rest c := by
  simp [IsSaid]

theorem isJoined_nil : IsJoined known [] c ↔ known = some c := by simp [IsJoined, IsSaid]

/-- What is no conjunction changes nothing. -/
theorem isJoined_cons_of_ne {token : Token}
    (other : ∀ d, separator? token ≠ some (.conjunction d)) :
    IsJoined known (token :: rest) c ↔ IsJoined known rest c := by
  simp [IsJoined, isSaid_cons, other c]

/-- After a separator the same conjunctions are met as before it, unless it is another conjunction
than the one met so far. -/
theorem joinedBy?_eq_some {token : Token} {separator : Separator}
    (parts : separator? token = some separator) (joined : joinedBy? known separator = some known') :
    IsJoined known (token :: rest) c ↔ IsJoined known' rest c := by
  cases separator with
  | comma =>
    cases joined
    exact isJoined_cons_of_ne (by simp [parts])
  | conjunction d =>
    have new : known' = some d ∧ (known = none ∨ known = some d) := by
      cases known with
      | none => simpa [joinedBy?] using joined.symm
      | some k =>
        rw [joinedBy?] at joined
        split_ifs at joined with same
        simpa [same] using joined.symm
    obtain ⟨rfl, rfl | rfl⟩ := new <;> simp [IsJoined, isSaid_cons, parts]

theorem joinedBy?_eq_none (rest : List Token) {token : Token} {separator : Separator}
    (parts : separator? token = some separator) (clash : joinedBy? known separator = none) :
    ∃ c d, c ≠ d ∧ IsJoined known (token :: rest) c ∧ IsJoined known (token :: rest) d := by
  cases separator with
  | comma => cases clash
  | conjunction d =>
    cases known with
    | none => cases clash
    | some k =>
      rw [joinedBy?] at clash
      split_ifs at clash with same
      exact ⟨k, d, same, .inl rfl, .inr (isSaid_cons.mpr (.inl parts))⟩

/-! ## What is accepted -/

/-- A series goes on to its end if each separator may stand where it does, an item comes last and
one conjunction is met at most. What is in front of the rest is known by its `mark`. -/
theorem isSome_splitFrom (begun : start < position ↔ mark = none)
    (comma : afterComma = true ↔ mark = some .comma) (le : start ≤ position) :
    (splitFrom start position known afterComma rest).isSome ↔
      (mark :: rest.map separator?).IsChain MayPrecede ∧
        (mark :: rest.map separator?).getLast (List.cons_ne_nil _ _) = none ∧
        ∀ c d, IsJoined known rest c → IsJoined known rest d → c = d := by
  induction rest generalizing start position known afterComma mark with
  | nil =>
    have single : ∀ c d, IsJoined known [] c → IsJoined known [] d → c = d := by
      simp only [isJoined_nil]
      rintro c d rfl same
      exact Option.some.inj same
    by_cases started : start < position
    · simpa [splitFrom, started, begun.mp started] using single
    · simp [splitFrom, started, mt begun.mpr started]
  | cons token rest ih =>
    cases parts : separator? token with
    | none =>
      simp only [splitFrom, parts]
      rw [@ih start (position + 1) known false none (by simp; omega) (by simp) (by omega)]
      simp [parts, MayPrecede, isJoined_cons_of_ne]
    | some separator =>
      have next : (mark :: (token :: rest).map separator?).IsChain MayPrecede ↔
          (start < position ∨ afterComma = true) ∧
            (some separator :: rest.map separator?).IsChain MayPrecede := by
        simp [parts, MayPrecede, begun, comma]
      cases joined : joinedBy? known separator with
      | none =>
        obtain ⟨c, d, apart, metc, metd⟩ := joinedBy?_eq_none rest parts joined
        simp only [splitFrom, parts, joined, Option.isSome_none, Bool.false_eq_true, false_iff]
        exact fun all => apart (all.2.2 c d metc metd)
      | some known' =>
        have further := @ih (position + 1) (position + 1) known' (separator == .comma)
          (some separator) (by simp) (by simp) le_rfl
        rw [next, and_assoc]
        simp only [joinedBy?_eq_some parts joined, List.map_cons, List.getLast_cons_cons, parts]
        rw [← further]
        simp only [splitFrom, parts, joined]
        split_ifs with started closed
        · simp [started]
        · simp [started, closed]
        · simp [started, closed]

/-- A conjunction that has been met is kept to the end. -/
theorem isJoined_of_splitFrom
    (split : splitFrom start position known afterComma rest = some (spans, known')) :
    known' = some c ↔ IsJoined known rest c := by
  induction rest generalizing start position known afterComma spans with
  | nil =>
    rw [splitFrom] at split
    split_ifs at split
    cases split
    exact isJoined_nil.symm
  | cons token rest ih =>
    cases parts : separator? token with
    | none =>
      simp only [splitFrom, parts] at split
      rw [ih split, isJoined_cons_of_ne (by simp [parts])]
    | some separator =>
      cases joined : joinedBy? known separator with
      | none => simp [splitFrom, parts, joined] at split
      | some next =>
        rw [joinedBy?_eq_some parts joined]
        simp only [splitFrom, parts, joined] at split
        split_ifs at split with started closed
        · obtain ⟨⟨spans', known'⟩, further, same⟩ := Option.map_eq_some_iff.mp split
          cases same
          exact ih further
        · exact ih split

/-! ## What is covered -/

/-- Whether spans hold just the positions from `start` on whose tokens are no separators. There is
a separator between any two of them. -/
structure SpansItems (tokens : List Token) (start : ℕ) (spans : List (ℕ × ℕ)) : Prop where
  inside : ∀ s ∈ spans, start ≤ s.1 ∧ s.1 < s.2
  ordered : spans.Pairwise fun s t => s.2 < t.1
  exact : ∀ i, start ≤ i → ((∃ s ∈ spans, s.1 ≤ i ∧ i < s.2) ↔ IsItemAt tokens i)

namespace SpansItems

/-- The last item goes on to the end. -/
theorem last (items : ∀ i, start ≤ i → i < position → IsItemAt tokens i) (lt : start < position)
    (ended : tokens.length ≤ position) : SpansItems tokens start [(start, position)] where
  inside := by simpa using lt
  ordered := List.pairwise_singleton _ _
  exact i le := by
    have within : IsItemAt tokens i → i < position := by
      rintro ⟨t, there, -⟩
      exact lt_of_lt_of_le (List.getElem?_eq_some_iff.mp there).1 ended
    simpa [le] using ⟨items i le, within⟩

/-- What comes in front of what is covered is no item. -/
theorem skip (covers : SpansItems tokens (start + 1) spans) (parts : ¬ IsItemAt tokens start) :
    SpansItems tokens start spans where
  inside s mem := ⟨by have := (covers.inside s mem).1; omega, (covers.inside s mem).2⟩
  ordered := covers.ordered
  exact i le := by
    rcases Nat.eq_or_lt_of_le le with rfl | after
    · simp only [parts, iff_false]
      rintro ⟨s, mem, before, -⟩
      have := (covers.inside s mem).1
      omega
    · exact covers.exact i after

/-- One more item comes first, and a separator after it. -/
theorem cons (covers : SpansItems tokens (position + 1) spans) (parts : ¬ IsItemAt tokens position)
    (items : ∀ i, start ≤ i → i < position → IsItemAt tokens i) (lt : start < position) :
    SpansItems tokens start ((start, position) :: spans) where
  inside := List.forall_mem_cons.mpr ⟨⟨le_rfl, lt⟩, fun s mem =>
    ⟨by have := (covers.inside s mem).1; omega, (covers.inside s mem).2⟩⟩
  ordered := List.pairwise_cons.mpr ⟨fun s mem => (covers.inside s mem).1, covers.ordered⟩
  exact i le := by
    simp only [List.mem_cons, exists_eq_or_imp]
    by_cases before : i < position
    · simp [le, before, items i le before]
    · simpa [before] using (covers.skip parts).exact i (by omega)

/-- No position is covered twice. -/
theorem eq_of_covered {s t : ℕ × ℕ} (covers : SpansItems tokens start spans) (hs : s ∈ spans)
    (ht : t ∈ spans) (inS : s.1 ≤ i ∧ i < s.2) (inT : t.1 ≤ i ∧ i < t.2) : s = t := by
  have inOrder : spans.Pairwise fun s t => s.1 ≤ i ∧ i < s.2 → t.1 ≤ i ∧ i < t.2 → s = t :=
    covers.ordered.imp fun _ _ _ => by omega
  have outOfOrder : spans.Pairwise fun s t => t.1 ≤ i ∧ i < t.2 → s.1 ≤ i ∧ i < s.2 → t = s :=
    covers.ordered.imp fun _ _ _ => by omega
  exact inOrder.forall_of_forall_of_flip (fun _ _ _ _ => rfl) outOfOrder hs ht inS inT

end SpansItems

/-- The spans hold just the positions without separators from the start of the current item on. -/
theorem spansItems_splitFrom (ahead : tokens.drop position = rest) (le : start ≤ position)
    (items : ∀ i, start ≤ i → i < position → IsItemAt tokens i)
    (split : splitFrom start position known afterComma rest = some (spans, known')) :
    SpansItems tokens start spans := by
  induction rest generalizing start position known afterComma spans with
  | nil =>
    rw [splitFrom] at split
    split_ifs at split with started
    cases split
    exact .last items started (List.drop_eq_nil_iff.mp ahead)
  | cons token rest ih =>
    have here : tokens[position]? = some token := by
      rw [← Nat.add_zero position, ← List.getElem?_drop, ahead]
      rfl
    have ahead' : tokens.drop (position + 1) = rest := by
      rw [← List.tail_drop, ahead, List.tail_cons]
    cases parts : separator? token with
    | none =>
      simp only [splitFrom, parts] at split
      refine ih ahead' (by omega) (fun i from_start before => ?_) split
      rcases Nat.eq_or_lt_of_le (Nat.le_of_lt_succ before) with rfl | before
      · exact ⟨token, here, parts⟩
      · exact items i from_start before
    | some separator =>
      have between : ¬ IsItemAt tokens position := by
        rintro ⟨t, there, no⟩
        rw [here, Option.some.injEq] at there
        simp [← there, parts] at no
      cases joined : joinedBy? known separator with
      | none => simp [splitFrom, parts, joined] at split
      | some next =>
        simp only [splitFrom, parts, joined] at split
        split_ifs at split with started closed
        · obtain ⟨⟨spans', _⟩, further, same⟩ := Option.map_eq_some_iff.mp split
          cases same
          exact (ih ahead' le_rfl (by omega) further).cons between items started
        · obtain rfl : start = position := by omega
          exact (ih ahead' le_rfl (by omega) split).skip between

/-! ## Series as a whole -/

/-- What comes first in a series is as if it came after a conjunction. -/
theorem isSeries_iff : IsSeries tokens ↔
    (some (.conjunction .and) :: tokens.map separator?).IsChain MayPrecede ∧
      (some (.conjunction .and) :: tokens.map separator?).getLast (List.cons_ne_nil _ _) = none ∧
      ∀ c d, IsJoined none tokens c → IsJoined none tokens d → c = d := by
  have unmixed : (∀ c d, IsJoined none tokens c → IsJoined none tokens d → c = d) ↔
      ¬ (IsSaid tokens .and ∧ IsSaid tokens .or) := by
    simp only [IsJoined, reduceCtorEq, false_or]
    constructor
    · rintro same ⟨and, or⟩
      cases same _ _ and or
    · rintro unmixed (_ | _) (_ | _) said said'
      all_goals first | rfl | exact absurd ⟨‹_›, ‹_›⟩ unmixed
  rw [unmixed]
  cases tokens with
  | nil => exact iff_of_false (fun series => series.ne_nil rfl) (by simp)
  | cons token rest =>
    have last : (separator? token :: rest.map separator?).getLast (List.cons_ne_nil _ _) =
        separator? ((token :: rest).getLast (List.cons_ne_nil _ _)) := by
      simp only [← List.map_cons, List.getLast_map]
    have parted : (separator? token :: rest.map separator?).IsChain MayPrecede ↔
        (token :: rest).IsChain fun t u => MayPrecede (separator? t) (separator? u) := by
      rw [← List.map_cons, List.isChain_map]
    rw [List.map_cons, List.isChain_cons_cons, List.getLast_cons_cons, last, parted]
    constructor
    · intro series
      exact ⟨⟨.inl (series.first token rfl), series.parted⟩,
        series.last _ (List.getLast?_eq_some_getLast _), series.unmixed⟩
    · rintro ⟨⟨first, parted⟩, last, unmixed⟩
      refine ⟨List.cons_ne_nil _ _, ?_, ?_, parted, unmixed⟩
      · rintro t ⟨⟩
        simpa [MayPrecede] using first
      · intro t is_last
        rw [List.getLast?_eq_some_getLast (List.cons_ne_nil _ _)] at is_last
        cases is_last
        exact last

theorem isItemAt_take : IsItemAt (tokens.take stop) i ↔ i < stop ∧ IsItemAt tokens i := by
  simp [IsItemAt, List.getElem?_take, and_assoc]

/-- A token of a range stands at a position of it. -/
theorem exists_of_isSaid_span (said : IsSaid (Reader.span tokens start stop) c) :
    ∃ i, start ≤ i ∧ ¬ IsItemAt (tokens.take stop) i ∧ i < (tokens.take stop).length := by
  obtain ⟨t, mem, parts⟩ := said
  obtain ⟨n, there⟩ := List.mem_iff_getElem?.mp mem
  rw [Reader.span, List.getElem?_drop] at there
  refine ⟨start + n, Nat.le_add_right _ _, ?_, (List.getElem?_eq_some_iff.mp there).1⟩
  rintro ⟨u, same, item⟩
  rw [there, Option.some.injEq] at same
  simp [← same, parts] at item

/-- What begins and ends with an item and has one span only has no separator. -/
theorem SpansItems.not_isSaid {span : ℕ × ℕ} (covers : SpansItems (tokens.take stop) start [span])
    (series : IsSeries (Reader.span tokens start stop)) :
    ¬ IsSaid (Reader.span tokens start stop) c := by
  intro said
  obtain ⟨i, le, parts, inside⟩ := exists_of_isSaid_span said
  have first : IsItemAt (tokens.take stop) start := by
    have head := series.first
    rw [Reader.span, List.head?_drop] at head
    have inside : start < (tokens.take stop).length := by omega
    exact ⟨_, List.getElem?_eq_getElem inside, head _ (List.getElem?_eq_getElem inside)⟩
  have last : IsItemAt (tokens.take stop) ((tokens.take stop).length - 1) := by
    have final := series.last
    rw [Reader.span, List.getLast?_drop, if_neg (by omega), List.getLast?_eq_getElem?] at final
    have inside : (tokens.take stop).length - 1 < (tokens.take stop).length := by omega
    exact ⟨_, List.getElem?_eq_getElem inside, final _ (List.getElem?_eq_getElem inside)⟩
  have fromStart := (covers.exact start le_rfl).mpr first
  have toEnd := (covers.exact _ (by omega)).mpr last
  simp only [List.mem_singleton, exists_eq_left] at fromStart toEnd
  exact parts ((covers.exact i le).mp ⟨span, List.mem_singleton_self _, by omega, by omega⟩)

/-- Just the series are split, whatever tokens stand around them, and nothing of them is lost. -/
theorem splitSeries_exact (tokens : List Token) (start stop : ℕ) :
    ((splitSeries start (Reader.span tokens start stop)).isSome ↔
      IsSeries (Reader.span tokens start stop)) ∧
    ∀ series, splitSeries start (Reader.span tokens start stop) = some series →
      IsSplit tokens start stop series := by
  have accepted : (splitFrom start start none false (Reader.span tokens start stop)).isSome ↔
      IsSeries (Reader.span tokens start stop) := by
    rw [isSeries_iff]
    exact isSome_splitFrom (by simp) (by simp) le_rfl
  refine ⟨by rw [splitSeries, Option.isSome_map, accepted], fun series split => ?_⟩
  obtain ⟨⟨spans, known⟩, found, rfl⟩ := Option.map_eq_some_iff.mp split
  have whole : IsSeries (Reader.span tokens start stop) := accepted.mp (by simp [found])
  have covers : SpansItems (tokens.take stop) start spans :=
    spansItems_splitFrom rfl le_rfl (by omega) found
  have met (c : Conjunction) : known = some c ↔ IsSaid (Reader.span tokens start stop) c := by
    simpa [IsJoined] using isJoined_of_splitFrom (c := c) found
  have items : ∀ s ∈ spans, ∀ i, s.1 ≤ i → i < s.2 → i < stop ∧ IsItemAt tokens i := by
    intro s mem i after before
    exact isItemAt_take.mp ((covers.exact i (le_trans (covers.inside s mem).1 after)).mp
      ⟨s, mem, after, before⟩)
  refine ⟨?_, covers.ordered, fun s mem i after before => (items s mem i after before).2, ?_, ?_,
    ?_, ?_⟩
  · intro s mem
    obtain ⟨le, lt⟩ := covers.inside s mem
    have := (items s mem (s.2 - 1) (by omega) (by omega)).1
    exact ⟨le, lt, by omega⟩
  · intro i le lt item
    obtain ⟨s, mem, here⟩ := (covers.exact i le).mpr (isItemAt_take.mpr ⟨lt, item⟩)
    exact ⟨s, ⟨mem, here⟩, fun t other => covers.eq_of_covered other.1 mem other.2 here⟩
  · intro c said
    simp [(met c).mpr said]
  · intro unsaid several
    have none : known = none := Option.eq_none_iff_forall_ne_some.mpr fun c is =>
      unsaid c ((met c).mp is)
    simpa [none] using several
  · intro one
    obtain ⟨span, rfl⟩ := List.length_eq_one_iff.mp one
    have none : known = none := Option.eq_none_iff_forall_ne_some.mpr fun c is =>
      covers.not_isSaid whole ((met c).mp is)
    simp [none]

namespace Litter

/-- "Cats are big, small or fuzzy", where the series begins at the third token. -/
def sentence : List Token :=
  [.word "Cats", .word "are", .word "big", ⟨.punctuation, ","⟩, .word "small", .word "or",
    .word "fuzzy"]

/-- The three adjectives, one of which holds. -/
def sizes : Series (ℕ × ℕ) := ⟨[(2, 3), (4, 5), (6, 7)], some .or⟩

end Litter

/-- A comma and an "or" part three adjectives. -/
theorem splitSeries_litter :
    splitSeries 2 (Reader.span Litter.sentence 2 7) = some Litter.sizes ∧
      IsSeries (Reader.span Litter.sentence 2 7) ∧ IsSplit Litter.sentence 2 7 Litter.sizes := by
  have split : splitSeries 2 (Reader.span Litter.sentence 2 7) = some Litter.sizes := by
    decide +kernel
  obtain ⟨accepted, exact⟩ := splitSeries_exact Litter.sentence 2 7
  exact ⟨split, accepted.mp (by simp [split]), exact _ split⟩

end Worldsmith
