import Worldsmith.Proofs.Sentence.Filling

/-!
# Matching by trying every stop

To match a pattern, only those stops of a slot are tried at which what follows the slot could go
on. No other stop leads anywhere: whatever follows, a match of it begins with a word that stands
there, with a slot that can end somewhere, or at the end. So to try every stop, nearest first, finds
the same match.

## Main definitions

* `Element.matchEvery` — match elements by trying every stop.
* `Element.goesOn` — whether elements could go on at a position.

## Main statements

* `Element.goesOn_of_matchEvery` — elements that match at a position could go on there.
* `Element.stops_filter` — the stops that are tried are those at which what follows could go on.
* `Element.matchAll_eq_matchEvery` — both ways to match find the same.
-/

namespace Worldsmith

/-- Where a slot may end, whatever follows it: where it settles by itself, or anywhere ahead. -/
def Slot.everyStop (world : World) (slot : Slot) (tokens : List Token) (start : Nat) : List Nat :=
  if slot.isSelfDelimiting then slot.ends world tokens start
  else (List.range (tokens.length + 1)).filter (start < ·)

namespace Element

/-- Match elements from the reader's position to the end of the tokens, trying every stop. -/
def matchEvery (world : World) :
    List Element → Reader → List Constituent → Option (List Constituent × Reader)
  | [], reader, found => if reader.atEnd then some (found, reader) else none
  | .word key :: rest, reader, found =>
    if reader.peek?.any (wordMatches · key) then
      matchEvery world rest (reader.advanceTo (reader.position + 1)) found
    else none
  | .requirement r :: rest, reader, found =>
    if r.isMet found reader.coinages then matchEvery world rest reader found else none
  | .slot s :: rest, reader, found =>
    (s.everyStop world reader.tokens reader.position).findSome? fun stop =>
      match s.fill world stop reader with
      | none => none
      | some (constituent, reader) => matchEvery world rest reader (found ++ [constituent])

/-- Whether elements could go on at a position, as far as the first that takes tokens tells. -/
def goesOn (world : World) (tokens : List Token) (position : Nat) : List Element → Bool
  | [] => tokens.length ≤ position
  | .requirement _ :: rest => goesOn world tokens position rest
  | .word key :: _ => tokens[position]?.any (wordMatches · key)
  | .slot s :: _ => !s.isSelfDelimiting || !(s.ends world tokens position).isEmpty

variable {world : World} {reader reader' : Reader}

/-- Elements that match at a position could go on there. -/
theorem goesOn_of_matchEvery {elements : List Element} {found : List Constituent}
    (matched : (matchEvery world elements reader found).isSome) :
    goesOn world reader.tokens reader.position elements = true := by
  obtain ⟨result, made⟩ := Option.isSome_iff_exists.mp matched
  induction elements generalizing found with
  | nil =>
    rw [matchEvery] at made
    split_ifs at made with atEnd
    exact atEnd
  | cons element rest ih =>
    cases element with
    | word key =>
      rw [matchEvery] at made
      split_ifs at made with stands
      exact stands
    | requirement r =>
      rw [matchEvery] at made
      split_ifs at made
      exact ih (Option.isSome_of_eq_some made) made
    | slot s =>
      rw [matchEvery] at made
      obtain ⟨stop, among, -⟩ := List.exists_of_findSome?_eq_some made
      cases delimits : s.isSelfDelimiting with
      | false => simp [goesOn, delimits]
      | true =>
        rw [Slot.everyStop, if_pos delimits] at among
        simpa [goesOn, delimits] using List.ne_nil_of_mem among

/-- A position before the end is ahead, or not, whether or not the end is counted as a position. -/
theorem filter_range_succ {ahead stands : Nat → Bool} {length : Nat}
    (last : stands length = false) :
    (((List.range length).filter ahead).filter stands).filter ahead =
      ((List.range (length + 1)).filter ahead).filter stands := by
  have nothing : ((([length] : List Nat).filter ahead).filter stands) = [] := by simp [last]
  rw [List.range_succ, List.filter_append, List.filter_append, nothing, List.append_nil]
  refine List.filter_eq_self.mpr fun position mem => ?_
  exact List.of_mem_filter (List.mem_of_mem_filter mem)

/-- The stops ahead that are tried are those at which what follows could go on. -/
theorem stops_filter {s : Slot} (told : s.isSelfDelimiting = false) (rest : List Element)
    (tokens : List Token) (start : Nat) :
    (stops world s rest tokens start).filter (start < ·) =
      (s.everyStop world tokens start).filter (goesOn world tokens · rest) := by
  rw [stops, Slot.everyStop, told, if_neg Bool.false_ne_true, if_neg Bool.false_ne_true]
  induction rest with
  | nil =>
    have before : ((List.range tokens.length).filter (start < ·)).filter
        (goesOn world tokens · []) = [] := by
      simp only [goesOn, List.filter_eq_nil_iff, List.mem_filter, List.mem_range,
        decide_eq_true_eq, not_le]
      exact fun position mem => mem.1
    have last : ([tokens.length].filter (start < ·)).filter (goesOn world tokens · []) =
        [tokens.length].filter (start < ·) :=
      List.filter_eq_self.mpr fun position mem => by
        simp [goesOn, List.mem_singleton.mp (List.mem_of_mem_filter mem)]
    rw [List.range_succ, List.filter_append, List.filter_append, before, last]
    rfl
  | cons element rest ih =>
    cases element with
    | requirement r => exact ih
    | word key => exact filter_range_succ (by simp)
    | slot next =>
      cases delimits : next.isSelfDelimiting with
      | false => simp [nextTaking?, goesOn, delimits, List.filter_filter]
      | true =>
        have nowhere : next.ends world tokens tokens.length = [] := by
          rw [Slot.ends, List.drop_length]
        simp only [nextTaking?, goesOn, delimits, if_pos, Bool.not_true, Bool.false_or]
        exact filter_range_succ (by simp [nowhere])

/-- Whatever is found at a stop, it is found among the stops that are tried as well. -/
theorem findSome?_stops {α : Type} {s : Slot} {rest : List Element} {tokens : List Token}
    {start : Nat} {f : Nat → Option α} (ahead : ∀ stop, (f stop).isSome → start < stop)
    (goes : ∀ stop ≤ tokens.length, (f stop).isSome → goesOn world tokens stop rest) :
    (stops world s rest tokens start).findSome? f =
      (s.everyStop world tokens start).findSome? f := by
  cases delimits : s.isSelfDelimiting with
  | true => rw [stops, Slot.everyStop, if_pos delimits, if_pos delimits]
  | false =>
    have within : ∀ stop ∈ s.everyStop world tokens start, stop ≤ tokens.length := by
      intro stop mem
      rw [Slot.everyStop, delimits, if_neg Bool.false_ne_true] at mem
      exact Nat.le_of_lt_succ (List.mem_range.mp (List.mem_of_mem_filter mem))
    rw [← findSome?_filter (p := (start < ·)) fun stop _ found => by simpa using ahead stop found,
      stops_filter delimits,
      findSome?_filter fun stop mem found => goes stop (within stop mem) found]

/-- Trying only the stops at which what follows could go on finds the match that trying every stop
finds, with the same constituents and coinages, or none if there is none. -/
theorem matchAll_eq_matchEvery (world : World) (elements : List Element) (reader : Reader)
    (found : List Constituent) :
    matchAll world elements reader found = matchEvery world elements reader found := by
  induction elements generalizing reader found with
  | nil => rfl
  | cons element rest ih =>
    cases element with
    | word key => rw [matchAll, matchEvery, ih]
    | requirement r => rw [matchAll, matchEvery, ih]
    | slot s =>
      rw [matchAll, matchEvery]
      simp only [ih]
      refine findSome?_stops (fun stop some => ?_) (fun stop within some => ?_)
      all_goals
        split at some
        · cases some
        rename_i constituent later filled
        obtain ⟨yields, ahead, position⟩ := Slot.yields_of_fill filled
      · exact ahead
      · have goes := goesOn_of_matchEvery some
        rwa [yields.tokens, position, Nat.min_eq_left within] at goes

end Element

end Worldsmith
