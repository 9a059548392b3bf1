import Worldsmith.Proofs.Sentence.Filling

/-!
# What sentences coin

The names that a sentence coins are cut from it, up to number and case, and stand for nothing yet.

## Main definitions

* `Reader.IsFit` — all that a reader has coined is so.

## Main statements

* `World.exists_of_understand` — all that is coined by a sentence that is understood fits it, and
  what it quotes is part of it.
-/

namespace Worldsmith

/-- Whether all that a reader of some tokens has coined fits them. -/
structure Reader.IsFit (world : World) (tokens : List Token) (reader : Reader) : Prop where
  reads : reader.tokens = tokens
  fits : ∀ coinage ∈ reader.coinages, coinage.Fits world tokens

variable {world : World} {tokens : List Token} {reader reader' : Reader} {sort : Coinage → Bool}
  {mention : Mention} {mentions : List Mention}

theorem Reader.IsFit.ofTokens (world : World) (tokens : List Token) :
    (Reader.ofTokens tokens).IsFit world tokens :=
  ⟨rfl, List.forall_mem_nil _⟩

theorem Reader.Finds.isFit (found : reader.Finds world sort mention reader')
    (fit : reader.IsFit world tokens) : reader'.IsFit world tokens := by
  cases found with
  | known | coined => exact fit
  | new coinage sorted fits =>
    refine ⟨fit.reads, List.forall_mem_append.mpr ⟨fit.fits, fun other mem => ?_⟩⟩
    rw [List.mem_singleton.mp mem, ← fit.reads]
    exact fits

theorem Reader.ReadsOn.isFit (readsOn : reader.ReadsOn world mentions reader')
    (fit : reader.IsFit world tokens) : reader'.IsFit world tokens := by
  induction readsOn with
  | stay => exact fit
  | find found _ ih => exact ih (found.isFit fit)
  | go _ _ ih => exact ih ⟨fit.reads, fit.fits⟩

/-- What comes of the tokens of a line that is understood. -/
theorem World.exists_of_understand {line : String} {reading : Reading}
    (understood : world.understand line = .ok reading) : ∃ tokens, tokenize line = .ok tokens ∧
      (∀ coinage ∈ reading.coinages, coinage.Fits world (dropStops tokens)) ∧
      ∀ name, .text name ∈ reading.constituents → name <:+: dropStops tokens := by
  obtain ⟨tokens, reader, cut, coined, fills⟩ := fills_of_understand understood
  exact ⟨tokens, cut, coined ▸ (fills.readsOn.isFit (.ofTokens world _)).fits, fills.quotes⟩

end Worldsmith
