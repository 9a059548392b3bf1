import Worldsmith.Language.Prose
import Worldsmith.Error

/-!
# Templates

A template is a list of tokens in which markers stand for what an individual fills in. It is
written with each marker's words between brackets.
-/

namespace Worldsmith

/-- A text with slots. -/
structure Template where
  tokens : List Token
  deriving DecidableEq, Repr

namespace Template

/-- Cut the tokens in front of the first closing bracket off, if there is one. -/
def untilClose : List Token → Option (List Token × List Token)
  | [] => none
  | token :: rest =>
    if token.isMark "]" then some ([], rest)
    else (untilClose rest).map fun (slot, rest) => (token :: slot, rest)

theorem length_of_untilClose {tokens slot rest : List Token}
    (h : untilClose tokens = some (slot, rest)) : rest.length < tokens.length := by
  induction tokens generalizing slot rest with
  | nil => simp [untilClose] at h
  | cons token tokens ih =>
    rw [untilClose] at h
    split at h
    · simp only [Option.some.injEq, Prod.mk.injEq] at h
      simp [← h.2]
    · obtain ⟨⟨slot', rest'⟩, h', h''⟩ := Option.map_eq_some_iff.1 h
      simp only [Prod.mk.injEq] at h''
      have := ih h'
      simp only [← h''.2, List.length_cons]
      omega

/-- Turn each run of tokens between brackets into one marker, or fail at a bracket that stays
open. -/
def mark : List Token → Option (List Token)
  | [] => some []
  | token :: rest =>
    if token.isMark "[" then
      match h : untilClose rest with
      | none => none
      | some (slot, rest') =>
        have := length_of_untilClose h
        (mark rest').map (Token.marker (untokenize slot) :: ·)
    else (mark rest).map (token :: ·)
termination_by tokens => tokens.length
decreasing_by all_goals (simp only [List.length_cons]; omega)

/-- Read a template from the tokens it is written with. -/
def compile (tokens : List Token) : Except GrammarError Template :=
  match mark tokens with
  | some marked => .ok ⟨marked⟩
  | none => .error (.rejected (untokenize tokens) .unterminatedSlot)

/-- A token as it is typed, with markers as words in brackets. -/
def shown (token : Token) : Token :=
  if token.kind = .marker then .word token.render else token

/-- The template as it would be typed. -/
def source (template : Template) : String :=
  untokenize (template.tokens.map shown)

end Template

end Worldsmith
