import Worldsmith.Language.Template
import Worldsmith.Proofs.Language.Prose

/-!
# Templates as they are written

A template is written with the words of each slot between brackets, and cut again it gives the
tokens that it was read from. For the brackets of a slot stay apart from whatever is beside them,
and between them stands joined prose, which is cut where it was joined. A slot ends at the first
closing bracket, and what was read into it has none.

## Main statements

* `Token.spells_shown_marker` — a slot is written so that it is cut into its brackets and words.
* `Template.tokenize_source` — a template is cut into the tokens that it was read from.
* `Template.compile_source` — a template that is written and read again is the same template.
-/

namespace Worldsmith

/-- The bracket that opens a slot. -/
def Token.openBracket : Token := ⟨.punctuation, "["⟩

/-- The bracket that closes a slot. -/
def Token.closeBracket : Token := ⟨.punctuation, "]"⟩

theorem Token.eq_of_isMark {token : Token} {text : String} (mark : token.isMark text = true) :
    token = ⟨.punctuation, text⟩ := by
  obtain ⟨kind, typed⟩ := token
  simpa [isMark] using mark

/-- A slot is written so that it is cut into its brackets and the words between them. -/
theorem Token.spells_shown_marker {slot : List Token}
    (typed : ∀ token ∈ slot, token.isTyped = true) :
    (Template.shown (.marker (untokenize slot))).Spells
      (.openBracket :: (slot ++ [.closeBracket])) := by
  have shown : Template.shown (.marker (untokenize slot)) =
      .word ("[" ++ untokenize slot ++ "]") := by
    simp [Template.shown, Token.marker, Token.render]
  have text : ("[" ++ untokenize slot ++ "]").toList =
      '[' :: ((untokenize slot).toList ++ [']']) := by simp
  rw [shown, Token.word]
  refine ⟨by simp, by simp [← String.toList_eq_nil_iff, text], fun same => ?_, by simp,
    fun rest _ => ?_⟩
  · have := congrArg String.toList same
    simp [text] at this
  · have opened : scan ('[' :: ((untokenize slot).toList ++ (']' :: rest))) =
        (scan ((untokenize slot).toList ++ (']' :: rest))).map (Token.openBracket :: ·) :=
      scan_mark (by decide)
    have between : scan ((untokenize slot).toList ++ (']' :: rest)) =
        (scan (']' :: rest)).map (slot ++ ·) :=
      (spelled_of_isTyped typed).scan_untokenizeFrom (breaks_of_isPunctuation (by decide))
    have closed : scan (']' :: rest) = (scan rest).map (Token.closeBracket :: ·) :=
      scan_mark (by decide)
    rw [text, List.cons_append, List.append_assoc, List.singleton_append, opened, between, closed]
    cases scan rest <;> simp [Except.map]

namespace Template

/-- What is in front of the first closing bracket is cut off together with the bracket. -/
theorem eq_of_untilClose {tokens slot rest : List Token}
    (cut : untilClose tokens = some (slot, rest)) :
    tokens = slot ++ (.closeBracket :: rest) := by
  induction tokens generalizing slot rest with
  | nil => cases cut
  | cons token tokens ih =>
    rw [untilClose] at cut
    split at cut
    · rename_i closes
      cases cut
      rw [List.nil_append, Token.eq_of_isMark closes]
      rfl
    · obtain ⟨⟨slot', rest'⟩, further, same⟩ := Option.map_eq_some_iff.mp cut
      cases same
      rw [ih further, List.cons_append]

/-- A typed token is shown as it is. -/
theorem shown_of_isTyped {token : Token} (typed : token.isTyped = true) : shown token = token := by
  rw [shown, if_neg (Token.spells_of_isTyped typed).kind_ne]

/-- The tokens of a template, as they are shown, spell those that the template was read from. -/
theorem spelled_of_mark {tokens marked : List Token} (made : mark tokens = some marked)
    (typed : ∀ token ∈ tokens, token.isTyped = true) : Spelled (marked.map shown) tokens := by
  fun_induction mark tokens generalizing marked with
  | case1 =>
    cases made
    exact .nil
  | case2 => cases made
  | case3 token rest opens slot rest' cut _ ih =>
    obtain ⟨marked, further, rfl⟩ := Option.map_eq_some_iff.mp made
    obtain rfl := eq_of_untilClose cut
    have inSlot : ∀ t ∈ slot, t.isTyped = true := fun t mem => typed t (by simp [mem])
    have after : ∀ t ∈ rest', t.isTyped = true := fun t mem => typed t (by simp [mem])
    have spelled := Spelled.cons (Token.spells_shown_marker inSlot) (ih further after)
    rw [Token.eq_of_isMark opens]
    simpa [Token.openBracket] using spelled
  | case4 token rest _ ih =>
    obtain ⟨marked, further, rfl⟩ := Option.map_eq_some_iff.mp made
    obtain ⟨first, others⟩ := List.forall_mem_cons.mp typed
    rw [List.map_cons, shown_of_isTyped first]
    exact .cons (Token.spells_of_isTyped first) (ih further others)

/-- A template, as it is written, is cut into the tokens that it was read from. -/
theorem tokenize_source {tokens : List Token} {template : Template}
    (typed : ∀ token ∈ tokens, token.isTyped = true) (compiled : compile tokens = .ok template) :
    tokenize template.source = .ok tokens := by
  unfold compile at compiled
  split at compiled
  · rename_i marked made
    cases compiled
    exact (spelled_of_mark made typed).tokenize_eq_ok
  · cases compiled

/-- A template that is written and read again is the same template. -/
theorem compile_source {text : String} {template : Template}
    (compiled : (tokenize text).bind compile = .ok template) :
    (tokenize template.source).bind compile = .ok template := by
  obtain ⟨tokens, cut, made⟩ := exists_of_bind_eq_ok compiled
  rw [tokenize_source (isTyped_of_tokenize cut) made]
  exact made

/-- A template with slots that are empty, that quote or that open another bracket, and with a stray
closing bracket. -/
def toyTemplate : Template :=
  ⟨[.marker "", .word "toy", ⟨.punctuation, "]"⟩, ⟨.punctuation, "\""⟩,
    .marker "[well-known \"color\" (it's 2", ⟨.punctuation, "'"⟩, .marker "s"]⟩

theorem compile_source_toyTemplate :
    (tokenize "[ ]toy ] \" [[ well - known \"color \"( it 's 2 ]'[s]").bind compile =
        .ok toyTemplate ∧
      (tokenize toyTemplate.source).bind compile = .ok toyTemplate := by
  have compiled : (tokenize "[ ]toy ] \" [[ well - known \"color \"( it 's 2 ]'[s]").bind compile =
      .ok toyTemplate := by cbv
  exact ⟨compiled, compile_source compiled⟩

end Template

end Worldsmith
