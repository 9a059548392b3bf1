import Worldsmith.Language.Token
import Worldsmith.Text.Alphabetic
import Worldsmith.Error

/-!
# Cutting text into tokens

Letters group into words, digits into numbers, and every punctuation character is a token of its
own. White space parts tokens. Anything else is refused.
-/

namespace Worldsmith

/-- The ASCII punctuation characters. -/
def isPunctuation (c : Char) : Bool :=
  ('!' ≤ c && c ≤ '/') || (':' ≤ c && c ≤ '@') || ('[' ≤ c && c ≤ '\x60') || ('\x7b' ≤ c && c ≤ '~')

/-- The straight form of a curly quotation mark. -/
def straighten? : Char → Option Char
  | '\u2018' => some '\''
  | '\u2019' => some '\''
  | '\u201c' => some '"'
  | '\u201d' => some '"'
  | _ => none

/-- The punctuation character that `c` counts as. -/
def punctuation? (c : Char) : Option Char :=
  if isPunctuation c then some c else straighten? c

/-- Cut characters into tokens, or give the first character that fits none. -/
def scan : List Char → Except Char (List Token)
  | [] => .ok []
  | c :: rest =>
    if Text.isBlank c then scan rest
    else if Text.isAlphabetic c then
      have : (rest.dropWhile Text.isAlphabetic).length ≤ rest.length :=
        (List.dropWhile_sublist _).length_le
      (scan (rest.dropWhile Text.isAlphabetic)).map
        (⟨.word, String.ofList (c :: rest.takeWhile Text.isAlphabetic)⟩ :: ·)
    else if c.isDigit then
      have : (rest.dropWhile Char.isDigit).length ≤ rest.length :=
        (List.dropWhile_sublist _).length_le
      (scan (rest.dropWhile Char.isDigit)).map
        (⟨.number, String.ofList (c :: rest.takeWhile Char.isDigit)⟩ :: ·)
    else
      match punctuation? c with
      | some mark => (scan rest).map (⟨.punctuation, String.singleton mark⟩ :: ·)
      | none => .error c
termination_by cs => cs.length
decreasing_by all_goals (simp only [List.length_cons]; omega)

/-- Cut a text into tokens. -/
def tokenize (text : String) : Except GrammarError (List Token) :=
  (scan text.toList).mapError fun c => .unknownCharacter c text

end Worldsmith
