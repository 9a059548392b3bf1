import Worldsmith.Text.LowerCase
import Worldsmith.Text.Uppercase
import Worldsmith.Text.Lines

/-!
# Tokens

A token keeps its text as typed. Comparison is by folded text, so `Cats` and `cats` name the same
kind. A name is a list of tokens.
-/

namespace Worldsmith

/-- What a token is made of. A marker stands for a slot of a template; it is never typed by
itself. -/
inductive TokenKind where
  | word
  | number
  | punctuation
  | marker
  deriving DecidableEq, Repr

structure Token where
  kind : TokenKind
  text : String
  deriving DecidableEq, Repr

/-- A list of tokens that names something. -/
abbrev Name := List Token

namespace Token

def word (text : String) : Token := ⟨.word, text⟩

def marker (text : String) : Token := ⟨.marker, text⟩

/-- The folded text, which decides all comparisons. -/
def key (token : Token) : String :=
  String.ofList (Text.fold token.text)

/-- Whether the token's text is `literal`, whatever the case of either. -/
def reads (token : Token) (literal : String) : Bool :=
  Text.fold token.text == Text.fold literal

/-- Whether the token's text is one of some literals. -/
def isOneOf (token : Token) (literals : List String) : Bool :=
  literals.any token.reads

/-- Whether two tokens are the same except for case. -/
def same (a b : Token) : Bool :=
  a.kind == b.kind && Text.fold a.text == Text.fold b.text

/-- Whether the token is a certain punctuation character. -/
def isMark (token : Token) (text : String) : Bool :=
  token.kind == .punctuation && token.text == text

/-- Whether the token is a word that begins with a capital. -/
def isCapitalized (token : Token) : Bool :=
  token.kind == .word &&
    match token.text.toList with
    | [] => false
    | c :: _ => Text.isUppercase c

def isNumber (token : Token) : Bool :=
  token.kind == .number

/-- A token as it is written: a marker stands between brackets. -/
def render (token : Token) : String :=
  if token.kind = .marker then "[" ++ token.text ++ "]" else token.text

end Token

namespace Name

/-- A name made of the pieces of a text between white space. -/
def ofText (text : String) : Name :=
  (Text.splitBlank text).map Token.word

/-- Whether two names are the same except for case. -/
def same : Name → Name → Bool
  | [], [] => true
  | a :: as, b :: bs => a.same b && same as bs
  | _, _ => false

end Name

end Worldsmith
