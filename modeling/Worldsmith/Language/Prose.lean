import Worldsmith.Language.Token

/-!
# Joining tokens into prose

No space goes before punctuation or markers, none around a hyphen, none inside quotes or after an
opening bracket, and none between an apostrophe and the ending of a contraction. Everything else
is parted by exactly one space.
-/

namespace Worldsmith

/-- What has been written so far, as far as the next space depends on it. -/
structure ProseState where
  previous : Option Token
  /-- Whether a quotation mark is waiting for its partner. -/
  quoting : Bool

namespace ProseState

def start : ProseState := ⟨none, false⟩

/-- Whether nothing may be parted from `previous`. -/
def opens (previous : Token) (quoting : Bool) : Bool :=
  previous.isMark "(" || previous.isMark "[" || previous.isMark "-" ||
    (previous.isMark "\"" && quoting)

/-- Whether `token` ends a contraction that `previous` began. -/
def contracts (previous token : Token) : Bool :=
  previous.text == "'" && token.isOneOf ["s", "t", "ll", "re"]

/-- Whether `token` stays close to what is before it. -/
def clings (token : Token) (quoting : Bool) : Bool :=
  if token.isMark "\"" then quoting
  else (token.kind == .punctuation || token.kind == .marker) &&
    !(token.text == "(" || token.text == "[")

/-- Whether a space goes before `token`. -/
def spaceBefore (state : ProseState) (token : Token) : Bool :=
  match state.previous with
  | none => false
  | some previous =>
    !(opens previous state.quoting || contracts previous token || clings token state.quoting)

def after (state : ProseState) (token : Token) : ProseState :=
  ⟨some token, if token.isMark "\"" then !state.quoting else state.quoting⟩

end ProseState

/-- Join tokens after what `state` describes. Empty tokens leave no trace. -/
def untokenizeFrom (state : ProseState) : List Token → String
  | [] => ""
  | token :: rest =>
    if token.text.isEmpty then untokenizeFrom state rest
    else
      (if state.spaceBefore token then " " else "") ++ token.render ++
        untokenizeFrom (state.after token) rest

/-- Join tokens into prose. -/
def untokenize (tokens : List Token) : String :=
  untokenizeFrom .start tokens

end Worldsmith
