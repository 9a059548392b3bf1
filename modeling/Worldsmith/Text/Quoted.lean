import Worldsmith.Text.Visible

/-!
# A character between quotes

How a message shows a single character: as it is if it has an appearance of its own, otherwise
by a short escape or by its code point in hexadecimal digits.
-/

namespace Worldsmith.Text

/-- The body of a quoted character. -/
def escapeChar (c : Char) : String :=
  match c with
  | '\x00' => "\\0"
  | '\t' => "\\t"
  | '\n' => "\\n"
  | '\r' => "\\r"
  | '\\' => "\\\\"
  | '\'' => "\\'"
  | _ =>
    if isVisible c then String.singleton c
    else "\\u\x7b" ++ String.ofList (Nat.toDigits 16 c.toNat) ++ "\x7d"

/-- A character between single quotes. -/
def quoteChar (c : Char) : String :=
  "'" ++ escapeChar c ++ "'"

end Worldsmith.Text
