/-!
# Comparison without regard to ASCII case

Values of properties are compared this way; letters outside ASCII count as they are.
-/

namespace Worldsmith.Text

/-- Whether two texts differ at most in the case of ASCII letters. -/
def sameAscii (a b : String) : Bool :=
  a.toList.map Char.toLower == b.toList.map Char.toLower

end Worldsmith.Text
