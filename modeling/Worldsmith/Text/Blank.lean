import Worldsmith.Text.Ranges

/-!
# White space

The characters that Unicode calls white space. They part words and are otherwise ignored.
-/

namespace Worldsmith.Text

/-- The code points with the property White_Space. -/
def blank : Ranges :=
  [(0x9, 0xd), (0x20, 0x20), (0x85, 0x85), (0xa0, 0xa0), (0x1680, 0x1680), (0x2000, 0x200a),
   (0x2028, 0x2029), (0x202f, 0x202f), (0x205f, 0x205f), (0x3000, 0x3000)]

/-- Whether `c` only parts words. -/
def isBlank (c : Char) : Bool :=
  blank.has c.toNat

end Worldsmith.Text
