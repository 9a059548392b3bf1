import Worldsmith.Sentence.Matching
import Worldsmith.Session.Storage

/-!
# Knowledge

What statements have built: a world, and the nouns whose definition files have been looked for. It
is built of lines that are understood, with menus and definition files that are read from a shelf.
-/

namespace Worldsmith

structure Knowledge where
  world : World
  /-- The nouns whose definition files have been looked for. -/
  loaded : List String

/-- A place to read definition files and menus from. -/
structure Shelf where
  settings : Settings
  storage : Storage

/-- Whether a token may end a line without meaning anything. -/
def Token.isStop (token : Token) : Bool :=
  token.isMark "." || token.isMark "!" || token.isMark "?"

/-- Tokens without the stops at the end. -/
def dropStops (tokens : List Token) : List Token :=
  (tokens.reverse.dropWhile Token.isStop).reverse

/-- Understand a line. -/
def World.understand (world : World) (line : String) : Except Error Reading :=
  (tokenize line >>= fun tokens => Pattern.understand world (dropStops tokens)).mapError
    Error.grammar

/-- Whether a line without white space at its ends says nothing. -/
def isRemark (line : String) : Bool :=
  line.isEmpty || line.startsWith "#"

/-- The lines of a text that say something. -/
def statementsIn (text : String) : List String :=
  ((Text.lines text).map Text.trim).filter fun line => !isRemark line

namespace Knowledge

def empty : Knowledge := ⟨.empty, []⟩

/-- More nouns than all files together can introduce, each being cut from a line in one number or
the other, and so more than the files that can be loaded within each other. -/
def enoughLoads (storage : Storage) : Nat :=
  2 * storage.size * (storage.size + 1) + 2

end Knowledge

end Worldsmith
