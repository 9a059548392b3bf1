/-!
# Identifiers

Everything a world holds is numbered within its category, in the order of creation.
-/

namespace Worldsmith

/-- What an identifier stands for. -/
inductive Category where
  | kind
  | adjective
  | verb
  | property
  | part
  | individual
  deriving DecidableEq, Repr

/-- The letters in front of an identifier's number. -/
def Category.letters : Category → String
  | .kind => "k"
  | .adjective => "a"
  | .verb => "v"
  | .property => "p"
  | .part => "part"
  | .individual => "n"

/-- The number of something within its category. -/
structure Id (category : Category) where
  index : Nat
  deriving DecidableEq, Repr, Hashable, Inhabited

/-- An identifier as text, such as `k0`. -/
def Id.render {category : Category} (id : Id category) : String :=
  category.letters ++ id.index.repr

/-- All identifiers below a number. -/
def Id.upTo {category : Category} (count : Nat) : List (Id category) :=
  (List.range count).map Id.mk

end Worldsmith
