import Worldsmith.Sentence.Pattern

/-!
# The sentences that can be said

The first pattern that takes a whole input wins. So patterns with more words come before the
looser ones they overlap with, and plural readings of a bare noun before singular ones.
-/

namespace Worldsmith

namespace Pattern

open Requirement

def commands : List Pattern :=
  [of "imagine NP" (.command .imagine) [common 0],
   of "undo" (.command .undo) [],
   of "start over" (.command .startOver) [],
   of "save TEXT" (.command .save) [],
   of "test" (.command .test) [],
   of "decompile" (.command .restate) [],
   of "stats" (.command .stats) [],
   of "help" (.command .help) []]

def aboutKinds : List Pattern :=
  [of "NPLIST are kinds of NPS" (.declare .subkinds) [common 0],
   of "NP is a kind of NP" (.declare .subkind) [singular 0, common 0, common 1],
   of "the plural of NP is TEXT" (.declare .pluralForm) [common 0],
   of "the singular of NPS is TEXT" (.declare .singularForm) [common 0],
   of "PN is a NP" (.declare .membership) [common 1],
   of "NPS are described as \"TEMPLATE\"" (.declare .description) [common 0],
   of "NP is described as \"TEMPLATE\"" (.declare .description) [common 0],
   of "NPS are named \"TEMPLATE\"" (.declare .naming) [common 0],
   of "NP is named \"TEMPLATE\"" (.declare .naming) [common 0]]

def aboutAdjectives : List Pattern :=
  [of "AP is silent" (.declare .silence) [],
   of "PN is APLIST" (.declare .attributes) [notAlternatives 0],
   of "NPS are between N and N of APLIST" (.declare .choiceBetween) [plural 0, unmodified 0],
   of "NP is between N and N of APLIST" (.declare .choiceBetween) [unmodified 0],
   of "NPS can be up to N of APLIST" (.declare .choiceUpTo) [unmodified 0],
   of "NPS can be APLIST" (.declare .possibility) [common 0, unmodified 0],
   of "NPS are APLIST" (.declare .generality) [plural 0, common 0],
   of "NP is APLIST" (.declare .generality) [singular 0, common 0]]

def aboutVerbs : List Pattern :=
  [of "VERB is a way of VERB" (.declare .wayOf) [],
   of "VERB is FREQUENCY" (.declare .frequency) [],
   of "VERB implies VERB" (.declare .implication) [],
   of "VERB and VERB are mutually exclusive" (.declare .exclusion) [],
   of "NPS can VP each other" (.declare .symmetry) [common 0],
   of "NPS cannot VP each other" (.declare .antisymmetry) [common 0],
   of "NPS cannot VP themselves" (.declare .irreflexivity) [common 0],
   of "NPS must VP themselves" (.declare .reflexivity) [common 0],
   of "NPS MODAL VP exactly one NP" (.declare .relateExactlyOne) [common 1],
   of "NPS MODAL VP one NP" (.declare .relateExactlyOne) [common 1],
   of "NPS MODAL VP up to N NPS" (.declare .relateUpTo) [common 1],
   of "NPS MODAL VP at least N NPS" (.declare .relateAtLeast) [common 1],
   of "NPS MODAL VP between N and N NPS" (.declare .relateBetween) [common 1],
   of "NPS MODAL VP NPS" (.declare .relate) [common 0, common 1]]

def aboutProperties : List Pattern :=
  [of "NPS have a PROPERTY between N and N" (.declare .range) [common 0],
   of "NP has a PROPERTY between N and N" (.declare .range) [common 0],
   of "NPS have a PROPERTY from MENU" (.declare .menu) [common 0],
   of "NP has a PROPERTY from MENU" (.declare .menu) [common 0],
   of "NPS have a NP called their PART" (.declare .part) [common 0, common 1],
   of "NP has a NP called its PART" (.declare .part) [common 0, common 1],
   of "NPS have a PROPERTY" (.declare .freeText) [common 0],
   of "NP has a PROPERTY" (.declare .freeText) [common 0],
   of "NP's PROPERTY is VALUE" (.declare .propertyValue) [],
   of "NPS' PROPERTY is VALUE" (.declare .propertyValue) [common 0],
   of "NPS' PROPERTY are VALUE" (.declare .propertyValue) [common 0]]

def aboutExpectations : List Pattern :=
  [of "NPS should exist" (.declare .shouldExist) [common 0],
   of "NPS should not exist" (.declare .shouldNotExist) [common 0]]

/-- All patterns, in the order in which they are tried. -/
def library : List Pattern :=
  commands ++ aboutKinds ++ aboutAdjectives ++ aboutVerbs ++ aboutProperties ++ aboutExpectations

end Pattern

end Worldsmith
