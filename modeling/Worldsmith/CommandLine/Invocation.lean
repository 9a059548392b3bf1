import Worldsmith.Decimal.Natural
import Worldsmith.Session.Settings

/-!
# Invocations

What the arguments of the program ask for. Options may stand anywhere before `--`, after which
everything is a script. A long option takes its value after `=` or from the next argument; a short
one also from the rest of its own argument, and flags may go before it there. Nothing may be given
twice, and an argument that begins with a hyphen is no value. No option takes an empty value, but a
script may be empty.
-/

namespace Worldsmith

/-- An option that takes a value. -/
inductive ValueOption where
  | definitions
  | seed
  | maxSteps
  | trials
  | maxIndividuals
  deriving DecidableEq, Repr

/-- What has been asked for so far. -/
structure Invocation where
  definitions : Option String
  seed : Option Nat
  maxSteps : Option Nat
  trials : Option Nat
  maxIndividuals : Option Nat
  verbose : Bool
  /-- The file to read lines from, in place of the terminal. -/
  script : Option String
  deriving DecidableEq, Repr

namespace ValueOption

/-- The option that a long name stands for. -/
def ofLong? : String → Option ValueOption
  | "definitions" => some definitions
  | "seed" => some seed
  | "max-steps" => some maxSteps
  | "trials" => some trials
  | "max-individuals" => some maxIndividuals
  | _ => none

/-- The option that a letter stands for. -/
def ofShort? : Char → Option ValueOption
  | 'd' => some definitions
  | 's' => some seed
  | _ => none

end ValueOption

/-- Give something a value, unless it has one already. -/
def setOnce {α : Type} (old : Option α) (new : Option α) : Option (Option α) :=
  match old, new with
  | none, some value => some (some value)
  | _, _ => none

namespace Invocation

def empty : Invocation := ⟨none, none, none, none, none, false, none⟩

/-- A number as the value of an option. -/
def number? (text : String) : Option Nat :=
  boundedNumber? wordLimit text.toList

/-- A path as the value of an option. -/
def path? (text : String) : Option String :=
  if text.isEmpty then none else some text

/-- Give an option its value. -/
def set (i : Invocation) (option : ValueOption) (value : String) : Option Invocation :=
  match option with
  | .definitions => (setOnce i.definitions (path? value)).map ({ i with definitions := · })
  | .seed => (setOnce i.seed (number? value)).map ({ i with seed := · })
  | .maxSteps => (setOnce i.maxSteps (number? value)).map ({ i with maxSteps := · })
  | .trials => (setOnce i.trials (number? value)).map ({ i with trials := · })
  | .maxIndividuals =>
    (setOnce i.maxIndividuals (number? value)).map ({ i with maxIndividuals := · })

def setVerbose (i : Invocation) : Option Invocation :=
  if i.verbose then none else some { i with verbose := true }

def setScript (i : Invocation) (value : String) : Option Invocation :=
  (setOnce i.script (some value)).map ({ i with script := · })

end Invocation

/-- What an argument by itself looks like. -/
inductive Argument where
  /-- From here on everything is a script. -/
  | divider
  /-- A long option, possibly with its value. -/
  | long (name : String) (value : Option String)
  /-- Letters after one hyphen. -/
  | letters (letters : List Char)
  | plain (text : String)

/-- The text before and after the first `=`. -/
def splitAtEquals : List Char → List Char × Option (List Char)
  | [] => ([], none)
  | '=' :: rest => ([], some rest)
  | c :: rest =>
    let (name, value) := splitAtEquals rest
    (c :: name, value)

/-- Tell apart the sorts of argument. A single hyphen is a plain one. -/
def Argument.ofString (text : String) : Argument :=
  match text.toList with
  | ['-', '-'] => .divider
  | '-' :: '-' :: rest =>
    let (name, value) := splitAtEquals rest
    .long (String.ofList name) (value.map String.ofList)
  | '-' :: c :: rest => .letters (c :: rest)
  | _ => .plain text

namespace Invocation

/-- Read letters after a hyphen. The last of them may be an option whose value is the next
argument. -/
def readLetters (i : Invocation) : List Char → Option (Option ValueOption × Invocation)
  | [] => some (none, i)
  | c :: rest =>
    if c = 'v' then i.setVerbose.bind fun i => readLetters i rest
    else
      match ValueOption.ofShort? c, rest with
      | none, _ => none
      | some option, [] => some (some option, i)
      | some option, '=' :: value => (i.set option (String.ofList value)).map fun i => (none, i)
      | some option, value => (i.set option (String.ofList value)).map fun i => (none, i)

/-- Read a long option. -/
def readLong (i : Invocation) (name : String) (value : Option String) :
    Option (Option ValueOption × Invocation) :=
  match ValueOption.ofLong? name, value with
  | some option, some value => (i.set option value).map fun i => (none, i)
  | some option, none => some (some option, i)
  | none, none => if name = "verbose" then i.setVerbose.map fun i => (none, i) else none
  | none, some _ => none

/-- Read what is after the divider. -/
def readScripts (i : Invocation) : List String → Option Invocation
  | [] => some i
  | text :: rest => (i.setScript text).bind fun i => readScripts i rest

/-- Read arguments. `waiting` is an option whose value is still to come. -/
def read (i : Invocation) (waiting : Option ValueOption) : List String → Option Invocation
  | [] => if waiting.isSome then none else some i
  | text :: rest =>
    match Argument.ofString text, waiting with
    | .plain value, some option => (i.set option value).bind fun i => read i none rest
    | _, some _ => none
    | .plain value, none => (i.setScript value).bind fun i => read i none rest
    | .divider, none => i.readScripts rest
    | .letters letters, none =>
      (i.readLetters letters).bind fun (waiting, i) => read i waiting rest
    | .long name value, none =>
      (i.readLong name value).bind fun (waiting, i) => read i waiting rest

/-- What arguments ask for, if they can be understood. -/
def ofArguments? (arguments : List String) : Option Invocation :=
  read empty none arguments

/-- The settings that were asked for. -/
def settings (i : Invocation) : Settings :=
  ⟨i.definitions, i.seed, i.maxSteps.getD Settings.default.maxSteps,
    i.trials.getD Settings.default.trials,
    i.maxIndividuals.getD Settings.default.maxIndividuals⟩

end Invocation

end Worldsmith
