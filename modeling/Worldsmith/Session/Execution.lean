import Worldsmith.Session.Telling
import Worldsmith.World.Restatement

/-!
# Executing lines

A line is a declaration, a command, or says nothing. To undo a declaration is to start over and
execute all others again. If they fail, as they can once definition files have changed, nothing is
undone.
-/

namespace Worldsmith

namespace Reading

/-- A trait that a request may ask for. -/
def requestedTrait? (modifier : Modifier) : Option Trait :=
  match modifier.mention with
  | .known concept => concept.quality?.map fun quality => ⟨quality, modifier.positive⟩
  | .coined _ => none

/-- The kind and the traits that a phrase asks for. A request cannot use new words. -/
def requested? (reading : Reading) (phrase : NounPhrase) : Option (Id .kind × List Trait) :=
  match reading.coinages, phrase.head, phrase.modifiers.mapM requestedTrait? with
  | [], .known (.kind kind), some modifiers => some (kind, modifiers)
  | _, _, _ => none

/-- The number that a phrase asks for. A plural by itself asks for two. -/
def requestedCount (phrase : NounPhrase) : Nat :=
  phrase.count.getD (if phrase.number = some .plural then 2 else 1)

/-- What a sentence asks to imagine. -/
def request (reading : Reading) (line : String) (limit : Nat) : Except Error Request := do
  let phrase ← reading.noun 0
  match reading.requested? phrase with
  | none => throw (.grammar (.rejected line (.unknownWords (untokenize phrase.text))))
  | some (kind, modifiers) =>
    let count := requestedCount phrase
    if limit < count then throw (.grammar (.rejected line (.tooMany limit)))
    return ⟨kind, modifiers, count⟩

end Reading

/-- The sources of all sentences, one to a line. -/
def helpText : String :=
  "\n".intercalate (Pattern.library.map Pattern.source)

namespace Turn

/-- Carry out a command, given how to undo. -/
def obey (undo : Turn (Option String)) (command : Command) (line : String) (reading : Reading) :
    Turn Reply := do
  match command with
  | .imagine =>
    let request ← reading.request line (← get).shelf.settings.maxIndividuals
    return .model (← imagine request)
  | .undo =>
    match ← undo with
    | some undone => return .report ("undid \"" ++ undone ++ "\"")
    | none => return .report "nothing to undo"
  | .startOver =>
    modify Session.reset
    return .report "starting over"
  | .save => return .saved (← save (untokenize (← reading.text 0)))
  | .test => return .report (← test).text
  | .restate => return .report ("\n".intercalate (← get).world.restate)
  | .stats => return .report (← stats).text
  | .help => return .report helpText

/-- Execute a line, given how to undo. -/
def executeBy (undo : Turn (Option String)) (line : String) : Turn Reply := do
  let line := Text.trim line
  if isRemark line then return .accepted
  let reading ← (← get).world.understand line
  match reading.pattern.action with
  | .declare declaration =>
    declare line reading declaration
    return .accepted
  | .command command => obey undo command line reading

/-- Execute the lines of a transcript. None of them is a command to undo. -/
def replay (lines : List String) : Turn Unit :=
  lines.forM fun line => discard (executeBy (pure none) line)

/-- Undo the last declaration, and give it. -/
def undo : Turn (Option String) := do
  let before ← get
  match before.transcript.getLast? with
  | none => return none
  | some undone =>
    modify Session.reset
    try
      replay before.transcript.dropLast
    catch error =>
      modify fun session => { session with
        knowledge := before.knowledge
        transcript := before.transcript
        lastRequest := before.lastRequest }
      throw error
    return some undone

/-- Execute a line. -/
def execute (line : String) : Turn Reply :=
  executeBy undo line

/-- Execute the lines of a file, as far as they succeed. -/
def runFile (path : String) : Turn (List Reply) := do
  match (← get).shelf.storage.read path with
  | .error error => throw (.resource error)
  | .ok text => (Text.lines text).mapM execute

end Turn

end Worldsmith
