import Worldsmith.Session.Execution

/-!
# Dialogues

A dialogue executes one line after another and shows what comes of each, until there are no more
lines or one of them says to quit. On a terminal it prompts for each line; otherwise it shows the
line itself.
-/

namespace Worldsmith

namespace Dialogue

/-- The prompt, which also marks lines that are shown. -/
def prompt : String := "> "

/-- Whether a line without white space at its ends says to quit. -/
def isFarewell (line : String) : Bool :=
  line = "quit" || line = "exit"

/-- The line as it is shown when it has not been typed. -/
def echo (prompting : Bool) (line : String) : String :=
  if prompting || line.isEmpty then "" else prompt ++ line ++ "\n"

/-- What is shown of the result of a line. -/
def resultText : Except Error Reply → String
  | .ok reply => if reply.text.isEmpty then "" else reply.text ++ "\n"
  | .error error => "error: " ++ error.message ++ "\n"

/-- Execute a line, and give what is shown, unless it says to quit. -/
def respond (prompting : Bool) (line : String) (session : Session) : Option (String × Session) :=
  let line := Text.trim line
  if isFarewell line then none
  else
    let (result, session) := (Turn.execute line).take session
    some (echo prompting line ++ resultText result, session)

/-- Execute lines, and give all that is shown. -/
def converse (prompting : Bool) : List String → Session → String × Session
  | [], session => (if prompting then prompt else "", session)
  | line :: rest, session =>
    let opening := if prompting then prompt else ""
    match respond prompting line session with
    | none => (opening, session)
    | some (shown, session) =>
      let (more, session) := converse prompting rest session
      (opening ++ shown ++ more, session)

/-- Execute the lines of a text, and give all that is shown. -/
def run (prompting : Bool) (input : String) (session : Session) : String × Session :=
  converse prompting (Text.lines input) session

end Dialogue

end Worldsmith
