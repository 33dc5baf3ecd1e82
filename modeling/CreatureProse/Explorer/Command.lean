import CreatureProse.Failure
import CreatureProse.Form.Creature
import CreatureProse.Form.Reading
import CreatureProse.Outline.Display

/-
  This file defines the commands of the explorer, each of which
  shows how one grammar reads a text.

  Key definitions include:
    * `Evaluation`
    * `Command`
    * `Command.ofLine`
    * `Command.run`
    * `evaluate`
-/

namespace CreatureProse.Explorer

------------------------------------------------------------
-- Commands
------------------------------------------------------------

/- What a line leads to. -/
inductive Evaluation where
| output (text : String)
| quit
deriving DecidableEq, Repr, Inhabited

/- What a line asks for. -/
inductive Command where
| action (text : String)
| feature (text : String)
| movement (text : String)
| armorClass (text : String)
| hitPoints (text : String)
| typeLine (text : String)
| dice (text : String)
| help
| quit
| unknown (name : String)
deriving DecidableEq, Repr, Inhabited

namespace Command

/- The command with a name, for a text. -/
def ofName
    (name text : String) : Command :=
  match name with
  | ":action" => .action text
  | ":feature" => .feature text
  | ":movement" => .movement text
  | ":ac" => .armorClass text
  | ":hp" => .hitPoints text
  | ":type" => .typeLine text
  | ":dice" => .dice text
  | ":help" => .help
  | ":quit" => .quit
  | ":q" => .quit
  | _ => .unknown name

/-
  The command of a line. A line that does not begin with a colon
  is the text of an action.
-/
def ofLine (line : String) : Command :=
  let line := Text.trim line
  if Text.startsWith ":" line then
    match Text.splitOnce? Text.isBlank line with
    | some (name, text) => ofName name (Text.trim text)
    | none => ofName line ""
  else
    .action line

------------------------------------------------------------
-- Explanations
------------------------------------------------------------

/- Text in one of the colours of a terminal. -/
def colored
    (color text : String) : String :=
  "\x1b[" ++ color ++ "m" ++ text ++ "\x1b[0m"

/- What is said of text that is not understood. -/
def noMatch : String :=
  colored "33" "no match"

/- Whether a character is one of the ASCII punctuation marks. -/
def isPunctuation (c : Char) : Bool :=
  '!' ≤ c && c ≤ '~' && !c.isAlphanum

/- Whether left-over text says nothing. -/
def isResidue (rest : String) : Bool :=
  rest.toList.all fun c => Text.isBlank c || isPunctuation c

/- How a text is read as an action, and what is left over. -/
def explainAction
    (config : Config)
    (text : String) : String :=
  match Action.ofText? config.vocabulary text with
  | none => noMatch
  | some (found, rest) =>
    if isResidue rest then
      display found
    else
      display found ++ "\n" ++ colored "33" "unparsed:" ++ " "
        ++ rest

/- How a text is read as the name and description of a feature. -/
def explainFeature
    (config : Config)
    (text : String) : Except Failure String :=
  match Text.splitOnce? (· == '|') text with
  | none =>
    .error (.other ":feature expects NAME | DESCRIPTION")
  | some (name, description) =>
    let reading := FeatureReading.ofFeature config
      { name := Text.trim name
        description := Text.trim description }
    .ok (if reading.isEmpty then noMatch else display reading)

/- The commands and what they do. -/
def helpText : String :=
  "\n".intercalate [
    ":action TEXT                 Parse an attack or saving throw action",
    ":feature NAME | DESCRIPTION  Parse a feature's usage limit, spellcasting, and annotations",
    ":movement TEXT               Parse a speed line, e.g. 30 ft., fly 60 ft.",
    ":ac TEXT                     Parse an armor class, e.g. 15 (natural armor)",
    ":hp TEXT                     Parse hit points, e.g. 7 (2d6)",
    ":type TEXT                   Parse a type line, e.g. Medium humanoid (goblinoid), neutral evil",
    ":dice TEXT                   Find dice expressions in TEXT",
    ":help                        Show this help",
    ":quit                        Exit"]

/- Carry out a command. -/
def run
    (config : Config) : Command → Except Failure Evaluation
| .action text => .ok (.output (explainAction config text))
| .feature text => (explainFeature config text).map .output
| .movement text => .ok (.output (display (Movement.ofString text)))
| .armorClass text =>
  .ok (.output (display (ArmorClass.ofString? text)))
| .hitPoints text =>
  .ok (.output (display (HitPoints.ofString? text)))
| .typeLine text =>
  .ok (.output (display (TypeLine.ofString? text)))
| .dice text =>
  .ok (.output (display (DiceExpression.allIn (Prose.folded text))))
| .help => .ok (.output helpText)
| .quit => .ok .quit
| .unknown name => .error (.unknownCommand name)

end Command

/- Carry out the command of a line. -/
def evaluate
    (config : Config)
    (line : String) : Except Failure Evaluation :=
  (Command.ofLine line).run config

end CreatureProse.Explorer
