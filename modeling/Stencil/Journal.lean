import Stencil.Diagnostic

/-!
# The journal

Reading a template leaves a trace of events.  Warnings are meant for the user,
the others for debugging.
-/

namespace Stencil

/-- How important an event is. -/
inductive Level where
  /-- For debugging. -/
  | debug
  /-- For the user. -/
  | warning
deriving DecidableEq, Repr

/-- The label of a level. -/
def Level.label : Level → Text
  | .debug => Text.of "DEBUG"
  | .warning => Text.of "WARNING"

/-- An event. -/
inductive Event where
  /-- Opening delimiters of different kinds begin alike. -/
  | ambiguous (kinds : List (Kind × Kind))
  /-- A tag was opened. -/
  | opened (keyword : Text) (position : Position)
  /-- An include was registered. -/
  | registered (key : Text) (position : Position)
  /-- A pragma changed delimiters. -/
  | switched (position : Position) (changes : List (Kind × Value))
  /-- A template was read. -/
  | parsed (name : Text) (keys : Nat)
  /-- A template could not be read. -/
  | failed (name : Text) (diagnostic : Diagnostic)
  /-- A settings file was read. -/
  | loaded (path presetName : Text) (overrides : List (Kind × Value))
deriving Repr

namespace Event

/-- The level of an event. -/
def level : Event → Level
  | .ambiguous _ => .warning
  | _ => .debug

/-- Pairs of kinds as a list value. -/
def kindPairs (kinds : List (Kind × Kind)) : Value :=
  .list (kinds.map fun (left, right) => .tuple [.text left.name, .text right.name])

/-- Changes of delimiters as a map value. -/
def changeMap (changes : List (Kind × Value)) : Value :=
  .map (changes.map fun (kind, value) => (.text kind.name, value))

/-- The wording of an event. -/
def message : Event → Text
  | .ambiguous kinds =>
    Text.of "Syntax has ambiguous start delimiters " ++ (kindPairs kinds).quoted ++
      Text.of "; they are tried in the order " ++ Kind.listed
  | .opened keyword position =>
    Text.of "Opened block '" ++ keyword ++ Text.of "' at " ++ position.toText
  | .registered key position =>
    Text.of "Registered include '" ++ key ++ Text.of "' at " ++ position.toText
  | .switched position changes =>
    Text.of "Pragma at " ++ position.toText ++ Text.of " switched delimiters: " ++
      (changeMap changes).quoted
  | .parsed name keys =>
    Text.of "Parsed template '" ++ name ++ Text.of "' with " ++ Text.ofNat keys ++
      Text.of " include keys"
  | .failed name diagnostic =>
    Text.of "Failed to parse '" ++ name ++ Text.of "': " ++ diagnostic.toText
  | .loaded path presetName overrides =>
    Text.of "Loaded syntax config from " ++ path ++ Text.of ": preset=" ++ presetName ++
      Text.of ", overrides=" ++ (changeMap overrides).quoted

/-- The event as a line of the error stream. -/
def line (event : Event) : Text :=
  Text.of "[" ++ event.level.label ++ Text.of "] " ++ event.message ++ Text.of "\n"

end Event

/-- The event that new delimiters give rise to, if any. -/
def Delimiters.warnings (delimiters : Delimiters) : List Event :=
  if delimiters.ambiguities.isEmpty then [] else [.ambiguous delimiters.ambiguities]

end Stencil
