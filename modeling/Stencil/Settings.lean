import Stencil.Journal
import Stencil.Path
import Stencil.Text.Utf8
import Stencil.Value.Display
import Stencil.Yaml.Fault

/-!
# Settings

Settings name preset delimiters and may override the pairs of some kinds.  They
come from a map of values, which a settings file holds as YAML.  The elements of
a pair are taken in their plain form, whatever values they are.  Which value a file
holds is for a reader to say that is handed in.
-/

namespace Stencil

/-- Preset delimiters with pairs that override them. -/
structure Settings where
  /-- The name of the preset. -/
  presetName : Text
  /-- The delimiters of the preset. -/
  preset : Delimiters
  /-- The overriding pairs, in the order they were given. -/
  overrides : List (Kind × Text × Text)
deriving Repr

namespace Settings

/-- Why there are no settings. -/
inductive Fault where
  /-- No preset has the name. -/
  | unknownPreset (name : Text)
  /-- The overrides are no map. -/
  | overridesNotMap
  /-- An override is for no kind. -/
  | unknownKind (name : Text)
  /-- An override is no list of two elements. -/
  | notTwo (kind : Kind) (value : Value)
  /-- An override has an empty element. -/
  | emptyDelimiter (fault : Delimiters.Fault)
  /-- There is no settings file. -/
  | missingFile (path : Path)
  /-- The settings file is no UTF-8 text. -/
  | invalidEncoding
  /-- The settings file is no YAML. -/
  | invalidYaml (path : Path)
  /-- The settings file is YAML that has no value. -/
  | valueless (fault : Yaml.Fault)
  /-- A value cannot be shown. -/
  | unshowable
  /-- The settings file holds no map. -/
  | notMap (path : Path)
deriving Repr

/-- The wording of a fault. -/
def Fault.message : Fault → Text
  | .unknownPreset name =>
    Text.of "Unknown syntax preset '" ++ name ++ Text.of "'. Expected one of: " ++
      Text.join (Text.of ", ") (Text.sorted (Delimiters.presets.map Prod.fst))
  | .overridesNotMap => Text.of "'delimiters' must be a mapping"
  | .unknownKind name =>
    Text.of "Unknown delimiter kind '" ++ name ++ Text.of "'. Expected one of: " ++ Kind.listed
  | .notTwo kind value =>
    Text.of "Delimiter '" ++ kind.name ++ Text.of "' must be a list of two strings, got " ++
      value.quoted
  | .emptyDelimiter fault => fault.message
  | .missingFile path => Text.of "Config file not found: " ++ path.toText
  | .invalidEncoding => Text.of "Config file is not valid UTF-8"
  | .invalidYaml path => Text.of "Invalid YAML in " ++ path.toText
  | .valueless fault => fault.message
  | .unshowable => Yaml.exceedsLimit ++ Yaml.limitHint
  | .notMap path => Text.of "YAML must be a mapping: " ++ path.toText

/-- Whether the user is told about a fault as about a mistake of theirs. -/
def Fault.isReported : Fault → Bool
  | .invalidEncoding => false
  | .valueless _ => false
  | .unshowable => false
  | _ => true

/-- The kind that a key names. -/
def kind? : Value → Option Kind
  | .text name => Kind.ofName? name
  | _ => none

/-- The two elements of a sequence. -/
def two? : Value → Option (Value × Value)
  | .list [first, second] => some (first, second)
  | .tuple [first, second] => some (first, second)
  | _ => none

/-- What is made of a value by showing it, if it can be shown. -/
def showing (value : Value) (result : α) : Except Fault α :=
  if value.isShowable then .ok result else .error .unshowable

/-- The plain form of a value. -/
def shown (value : Value) : Except Fault Text :=
  showing value value.plain

/-- One override. -/
def ofEntry (key value : Value) : Except Fault (Kind × Text × Text) :=
  match kind? key with
  | none => do
    let fault ← showing key (.unknownKind key.plain)
    throw fault
  | some kind =>
    match two? value with
    | none => do
      let fault ← showing value (.notTwo kind value)
      throw fault
    | some (opening, closing) => do
      let opening ← shown opening
      let closing ← shown closing
      return (kind, opening, closing)

/-- The overrides of a map; the first fault is reported. -/
def ofOverrides : List (Value × Value) → Except Fault (List (Kind × Text × Text))
  | [] => .ok []
  | (key, value) :: rest => do
    let first ← ofEntry key value
    let others ← ofOverrides rest
    return first :: others

/-- The entries of the overrides; a value that holds nothing has none. -/
def overrideEntries (value : Value) : Except Fault (List (Value × Value)) :=
  if value.holdsNothing then .ok []
  else
    match value with
    | .map entries => .ok entries
    | _ => .error .overridesNotMap

/-- The settings of a map.  Keys that are not known count for nothing. -/
def ofMap (entries : List (Value × Value)) : Except Fault Settings := do
  let name ← shown ((Value.lookup (Text.of "syntax") entries).getD (.text (Text.of "default")))
  match Delimiters.preset? name with
  | none => .error (.unknownPreset name)
  | some preset =>
    let given := (Value.lookup (Text.of "delimiters") entries).getD .null
    let overrides ← ofOverrides (← overrideEntries given)
    return ⟨name, preset, overrides⟩

/-- The overrides as changes of delimiters. -/
def changes (settings : Settings) : List (Kind × Value) :=
  settings.overrides.map fun (kind, opening, closing) =>
    (kind, .tuple [.text opening, .text closing])

/-- The delimiters of settings, with what has to be said about them.  Nothing is
said about a preset as it is. -/
def delimiters (settings : Settings) : Except Fault (Delimiters × List Event) :=
  if settings.overrides.isEmpty then .ok (settings.preset, [])
  else
    match settings.preset.change settings.changes with
    | .ok delimiters => .ok (delimiters, delimiters.warnings)
    | .error fault => .error (.emptyDelimiter fault)

/-- A reader of settings files, which a library provides. -/
abbrev Reader := Text → Except Yaml.Fault Value

/-- The map that a settings file holds; a value that holds nothing is an empty
map. -/
def readMap (reader : Reader) (path : Path) (content : Option (List UInt8)) :
    Except Fault (List (Value × Value)) :=
  match content with
  | none => .error (.missingFile path)
  | some bytes =>
    match Utf8.decode bytes with
    | .error _ => .error .invalidEncoding
    | .ok text =>
      match reader text with
      | .error .malformed => .error (.invalidYaml path)
      | .error fault => .error (.valueless fault)
      | .ok value =>
        if value.holdsNothing then .ok []
        else
          match value with
          | .map entries => .ok entries
          | _ => .error (.notMap path)

/-- The delimiters of a settings file and the events of reading it. -/
def load
    (reader : Reader)
    (path : Path)
    (content : Option (List UInt8)) : Except Fault Delimiters × List Event :=
  match readMap reader path content with
  | .error fault => (.error fault, [])
  | .ok entries =>
    match ofMap entries with
    | .error fault => (.error fault, [])
    | .ok settings =>
      let event := Event.loaded path.toText settings.presetName settings.changes
      match settings.delimiters with
      | .ok (delimiters, events) => (.ok delimiters, event :: events)
      | .error fault => (.error fault, [event])

/-- The delimiters that an argument asks for: by default the braces, else the
preset of a name or the settings file of a path. -/
def resolve
    (reader : Reader)
    (file : Path → Option (List UInt8))
    (argument : Option Text) : Except Fault Delimiters × List Event :=
  match argument with
  | none => (.ok .braces, [])
  | some name =>
    if name.isEmpty then (.ok .braces, [])
    else
      match Delimiters.preset? name with
      | some preset => (.ok preset, [])
      | none => load reader (Path.of name) (file (Path.of name))

end Settings

end Stencil
