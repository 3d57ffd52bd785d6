import Stencil.Document
import Stencil.Text.Utf8

/-!
# Templates

Reading a template gives its tree and its includes, or one diagnostic.  Either
way it is known which delimiters were active at the end, and what was written
to the journal.
-/

namespace Stencil

/-- The tree and the includes of a template. -/
structure Template where
  /-- The tree. -/
  root : Node
  /-- The included templates. -/
  includes : Includes
deriving Repr

namespace Template

/-- How templates are read. -/
structure Options where
  /-- The operators between operands. -/
  operators : OperatorTable := .standard
  /-- How deeply documents, parentheses and prefix operators may be nested. -/
  limit : Int := 100
  /-- The order in which the kinds of regions are recognised. -/
  order : List Kind := Kind.all

/-- What reading a template comes to. -/
structure Outcome where
  /-- The template, or why there is none. -/
  result : Except Halt Template
  /-- The delimiters that were active at the end. -/
  delimiters : Delimiters
  /-- The journal. -/
  journal : List Event

/-- Enough open rules for a source: no rule opens another one at the same place
more than three times in a row without reading a code point. -/
def callsFor (source : Text) : Nat :=
  4 * source.length + 16

/-- The grammar that a source is read with; a turn of a loop reads at least one
code point. -/
def grammarFor (options : Options) (source : Text) : Grammar :=
  ⟨options.operators, options.limit, options.order, source.length + 1⟩

/-- Reads a whole source. -/
def whole (grammar : Grammar) (calls : Nat) (name : Text) : Document.Rule Template := do
  let root ← Document.document grammar calls 0
  let state ← get
  if state.cursor.isAtEnd then
    Document.Rule.log (.parsed name state.includes.length)
    return ⟨root, state.includes⟩
  else
    Document.Rule.fail (.unmatchedTerminator state.delimiters.block state.tagKeyword?)
      state.cursor.position

/-- Reads a source text under a name, starting with some delimiters. -/
def read (options : Options) (name : Text) (delimiters : Delimiters) (source : Text) : Outcome :=
  let state : Document.State := ⟨Cursor.start name source, delimiters, [], []⟩
  match whole (grammarFor options source) (callsFor source) name state with
  | .ok template state => ⟨.ok template, state.delimiters, state.journal.reverse⟩
  | .error halt state => ⟨.error halt, state.delimiters, state.journal.reverse⟩

/-- The text of a source of bytes, or a diagnostic at the first byte that is not
UTF-8.  The column of that diagnostic counts bytes. -/
def decode (name : Text) (bytes : List UInt8) : Except Diagnostic Text :=
  match Utf8.decode bytes with
  | .ok text => .ok text
  | .error offset =>
    let before := bytes.take offset
    let line := before.count 0x0A + 1
    let column := (before.reverse.takeWhile (· ≠ 0x0A)).length + 1
    .error ⟨.invalidEncoding, ⟨name, line, column, offset⟩⟩

/-- A source as it is handed in. -/
inductive Source where
  /-- Text. -/
  | text (content : Text)
  /-- Bytes that have to be UTF-8. -/
  | bytes (content : List UInt8)

/-- The text of a source. -/
def Source.decoded (name : Text) : Source → Except Diagnostic Text
  | .text content => .ok content
  | .bytes content => decode name content

/-- What reading comes to when the source is no text: the delimiters stay as
they are and nothing is written to the journal. -/
def Outcome.ofDiagnostic (delimiters : Delimiters) (diagnostic : Diagnostic) : Outcome :=
  ⟨.error (.diagnosed diagnostic), delimiters, []⟩

/-- The outcome with a failure written to the journal. -/
def Outcome.recorded (name : Text) (outcome : Outcome) : Outcome :=
  match outcome.result with
  | .error (.diagnosed diagnostic) =>
    { outcome with journal := outcome.journal ++ [.failed name diagnostic] }
  | _ => outcome

/-- Reads a source with the standard options and records a failure. -/
def attempt (name : Text) (delimiters : Delimiters) (source : Source) : Outcome :=
  match source.decoded name with
  | .ok text => (read {} name delimiters text).recorded name
  | .error diagnostic => (Outcome.ofDiagnostic delimiters diagnostic).recorded name

end Template

end Stencil
