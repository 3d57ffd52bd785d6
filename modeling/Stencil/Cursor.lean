import Stencil.Position
import Stencil.Text.Blank

/-!
# Cursors

A cursor stands in a source text: it holds the text that is still unread and
the coordinates of the place before it.  Only a line feed begins a new line.
Every reader of this library moves a cursor by `forward`, so the coordinates
always belong to the text that was passed.
-/

namespace Stencil

/-- A place in a source and the text behind it. -/
structure Cursor where
  /-- The name of the source. -/
  name : Text
  /-- The number of code points before the cursor. -/
  index : Nat
  /-- The line, from one. -/
  line : Nat
  /-- The column in code points, from one. -/
  column : Nat
  /-- The number of UTF-8 bytes before the cursor. -/
  offset : Nat
  /-- The text that is not yet read. -/
  rest : Text
deriving DecidableEq, Repr

namespace Cursor

/-- The cursor before the first code point of a text. -/
def start (name : Text) (text : Text) : Cursor :=
  ⟨name, 0, 1, 1, 0, text⟩

/-- The position of a cursor. -/
def position (cursor : Cursor) : Position :=
  ⟨cursor.name, cursor.line, cursor.column, cursor.offset⟩

/-- Whether nothing is left to read. -/
def isAtEnd (cursor : Cursor) : Bool :=
  cursor.rest.isEmpty

/-- The cursor behind a code point, with the text that follows it. -/
def past (cursor : Cursor) (point : CodePoint) (rest : Text) : Cursor where
  name := cursor.name
  index := cursor.index + 1
  line := if point = '\n' then cursor.line + 1 else cursor.line
  column := if point = '\n' then 1 else cursor.column + 1
  offset := cursor.offset + point.utf8Width
  rest := rest

/-- The cursor behind a number of code points, or at the end of the text. -/
def forward : Nat → Cursor → Cursor
  | 0, cursor => cursor
  | count + 1, cursor =>
    match cursor.rest with
    | [] => cursor
    | point :: rest => forward count (cursor.past point rest)

@[simp] theorem forward_zero (cursor : Cursor) : forward 0 cursor = cursor :=
  rfl

@[simp] theorem rest_forward (count : Nat) (cursor : Cursor) :
    (forward count cursor).rest = cursor.rest.drop count := by
  induction count generalizing cursor with
  | zero => simp [forward]
  | succ count hypothesis =>
    cases unread : cursor.rest with
    | nil => simp [forward, unread]
    | cons point rest => simp [forward, unread, hypothesis, past]

@[simp] theorem name_forward (count : Nat) (cursor : Cursor) :
    (forward count cursor).name = cursor.name := by
  induction count generalizing cursor with
  | zero => simp [forward]
  | succ count hypothesis =>
    cases unread : cursor.rest with
    | nil => simp [forward, unread]
    | cons point rest => simp [forward, unread, hypothesis, past]

/-- Going forward twice is going forward once by the sum. -/
theorem forward_add (first second : Nat) (cursor : Cursor) :
    forward (first + second) cursor = forward second (forward first cursor) := by
  induction first generalizing cursor with
  | zero => rw [Nat.zero_add, forward_zero]
  | succ first hypothesis =>
    rw [Nat.succ_add]
    cases unread : cursor.rest with
    | nil => cases second <;> simp [forward, unread]
    | cons point rest => simp only [forward, unread, hypothesis]

/-- The index counts the code points that were passed. -/
@[simp] theorem index_forward (count : Nat) (cursor : Cursor) :
    (forward count cursor).index = cursor.index + min count cursor.rest.length := by
  induction count generalizing cursor with
  | zero => simp [forward]
  | succ count hypothesis =>
    cases unread : cursor.rest with
    | nil => simp [forward, unread]
    | cons point rest =>
      simp only [forward, unread, hypothesis, past, List.length_cons]
      omega

/-- The offset counts the bytes of the text that was passed. -/
@[simp] theorem offset_forward (count : Nat) (cursor : Cursor) :
    (forward count cursor).offset = cursor.offset + Text.utf8Width (cursor.rest.take count) := by
  induction count generalizing cursor with
  | zero => simp [forward, Text.utf8Width]
  | succ count hypothesis =>
    cases unread : cursor.rest with
    | nil => simp [forward, unread, Text.utf8Width]
    | cons point rest =>
      simp only [forward, unread, hypothesis, past, Text.utf8Width, List.take_succ_cons,
        List.foldr_cons]
      omega

/-- Whether the unread text begins with a literal. -/
def startsWith (cursor : Cursor) (literal : Text) : Bool :=
  literal.isPrefixOf cursor.rest

/-- The cursor behind a literal, if the unread text begins with it. -/
def consume? (cursor : Cursor) (literal : Text) : Option Cursor :=
  if cursor.startsWith literal then some (forward literal.length cursor) else none

/-- Whether a literal follows, perhaps after blanks. -/
def sees (cursor : Cursor) (literal : Text) : Bool :=
  literal.isPrefixOf cursor.rest.trimStart

/-- The cursor behind the blanks that follow. -/
def skipBlanks (cursor : Cursor) : Cursor :=
  forward (cursor.rest.takeWhile CodePoint.isBlank).length cursor

@[simp] theorem rest_skipBlanks (cursor : Cursor) :
    cursor.skipBlanks.rest = cursor.rest.trimStart := by
  rw [skipBlanks, rest_forward, Text.drop_takeWhile_length, Text.trimStart]

/-- The text before the first of some literals, or all unread text, and the
cursor behind it. -/
def readBefore (cursor : Cursor) (literals : List Text) : Text × Cursor :=
  let run := cursor.rest.beforeAny literals
  (run, forward run.length cursor)

/-- The text before the first occurrence of a literal, and the cursor behind
that occurrence. -/
def readThrough? (cursor : Cursor) (literal : Text) : Option (Text × Cursor) :=
  match Text.splitFirst literal cursor.rest with
  | none => none
  | some (before, _) => some (before, forward (before.length + literal.length) cursor)

end Cursor

end Stencil
