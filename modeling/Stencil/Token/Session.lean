import Stencil.Token.Scanner

/-!
# Scanning sessions

A session reads one text step by step.  It remembers the token that was looked
at last together with the cursor behind it, so that looking twice scans once,
and it remembers marks to which it can be reset.  A scan that fails leaves the
cursor behind the blanks that precede the faulty token.
-/

namespace Stencil

/-- The state of a scanning session. -/
structure Session where
  /-- The whole text. -/
  text : Text
  /-- Where the session stands. -/
  cursor : Cursor
  /-- The next token and the cursor behind it, if they are known. -/
  lookahead : Option (Token × Cursor)
  /-- The marks, in the order they were set. -/
  marks : List Cursor
deriving Repr

namespace Session

/-- A step of a session. -/
inductive Operation where
  /-- Looks at the next token. -/
  | peek
  /-- Reads the next token. -/
  | advance
  /-- Reads a literal if the unread text begins with it. -/
  | consume (literal : Text)
  /-- Reads the text before the first of some literals. -/
  | readBefore (literals : List Text)
  /-- Reads the text through the first occurrence of a literal. -/
  | readThrough (literal : Text)
  /-- Asks whether nothing is left to read. -/
  | isAtEnd
  /-- Asks whether the unread text begins with a literal. -/
  | startsWith (literal : Text)
  /-- Asks whether a literal follows, perhaps after blanks. -/
  | sees (literal : Text)
  /-- Asks for the code point of an index. -/
  | pointAt (index : Int)
  /-- Passes the blanks that follow. -/
  | skipBlanks
  /-- Asks for the position. -/
  | position
  /-- Sets a mark. -/
  | mark
  /-- Returns to the mark of a number, counted from zero. -/
  | reset (number : Nat)
deriving Repr

/-- What a step answers. -/
inductive Answer where
  /-- A token. -/
  | token (token : Token)
  /-- Nothing. -/
  | nothing
  /-- A truth value. -/
  | flag (value : Bool)
  /-- A text. -/
  | text (content : Text)
  /-- The cursor that a mark keeps. -/
  | marked (cursor : Cursor)
  /-- A failed scan. -/
  | failed (failure : Token.Failure)
deriving Repr

/-- A session at the beginning of a text. -/
def start (name text : Text) : Session :=
  ⟨text, Cursor.start name text, none, []⟩

/-- The session at another cursor, with no token known. -/
def moved (session : Session) (cursor : Cursor) : Session :=
  { session with cursor := cursor, lookahead := none }

/-- The code point of an index as a text, which is empty outside the text.  A
negative index below minus one counts from the end. -/
def pointAt (session : Session) (index : Int) : Text :=
  let place := if index < -1 then index + session.text.length else index
  if place < 0 then [] else (session.text.drop place.toNat).take 1

/-- The next token, the cursor behind it, and the session that knows them. -/
def look (session : Session) : Except (Token.Failure × Session) (Token × Cursor × Session) :=
  match session.lookahead with
  | some (token, behind) => .ok (token, behind, session)
  | none =>
    match Token.scan session.cursor with
    | .ok (token, behind) =>
      .ok (token, behind, { session with lookahead := some (token, behind) })
    | .error failure => .error (failure, session.moved session.cursor.skipBlanks)

/-- The answer to a step and the session after it. -/
def apply (session : Session) : Operation → Answer × Session
  | .peek =>
    match session.look with
    | .ok (token, _, known) => (.token token, known)
    | .error (failure, after) => (.failed failure, after)
  | .advance =>
    match session.look with
    | .ok (token, behind, known) => (.token token, known.moved behind)
    | .error (failure, after) => (.failed failure, after)
  | .consume literal =>
    match session.cursor.consume? literal with
    | some behind => (.token (Token.located session.cursor .text literal), session.moved behind)
    | none => (.nothing, session)
  | .readBefore literals =>
    let (run, behind) := session.cursor.readBefore literals
    (.token (Token.located session.cursor .text run), session.moved behind)
  | .readThrough literal =>
    match session.cursor.readThrough? literal with
    | some (run, behind) =>
      (.token (Token.located session.cursor .text run), session.moved behind)
    | none => (.nothing, session)
  | .isAtEnd => (.flag session.cursor.isAtEnd, session)
  | .startsWith literal => (.flag (session.cursor.startsWith literal), session)
  | .sees literal => (.flag (session.cursor.sees literal), session)
  | .pointAt index => (.text (session.pointAt index), session)
  | .skipBlanks =>
    let behind := session.cursor.skipBlanks
    (.nothing, if behind.index = session.cursor.index then session else session.moved behind)
  | .position => (.text session.cursor.position.toText, session)
  | .mark =>
    (.marked session.cursor, { session with marks := session.marks ++ [session.cursor] })
  | .reset number =>
    match session.marks[number]? with
    | some cursor => (.nothing, session.moved cursor)
    | none => (.nothing, session)

/-- The answers to a list of steps, each with the session after it. -/
def run (session : Session) : List Operation → List (Answer × Session)
  | [] => []
  | operation :: rest =>
    let step := session.apply operation
    step :: run step.2 rest

end Session

end Stencil
