import Stencil.Proofs.Slice
import Stencil.Token.Session

/-!
# Scanning sessions step by step

Two facts hold along every run of a session, whatever its steps are and whether they
fail or not.  The token that a session remembers is never noticed: it is what a scan at
the cursor gives, so a session that remembers no token answers every step in the same
way and stands at the same places, and a session that is reset goes on as it did when
the mark was set.  And the cursor always has the coordinates of its index in the text;
it goes back only where the session is reset.
-/

namespace Stencil

namespace Token

/-- Scanning goes forward. -/
theorem reaches_of_scan
    {cursor behind : Cursor}
    {token : Token}
    (scanned : scan cursor = .ok (token, behind)) :
    cursor.Reaches behind :=
  (Cursor.reaches_skipBlanks cursor).trans
    (Reading.token_eq_ok_iff_scans.1 (Reading.token_eq_ok.2 scanned)).reaches

end Token

namespace Session

/-- The session after some steps. -/
def after (session : Session) : List Operation → Session
  | [] => session
  | operation :: rest => (session.apply operation).2.after rest

theorem after_append (session : Session) (earlier later : List Operation) :
    session.after (earlier ++ later) = (session.after earlier).after later := by
  induction earlier generalizing session with
  | nil => rfl
  | cons operation rest hypothesis => exact hypothesis (session.apply operation).2

/-- A run goes on where its beginning ended. -/
theorem run_append (session : Session) (earlier later : List Operation) :
    session.run (earlier ++ later) =
      session.run earlier ++ (session.after earlier).run later := by
  induction earlier generalizing session with
  | nil => rfl
  | cons operation rest hypothesis =>
    exact congrArg (session.apply operation :: ·) (hypothesis (session.apply operation).2)

/-- What holds of a session, and of the session after each step from one of which it
holds, holds all along a run. -/
theorem invariant_after
    (holds : Session → Prop)
    {session : Session}
    (begins : holds session)
    (keeps : ∀ session operation, holds session → holds (session.apply operation).2)
    (operations : List Operation) :
    holds (session.after operations) := by
  induction operations generalizing session with
  | nil => exact begins
  | cons operation rest hypothesis => exact hypothesis (keeps session operation begins)

/-- The session after a step of a run is the one after the steps up to there. -/
theorem exists_after_of_mem_run
    {session : Session}
    {operations : List Operation}
    {step : Answer × Session}
    (member : step ∈ session.run operations) :
    ∃ earlier, step.2 = session.after earlier := by
  induction operations generalizing session with
  | nil => cases member
  | cons operation rest hypothesis =>
    rcases List.mem_cons.1 member with rfl | later
    · exact ⟨[operation], rfl⟩
    · obtain ⟨earlier, isAfter⟩ := hypothesis later
      exact ⟨operation :: earlier, isAfter⟩

/-! ## Sessions that remember no token -/

/-- A session without a remembered token: what is looked at is scanned each time. -/
structure Uncached where
  /-- The whole text. -/
  text : Text
  /-- Where the session stands. -/
  cursor : Cursor
  /-- The marks, in the order they were set. -/
  marks : List Cursor

namespace Uncached

/-- A session at the beginning of a text. -/
def start (name text : Text) : Uncached :=
  ⟨text, Cursor.start name text, []⟩

/-- The session at another cursor. -/
def moved (session : Uncached) (cursor : Cursor) : Uncached :=
  { session with cursor := cursor }

/-- The code point of an index as a text, which is empty outside the text.  A negative
index below minus one counts from the end. -/
def pointAt (session : Uncached) (index : Int) : Text :=
  let place := if index < -1 then index + session.text.length else index
  if place < 0 then [] else (session.text.drop place.toNat).take 1

/-- The answer to a step and the session after it.  Looking at a token scans it and
returns to where the session stood, unless the scan fails; reading it scans it again and
stays behind it. -/
def apply (session : Uncached) : Operation → Answer × Uncached
  | .peek =>
    match Token.scan session.cursor with
    | .ok (token, _) => (.token token, session)
    | .error failure => (.failed failure, session.moved session.cursor.skipBlanks)
  | .advance =>
    match Token.scan session.cursor with
    | .ok (token, behind) => (.token token, session.moved behind)
    | .error failure => (.failed failure, session.moved session.cursor.skipBlanks)
  | .consume literal =>
    match session.cursor.consume? literal with
    | some behind => (.token (Token.located session.cursor .text literal), session.moved behind)
    | none => (.nothing, session)
  | .readBefore literals =>
    let (run, behind) := session.cursor.readBefore literals
    (.token (Token.located session.cursor .text run), session.moved behind)
  | .readThrough literal =>
    match session.cursor.readThrough? literal with
    | some (run, behind) =>
      (.token (Token.located session.cursor .text run), session.moved behind)
    | none => (.nothing, session)
  | .isAtEnd => (.flag session.cursor.isAtEnd, session)
  | .startsWith literal => (.flag (session.cursor.startsWith literal), session)
  | .sees literal => (.flag (session.cursor.sees literal), session)
  | .pointAt index => (.text (session.pointAt index), session)
  | .skipBlanks => (.nothing, session.moved session.cursor.skipBlanks)
  | .position => (.text session.cursor.position.toText, session)
  | .mark =>
    (.marked session.cursor, { session with marks := session.marks ++ [session.cursor] })
  | .reset number =>
    match session.marks[number]? with
    | some cursor => (.nothing, session.moved cursor)
    | none => (.nothing, session)

/-- The answers to a list of steps, each with the session after it. -/
def run (session : Uncached) : List Operation → List (Answer × Uncached)
  | [] => []
  | operation :: rest =>
    let step := session.apply operation
    step :: run step.2 rest

end Uncached

/-- What can be seen of a session: all but the token that it remembers. -/
def uncached (session : Session) : Uncached :=
  ⟨session.text, session.cursor, session.marks⟩

/-- The token that a session remembers is the one that a scan at its cursor gives. -/
def Remembers (session : Session) : Prop :=
  ∀ known, session.lookahead = some known → Token.scan session.cursor = .ok known

theorem remembers_start (name text : Text) : (start name text).Remembers :=
  nofun

theorem remembers_moved (session : Session) (cursor : Cursor) :
    (session.moved cursor).Remembers :=
  nofun

variable {session : Session}

/-- Looking at a token gives what a scan gives, whether or not it is remembered. -/
theorem Remembers.look_eq_ok
    {token : Token}
    {behind : Cursor}
    (remembers : session.Remembers)
    (scanned : Token.scan session.cursor = .ok (token, behind)) :
    session.look = .ok (token, behind, { session with lookahead := some (token, behind) }) := by
  obtain ⟨text, cursor, lookahead, marks⟩ := session
  cases lookahead with
  | none =>
    dsimp only at scanned
    simp only [look, scanned]
  | some known =>
    obtain rfl : known = (token, behind) :=
      Except.ok.inj ((remembers known rfl).symm.trans scanned)
    rfl

theorem Remembers.look_eq_error
    {failure : Token.Failure}
    (remembers : session.Remembers)
    (failed : Token.scan session.cursor = .error failure) :
    session.look = .error (failure, session.moved session.cursor.skipBlanks) := by
  cases known : session.lookahead with
  | none => simp only [look, known, failed]
  | some pair => cases (remembers pair known).symm.trans failed

/-- Where no blank follows, skipping blanks stays. -/
theorem skipBlanks_eq_of_index_eq
    {cursor : Cursor}
    (stays : cursor.skipBlanks.index = cursor.index) :
    cursor.skipBlanks = cursor := by
  have blanks : (cursor.rest.takeWhile CodePoint.isBlank).length ≤ cursor.rest.length :=
    (List.takeWhile_prefix CodePoint.isBlank).length_le
  rw [Cursor.skipBlanks, Cursor.index_forward, Nat.min_eq_left blanks] at stays
  have none : (cursor.rest.takeWhile CodePoint.isBlank).length = 0 := by omega
  rw [Cursor.skipBlanks, none, Cursor.forward_zero]

/-- A step of a session is the step of the one that remembers no token, and the session
after it remembers what a scan gives. -/
theorem Remembers.apply
    (remembers : session.Remembers)
    (operation : Operation) :
    (session.apply operation).2.Remembers ∧
      Prod.map id uncached (session.apply operation) = session.uncached.apply operation := by
  cases operation with
  | peek =>
    cases scanned : Token.scan session.cursor with
    | error failure =>
      simp only [Session.apply, remembers.look_eq_error scanned, Uncached.apply, uncached, scanned]
      exact ⟨remembers_moved _ _, rfl⟩
    | ok found =>
      simp only [Session.apply, remembers.look_eq_ok scanned, Uncached.apply, uncached, scanned]
      refine ⟨?_, rfl⟩
      rintro known ⟨⟩
      exact scanned
  | advance =>
    cases scanned : Token.scan session.cursor with
    | error failure =>
      simp only [Session.apply, remembers.look_eq_error scanned, Uncached.apply, uncached, scanned]
      exact ⟨remembers_moved _ _, rfl⟩
    | ok found =>
      simp only [Session.apply, remembers.look_eq_ok scanned, Uncached.apply, uncached, scanned]
      exact ⟨remembers_moved _ _, rfl⟩
  | consume literal =>
    cases found : session.cursor.consume? literal with
    | none =>
      simp only [Session.apply, Uncached.apply, uncached, found]
      exact ⟨remembers, rfl⟩
    | some behind =>
      simp only [Session.apply, Uncached.apply, uncached, found]
      exact ⟨remembers_moved _ _, rfl⟩
  | readBefore literals => exact ⟨remembers_moved _ _, rfl⟩
  | readThrough literal =>
    cases found : session.cursor.readThrough? literal with
    | none =>
      simp only [Session.apply, Uncached.apply, uncached, found]
      exact ⟨remembers, rfl⟩
    | some through =>
      simp only [Session.apply, Uncached.apply, uncached, found]
      exact ⟨remembers_moved _ _, rfl⟩
  | skipBlanks =>
    simp only [Session.apply, Uncached.apply]
    split
    · rename_i stays
      refine ⟨remembers, ?_⟩
      simp only [Uncached.moved, uncached, skipBlanks_eq_of_index_eq stays]
      rfl
    · exact ⟨remembers_moved _ _, rfl⟩
  | reset number =>
    cases found : session.marks[number]? with
    | none =>
      simp only [Session.apply, Uncached.apply, uncached, found]
      exact ⟨remembers, rfl⟩
    | some cursor =>
      simp only [Session.apply, Uncached.apply, uncached, found]
      exact ⟨remembers_moved _ _, rfl⟩
  | _ => exact ⟨remembers, rfl⟩

theorem Remembers.run_eq
    (remembers : session.Remembers)
    (operations : List Operation) :
    (session.run operations).map (Prod.map id uncached) = session.uncached.run operations := by
  induction operations generalizing session with
  | nil => rfl
  | cons operation rest hypothesis =>
    obtain ⟨still, same⟩ := remembers.apply operation
    rw [run, Uncached.run, List.map_cons, hypothesis still, ← same]
    rfl

theorem Remembers.after
    (remembers : session.Remembers)
    (operations : List Operation) :
    (session.after operations).Remembers :=
  invariant_after Remembers remembers (fun _ operation still => (still.apply operation).1) operations

/-! ## Where sessions stand -/

/-- Whether a step returns to a mark. -/
def Operation.isReset : Operation → Bool
  | .reset _ => true
  | _ => false

namespace Uncached

variable {session after : Uncached}

/-- What a step can do: it leaves the cursor or moves it forward, it sets a mark, or it
returns to one. -/
inductive Goes (session : Uncached) : Operation → Uncached → Prop
  | forward
      {operation : Operation}
      {cursor : Cursor}
      (reaches : session.cursor.Reaches cursor) :
      Goes session operation (session.moved cursor)
  | marked : Goes session .mark { session with marks := session.marks ++ [session.cursor] }
  | back
      {number : Nat}
      {cursor : Cursor}
      (found : session.marks[number]? = some cursor) :
      Goes session (.reset number) (session.moved cursor)

theorem Goes.stays (session : Uncached) (operation : Operation) : session.Goes operation session :=
  .forward (.refl session.cursor)

theorem goes_apply (session : Uncached) (operation : Operation) :
    session.Goes operation (session.apply operation).2 := by
  cases operation with
  | peek =>
    simp only [apply]
    split
    · exact .stays _ _
    · exact .forward (Cursor.reaches_skipBlanks _)
  | advance =>
    simp only [apply]
    split
    · rename_i scanned
      exact .forward (Token.reaches_of_scan scanned)
    · exact .forward (Cursor.reaches_skipBlanks _)
  | consume literal =>
    simp only [apply]
    split
    · rename_i consumed
      exact .forward (Cursor.eq_forward_of_consume? consumed ▸ Cursor.reaches_forward _ _)
    · exact .stays _ _
  | readBefore literals => exact .forward (Cursor.reaches_forward _ _)
  | readThrough literal =>
    simp only [apply]
    split
    · rename_i through
      exact .forward (Cursor.reaches_of_readThrough? through)
    · exact .stays _ _
  | skipBlanks => exact .forward (Cursor.reaches_skipBlanks _)
  | mark => exact .marked
  | reset number =>
    simp only [apply]
    split
    · rename_i found
      exact .back found
    · exact .stays _ _
  | _ => exact .stays _ _

/-- A step goes back only to a mark. -/
theorem Goes.index_le
    {operation : Operation}
    (goes : session.Goes operation after) :
    operation.isReset = true ∨ session.cursor.index ≤ after.cursor.index := by
  cases goes with
  | forward reaches =>
    obtain ⟨count, isCursor⟩ := reaches
    refine .inr ?_
    rw [moved, ← isCursor, Cursor.index_forward]
    exact Nat.le_add_right _ _
  | marked => exact .inr (Nat.le_refl _)
  | back found => exact .inl rfl

/-- Marks stay in their places. -/
theorem Goes.marks_prefix
    {operation : Operation}
    (goes : session.Goes operation after) :
    session.marks <+: after.marks := by
  cases goes with
  | forward reaches => exact List.prefix_refl _
  | marked => exact List.prefix_append _ _
  | back found => exact List.prefix_refl _

theorem Goes.text_eq
    {operation : Operation}
    (goes : session.Goes operation after) :
    after.text = session.text := by
  cases goes <;> rfl

/-- The cursor of a session and its marks were moved forward from the beginning of the
text. -/
structure StandsIn (name text : Text) (session : Uncached) : Prop where
  /-- The cursor stands in the text. -/
  cursor : (Cursor.start name text).Reaches session.cursor
  /-- So do the marks. -/
  marks : ∀ mark ∈ session.marks, (Cursor.start name text).Reaches mark

theorem StandsIn.goes
    {name text : Text}
    {operation : Operation}
    (stands : session.StandsIn name text)
    (goes : session.Goes operation after) :
    after.StandsIn name text := by
  cases goes with
  | forward reaches => exact ⟨stands.cursor.trans reaches, stands.marks⟩
  | marked =>
    refine ⟨stands.cursor, List.forall_mem_append.2 ⟨stands.marks, ?_⟩⟩
    exact List.forall_mem_singleton.2 stands.cursor
  | back found => exact ⟨stands.marks _ (List.mem_of_getElem? found), stands.marks⟩

end Uncached

/-- What is seen of a session goes as a session that remembers no token does. -/
theorem Remembers.goes
    (remembers : session.Remembers)
    (operation : Operation) :
    session.uncached.Goes operation (session.apply operation).2.uncached := by
  have goes := session.uncached.goes_apply operation
  rwa [← (remembers.apply operation).2] at goes

/-- The text of a session stays, and its marks stay in their places. -/
theorem Remembers.text_and_marks_after
    (remembers : session.Remembers)
    (operations : List Operation) :
    (session.after operations).text = session.text ∧
      session.marks <+: (session.after operations).marks := by
  induction operations generalizing session with
  | nil => exact ⟨rfl, List.prefix_refl _⟩
  | cons operation rest hypothesis =>
    have goes := remembers.goes operation
    obtain ⟨sameText, marks⟩ := hypothesis (remembers.apply operation).1
    exact ⟨sameText.trans goes.text_eq, goes.marks_prefix.trans marks⟩

/-- All along a run a session stands in its text. -/
theorem standsIn_after (name text : Text) (operations : List Operation) :
    ((start name text).after operations).uncached.StandsIn name text := by
  have begins : (start name text).Remembers ∧ (start name text).uncached.StandsIn name text :=
    ⟨remembers_start name text, .refl _, nofun⟩
  refine (invariant_after (fun session =>
    session.Remembers ∧ session.uncached.StandsIn name text) begins ?_ operations).2
  rintro session operation ⟨remembers, stands⟩
  exact ⟨(remembers.apply operation).1, stands.goes (remembers.goes operation)⟩

/-- The coordinates of a session are always those of its index in the text.  After every
step of a run, failed ones included, the index lies in the text, the line counts the line
feeds before it, the column the code points behind the last of them, and the offset the
bytes; and a step that moves the index back returns to a mark.  Texts are meant that can be
encoded: a lone surrogate has no bytes, and the offset behind one says nothing. -/
theorem run_keeps_coordinates
    (name text : Text)
    (operations : List Operation) :
    (∀ step ∈ (start name text).run operations,
      step.2.cursor.index ≤ text.length ∧
        step.2.cursor.position = .ofIndex name text step.2.cursor.index ∧
        step.2.cursor.rest = text.drop step.2.cursor.index) ∧
    ∀ operation,
      let before := (start name text).after operations
      let step := before.apply operation
      (start name text).run (operations ++ [operation]) =
          (start name text).run operations ++ [step] ∧
        (operation.isReset = true ∨ before.cursor.index ≤ step.2.cursor.index) := by
  constructor
  · intro step member
    obtain ⟨earlier, isAfter⟩ := exists_after_of_mem_run member
    rw [isAfter]
    exact Cursor.Reaches.eq_ofIndex (standsIn_after name text earlier).cursor
  · intro operation
    have remembers := (remembers_start name text).after operations
    exact ⟨run_append _ operations [operation], (remembers.goes operation).index_le⟩

/-- A word, and on the next line a string literal without its end. -/
def unclosedText : Text :=
  Text.of "é \n\"b"

/-- The literal cannot be looked at, and the cursor is left before it. -/
theorem run_keeps_coordinates_of_unclosedText :
    ∃ step ∈ (start [] unclosedText).run [.advance, .peek], step.2.cursor.index = 3 ∧
      step.2.cursor.position = .ofIndex [] unclosedText 3 ∧
      Position.ofIndex [] unclosedText 3 = ⟨[], 2, 1, 4⟩ := by
  let step := ((start [] unclosedText).apply .advance).2.apply .peek
  have member : step ∈ (start [] unclosedText).run [.advance, .peek] :=
    List.mem_cons_of_mem _ List.mem_cons_self
  have index : step.2.cursor.index = 3 := rfl
  have coordinates := (run_keeps_coordinates [] unclosedText [.advance, .peek]).1 step member
  rw [index] at coordinates
  exact ⟨step, member, index, coordinates.2.1, rfl⟩

/-- What a session remembers is never noticed.  A run gives the same answers and comes to
the same cursors as the run of a session that scans each token where it is looked at or
read.  And after a reset every run is as it was right after the mark was set; the marks
themselves are kept by whoever runs the session, so both runs are given the same ones.
Texts are meant that can be encoded, since the offsets of cursors count bytes. -/
theorem run_hides_lookahead
    (name text : Text) :
    (∀ operations, ((start name text).run operations).map (Prod.map id uncached) =
      (Uncached.start name text).run operations) ∧
    ∀ earlier between later,
      let number := ((start name text).after earlier).marks.length
      let marked := (start name text).after (earlier ++ [.mark])
      let returned := marked.after (between ++ [.reset number])
      (returned.run later).map (Prod.map id uncached) =
        (run { marked with marks := returned.marks } later).map (Prod.map id uncached) := by
  have begins := remembers_start name text
  refine ⟨begins.run_eq, fun earlier between later => ?_⟩
  intro number marked returned
  have remembers : marked.Remembers := begins.after _
  -- The mark was set last, and marks keep their places, so the reset returns to it.
  have isMark : marked.marks[number]? = some marked.cursor := by
    simp only [marked, number, after_append]
    exact List.getElem?_concat_length
  obtain ⟨sameText, marks⟩ := remembers.text_and_marks_after between
  have returns : returned = (marked.after between).moved marked.cursor := by
    have found : (marked.after between).marks[number]? = some marked.cursor := by
      obtain ⟨more, whole⟩ := marks
      rw [← whole, List.getElem?_append_left (List.getElem?_eq_some_iff.1 isMark).1, isMark]
    simp only [returned, after_append, after, apply, found]
  have sameSeen : returned.uncached = uncached { marked with marks := returned.marks } := by
    simp only [returns, uncached, moved, sameText]
  have stillRemembers : Remembers { marked with marks := returned.marks } := remembers
  rw [(remembers.after _).run_eq, stillRemembers.run_eq, sameSeen]

end Session

end Stencil
