import Stencil.Yaml.Literal
import Stencil.Yaml.Plain
import Stencil.Yaml.Quoted
import Stencil.Yaml.Token

/-!
# Scanning the tokens of YAML

A key without a sign of its own is recognised late, by the colon behind it.  So
the scanner remembers where the latest token of each level of brackets could
begin a key: it is a candidate as long as it lies on the same line and not more
than 1024 code points back.  A colon turns the candidate of its level into a key,
whose token is then put in before it.

A token is released when no candidate stands before it.  Where scanning stops at
a fault, the tokens that were not released are withheld, since a fault that the
released ones have comes first.

Tags and directives are not read: they make a text malformed.
-/

namespace Stencil

namespace Yaml

/-- A place where a key could begin. -/
structure Candidate where
  /-- The number of brackets around it. -/
  level : Nat
  /-- The number of tokens before it. -/
  number : Nat
  /-- Whether nothing but a key may stand there. -/
  isRequired : Bool
  /-- The place. -/
  cursor : Cursor
deriving DecidableEq, Repr

/-- The greatest distance between a key and its colon. -/
def keyReach : Nat :=
  1024

/-- Whether a colon at a cursor is too far away from the candidate. -/
def Candidate.isStale (candidate : Candidate) (cursor : Cursor) : Bool :=
  candidate.cursor.line ≠ cursor.line || candidate.cursor.index + keyReach < cursor.index

/-- The state of scanning. -/
structure Scanner where
  /-- Where scanning stands. -/
  cursor : Cursor
  /-- The tokens, the latest first. -/
  tokens : List Token
  /-- The open brackets, the innermost first. -/
  brackets : List Bracket
  /-- The columns of the open collections by indentation, the innermost first. -/
  columns : List Nat
  /-- Whether a key may begin here. -/
  isKeyAllowed : Bool
  /-- The places where a key could begin, at most one for each level. -/
  candidates : List Candidate
deriving Repr

namespace Scanner

/-- Scanning at the begin of a text. -/
def start (text : Text) : Scanner :=
  ⟨Cursor.start [] text, [], [], [], true, []⟩

/-- The number of open brackets. -/
def level (scanner : Scanner) : Nat :=
  scanner.brackets.length

/-- Whether a bracket is open. -/
def isFlow (scanner : Scanner) : Bool :=
  !scanner.brackets.isEmpty

/-- The column of the innermost collection by indentation; zero if there is none. -/
def indent (scanner : Scanner) : Nat :=
  scanner.columns.headD 0

/-- Adds a token. -/
def push (token : Token) (scanner : Scanner) : Scanner :=
  { scanner with tokens := token :: scanner.tokens }

/-- Adds a token and passes a number of code points. -/
def take (token : Token) (count : Nat) (scanner : Scanner) : Scanner :=
  { scanner.push token with cursor := scanner.cursor.forward count }

/-- Says whether a key may begin at the next token. -/
def allowKey (isKeyAllowed : Bool) (scanner : Scanner) : Scanner :=
  { scanner with isKeyAllowed := isKeyAllowed }

/-- Gives up the candidates that are too far away. -/
def dropStale (scanner : Scanner) : Except Fault Scanner :=
  let (stale, others) := scanner.candidates.partition fun candidate =>
    candidate.isStale scanner.cursor
  if stale.any Candidate.isRequired then .error .malformed
  else .ok { scanner with candidates := others }

/-- The candidate of the present level. -/
def candidate? (scanner : Scanner) : Option Candidate :=
  scanner.candidates.find? fun candidate => candidate.level = scanner.level

/-- Takes the candidate of the present level away. -/
def forget (scanner : Scanner) : Scanner :=
  { scanner with
    candidates := scanner.candidates.filter fun candidate => candidate.level ≠ scanner.level }

/-- Gives up the candidate of the present level. -/
def dropCandidate (scanner : Scanner) : Except Fault Scanner :=
  if scanner.candidate?.any Candidate.isRequired then .error .malformed
  else .ok scanner.forget

/-- Makes the next token a candidate, if a key may begin there. -/
def offerKey (scanner : Scanner) : Except Fault Scanner := do
  if scanner.isKeyAllowed then
    let scanner ← scanner.dropCandidate
    let isRequired := !scanner.isFlow && scanner.indent = scanner.cursor.column
    let candidate : Candidate :=
      ⟨scanner.level, scanner.tokens.length, isRequired, scanner.cursor⟩
    return { scanner with candidates := candidate :: scanner.candidates }
  else return scanner

/-- Ends the collections by indentation that stand behind a column.  Inside of
brackets indentation counts for nothing. -/
def unwind (column : Nat) (scanner : Scanner) : Scanner :=
  if scanner.isFlow then scanner
  else
    let ended := scanner.columns.takeWhile fun opened => column < opened
    { scanner with
      columns := scanner.columns.drop ended.length
      tokens := ended.map (fun _ => Token.blockEnd) ++ scanner.tokens }

/-- Begins a collection by indentation at a column, unless one of that column is
open or brackets are; its token comes behind a number of tokens. -/
def openBlock (token : Token) (column number : Nat) (scanner : Scanner) : Scanner :=
  if !scanner.isFlow && scanner.indent < column then
    { scanner with
      columns := column :: scanner.columns
      tokens := scanner.tokens.insertIdx (scanner.tokens.length - number) token }
  else scanner

/-- The number of code points of the spaces, comments and line breaks that a text
begins with, and whether there are line breaks among them.  Tabs count as spaces
inside of brackets. -/
def gap (flow : Bool) : Bool → Text → Nat × Bool
  | _, [] => (0, false)
  | inComment, point :: rest =>
    if isBreak point then ((gap flow false rest).1 + 1, true)
    else if inComment || point = ' ' || point = '#' || (flow && point = '\t') then
      let (count, hasBreak) := gap flow (inComment || point = '#') rest
      (count + 1, hasBreak)
    else (0, false)

/-- Passes what stands before the next token. -/
def toToken (scanner : Scanner) : Scanner :=
  let (count, hasBreak) := gap scanner.isFlow false scanner.cursor.rest
  { scanner with
    cursor := scanner.cursor.forward count
    isKeyAllowed := scanner.isKeyAllowed || (hasBreak && !scanner.isFlow) }

/-- A mark of a document. -/
def scanMark (token : Token) (scanner : Scanner) : Except Fault Scanner := do
  let scanner ← (scanner.unwind 0).dropCandidate
  return (scanner.allowKey false).take token 3

/-- The end of the text. -/
def scanFinish (scanner : Scanner) : Except Fault Scanner := do
  let scanner ← (scanner.unwind 0).dropCandidate
  return { (scanner.allowKey false).push .finish with candidates := [] }

/-- An opening bracket, which may begin a key. -/
def scanOpening (bracket : Bracket) (scanner : Scanner) : Except Fault Scanner := do
  let scanner ← scanner.offerKey
  let scanner := (scanner.allowKey true).take (.opening bracket) 1
  return { scanner with brackets := bracket :: scanner.brackets }

/-- A closing bracket. -/
def scanClosing (bracket : Bracket) (scanner : Scanner) : Except Fault Scanner := do
  let scanner ← scanner.dropCandidate
  let scanner := (scanner.allowKey false).take (.closing bracket) 1
  return { scanner with brackets := scanner.brackets.drop 1 }

/-- A comma. -/
def scanSeparator (scanner : Scanner) : Except Fault Scanner := do
  let scanner ← scanner.dropCandidate
  return (scanner.allowKey true).take .separator 1

/-- A sign that begins a collection by indentation, unless one of its column is
open, and that is followed by a token. -/
def scanSign (collection sign : Token) (isKeyNext : Bool) (scanner : Scanner) :
    Except Fault Scanner := do
  if !scanner.isFlow && !scanner.isKeyAllowed then .error .malformed
  else
    let scanner := scanner.openBlock collection scanner.cursor.column scanner.tokens.length
    let scanner ← scanner.dropCandidate
    return (scanner.allowKey isKeyNext).take sign 1

/-- A colon, which makes the candidate of its level a key. -/
def scanValue (scanner : Scanner) : Except Fault Scanner :=
  match scanner.candidate? with
  | some candidate =>
    let place := scanner.tokens.length - candidate.number
    let scanner := { scanner.forget with tokens := scanner.tokens.insertIdx place .key }
    let scanner := scanner.openBlock .blockMapping candidate.cursor.column candidate.number
    .ok ((scanner.allowKey false).take .value 1)
  | none => scanner.scanSign .blockMapping .value (!scanner.isFlow)

/-- Characters of a name. -/
def isNamePoint (point : CodePoint) : Bool :=
  !isFlowMark point && point.val ≠ 0xFEFF &&
    ((0x21 ≤ point.val && point.val ≤ 0x7E) || 0xA0 ≤ point.val)

/-- A name behind its sign. -/
def scanName (token : Text → Token) (scanner : Scanner) : Except Fault Scanner := do
  let name := (scanner.cursor.rest.drop 1).takeWhile isNamePoint
  let behind := scanner.cursor.rest.drop (name.length + 1)
  if name.isEmpty || !(endsWord behind || behind.head?.any isFlowMark) then .error .malformed
  else
    let scanner ← scanner.offerKey
    return (scanner.allowKey false).take (token name) (name.length + 1)

/-- A scalar in quotes. -/
def scanQuoted
    (read : Text → Except Fault (Text × Nat))
    (scanner : Scanner) : Except Fault Scanner := do
  let scanner ← scanner.offerKey
  let (content, count) ← read (scanner.cursor.rest.drop 1)
  return (scanner.allowKey false).take (.scalar false content) (count + 1)

/-- A block scalar. -/
def scanLiteral (isFolded : Bool) (scanner : Scanner) : Except Fault Scanner := do
  let scanner ← scanner.dropCandidate
  let (content, behind) ← blockScalar isFolded scanner.indent (scanner.cursor.forward 1)
  return { (scanner.allowKey true).push (.scalar false content) with cursor := behind }

/-- A plain scalar.  Behind a line break the next token may begin a key. -/
def scanPlain (scanner : Scanner) : Except Fault Scanner := do
  let scanner ← scanner.offerKey
  let (content, behind, hasBreak) :=
    plain scanner.isFlow scanner.indent scanner.cursor.rest.length scanner.cursor
  return { (scanner.allowKey hasBreak).push (.scalar true content) with cursor := behind }

/-- Whether a colon stands for a value.  Inside of brackets it has to end a word
only in a sequence, and in a mapping behind another colon that is not released. -/
def isValue (scanner : Scanner) (isHeld : Bool) (behind : Text) : Bool :=
  match scanner.brackets with
  | .curly :: _ => !(isHeld && scanner.tokens.head? = some .value) || endsWord behind
  | _ => endsWord behind

/-- Scans the token at the cursor. -/
def scanToken (isHeld : Bool) (scanner : Scanner) : Except Fault Scanner :=
  match scanner.cursor.rest with
  | [] => scanner.scanFinish
  | point :: behind =>
    let isFirst := scanner.cursor.column = 1
    if isFirst && beginsMark (Text.of "---") (point :: behind) then scanner.scanMark .documentStart
    else if isFirst && beginsMark (Text.of "...") (point :: behind) then
      scanner.scanMark .documentEnd
    else if point = '[' then scanner.scanOpening .square
    else if point = '\x7b' then scanner.scanOpening .curly
    else if point = ']' then scanner.scanClosing .square
    else if point = '\x7d' then scanner.scanClosing .curly
    else if point = ',' then scanner.scanSeparator
    else if point = '-' && endsWord behind then scanner.scanSign .blockSequence .entry true
    else if point = '?' && (scanner.isFlow || endsWord behind) then
      scanner.scanSign .blockMapping .key (!scanner.isFlow)
    else if point = ':' && scanner.isValue isHeld behind then scanner.scanValue
    else if point = '*' then scanner.scanName .reference
    else if point = '&' then scanner.scanName .anchor
    else if point = '|' && !scanner.isFlow then scanner.scanLiteral false
    else if point = '>' && !scanner.isFlow then scanner.scanLiteral true
    else if point = '\'' then scanner.scanQuoted (single .none)
    else if point = '"' then scanner.scanQuoted (double .none)
    else if beginsPlain scanner.isFlow (point :: behind) then scanner.scanPlain
    else .error .malformed

/-- Scans the next token, with the tokens that indentation puts before it. -/
def step (scanner : Scanner) : Except Fault Scanner := do
  let scanner ← scanner.dropStale
  let isHeld := !scanner.candidates.isEmpty
  let scanner ← scanner.toToken.dropStale
  (scanner.unwind scanner.cursor.column).scanToken isHeld

/-- The tokens that are released, in their order. -/
def released (scanner : Scanner) : List Token :=
  let waiting := scanner.candidates.filter fun candidate => !candidate.isStale scanner.cursor
  let tokens := scanner.tokens.reverse
  tokens.take (waiting.foldl (fun least candidate => min least candidate.number) tokens.length)

/-- The tokens from a state on, with those already scanned. -/
def run : Nat → Scanner → List Token
  | 0, scanner => scanner.released ++ [.broken .malformed]
  | turns + 1, scanner =>
    match scanner.step with
    | .ok next =>
      if next.tokens.head? = some .finish then next.tokens.reverse else run turns next
    | .error fault => scanner.released ++ [.broken fault]

end Scanner

/-- The tokens of a text.  Each token but the last one takes at least one code
point. -/
def Token.list (text : Text) : List Token :=
  Scanner.run (text.length + 1) (Scanner.start text)

end Yaml

end Stencil
