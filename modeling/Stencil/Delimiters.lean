import Stencil.Value.Display

/-!
# Delimiters

Four kinds of regions interrupt the text of a template, each between an opening
and a closing delimiter.  A delimiter is never empty.  Where the opening
delimiters of two kinds begin alike, the kinds are tried in a fixed order, and
the pair of kinds is called ambiguous.
-/

namespace Stencil

/-- The kinds of regions. -/
inductive Kind where
  /-- An expression whose value is inserted. -/
  | inline
  /-- Text that is left out. -/
  | comment
  /-- A tag of a block. -/
  | block
  /-- A change of delimiters. -/
  | pragma
deriving DecidableEq, Repr

namespace Kind

/-- All kinds, in the order in which opening delimiters are recognised unless
another one is asked for. -/
def all : List Kind :=
  [.inline, .comment, .block, .pragma]

/-- The name of a kind. -/
def name : Kind → Text
  | .inline => Text.of "inline"
  | .comment => Text.of "comment"
  | .block => Text.of "block"
  | .pragma => Text.of "pragma"

/-- The kind of a name. -/
def ofName? (name : Text) : Option Kind :=
  all.find? fun kind => kind.name == name

/-- The names of all kinds in the order of recognition. -/
def listed : Text :=
  Text.join (Text.of ", ") (all.map name)

end Kind

/-- An opening and a closing delimiter. -/
structure Pair where
  /-- What begins a region. -/
  opening : Text
  /-- What ends a region. -/
  closing : Text
  /-- The opening delimiter is not empty. -/
  opening_ne_nil : opening ≠ []
  /-- The closing delimiter is not empty. -/
  closing_ne_nil : closing ≠ []
deriving DecidableEq, Repr

namespace Pair

/-- The pair of two texts, if neither is empty. -/
def of? (opening closing : Text) : Option Pair :=
  if notEmpty : opening ≠ [] ∧ closing ≠ [] then
    some ⟨opening, closing, notEmpty.1, notEmpty.2⟩
  else none

/-- The pair that a value denotes: a tuple of two texts that are not empty. -/
def ofValue? : Value → Option Pair
  | .tuple [.text opening, .text closing] => of? opening closing
  | _ => none

/-- The pair as a value. -/
def toValue (pair : Pair) : Value :=
  .tuple [.text pair.opening, .text pair.closing]

end Pair

/-- The delimiters of all four kinds. -/
structure Delimiters where
  /-- Delimiters of pragmas. -/
  pragma : Pair
  /-- Delimiters of inline expressions. -/
  inline : Pair
  /-- Delimiters of comments. -/
  comment : Pair
  /-- Delimiters of block tags. -/
  block : Pair
deriving DecidableEq, Repr

namespace Delimiters

/-- The pair of a kind. -/
def pair (delimiters : Delimiters) : Kind → Pair
  | .inline => delimiters.inline
  | .comment => delimiters.comment
  | .block => delimiters.block
  | .pragma => delimiters.pragma

/-- The opening delimiters of some kinds. -/
def openings (delimiters : Delimiters) (kinds : List Kind) : List Text :=
  kinds.map fun kind => (delimiters.pair kind).opening

/-- Whether one of two texts begins with the other. -/
def overlap (left right : Text) : Bool :=
  left.isPrefixOf right || right.isPrefixOf left

/-- The pairs of a list in which the first stands before the second. -/
def orderedPairs : List α → List (α × α)
  | [] => []
  | item :: rest => rest.map (fun other => (item, other)) ++ orderedPairs rest

/-- The pairs of kinds of which one opening delimiter begins with the other. -/
def ambiguities (delimiters : Delimiters) : List (Kind × Kind) :=
  (orderedPairs Kind.all).filter fun (left, right) =>
    overlap (delimiters.pair left).opening (delimiters.pair right).opening

/-- A value that denotes no pair of delimiters. -/
structure Fault where
  /-- The kind it was given for. -/
  kind : Kind
  /-- The value. -/
  value : Value
deriving Repr

/-- The wording of a fault. -/
def Fault.message (fault : Fault) : Text :=
  Text.of "Delimiter '" ++ fault.kind.name ++
    Text.of "' must be a pair of non-empty strings, got " ++ fault.value.quoted

/-- The last value that a list of changes has for a kind. -/
def change? (changes : List (Kind × Value)) (kind : Kind) : Option Value :=
  (changes.reverse.find? fun change => change.1 == kind).map Prod.snd

/-- The pair that a kind has after some changes. -/
def changedPair
    (delimiters : Delimiters)
    (changes : List (Kind × Value))
    (kind : Kind) : Except Fault Pair :=
  match change? changes kind with
  | none => .ok (delimiters.pair kind)
  | some value =>
    match Pair.ofValue? value with
    | some pair => .ok pair
    | none => .error ⟨kind, value⟩

/-- The delimiters after some changes, all or nothing.  Of several faults the
one of the kind that is recognised first is reported. -/
def change
    (delimiters : Delimiters)
    (changes : List (Kind × Value)) : Except Fault Delimiters := do
  let inline ← delimiters.changedPair changes .inline
  let comment ← delimiters.changedPair changes .comment
  let block ← delimiters.changedPair changes .block
  let pragma ← delimiters.changedPair changes .pragma
  return ⟨pragma, inline, comment, block⟩

/-- Braces around every region. -/
def braces : Delimiters where
  pragma := ⟨Text.of "\x7b!", Text.of "!\x7d", by decide, by decide⟩
  inline := ⟨Text.of "\x7b\x7b", Text.of "\x7d\x7d", by decide, by decide⟩
  comment := ⟨Text.of "\x7b#", Text.of "#\x7d", by decide, by decide⟩
  block := ⟨Text.of "\x7b%", Text.of "%\x7d", by decide, by decide⟩

/-- Delimiters with a commercial at, for texts that are full of braces. -/
def alternate : Delimiters where
  pragma := ⟨Text.of "@!", Text.of "!@", by decide, by decide⟩
  inline := ⟨Text.of "<@", Text.of "@>", by decide, by decide⟩
  comment := ⟨Text.of "@*", Text.of "*@", by decide, by decide⟩
  block := ⟨Text.of "@(", Text.of ")@", by decide, by decide⟩

/-- The named delimiters. -/
def presets : List (Text × Delimiters) :=
  [(Text.of "default", braces), (Text.of "alternate", alternate)]

/-- The delimiters of a name. -/
def preset? (name : Text) : Option Delimiters :=
  (presets.find? fun entry => entry.1 == name).map Prod.snd

end Delimiters

end Stencil
