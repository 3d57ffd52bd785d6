import Stencil.Yaml.Fault

/-!
# Tokens of YAML

The structure of a document is given by brackets and by indentation.  Both kinds
of collections appear as tokens, and so do keys: a token stands before a key also
where the text has no sign for it.
-/

namespace Stencil

namespace Yaml

/-- The brackets of flow collections. -/
inductive Bracket where
  /-- Of a sequence. -/
  | square
  /-- Of a mapping. -/
  | curly
deriving DecidableEq, Repr

/-- A token. -/
inductive Token where
  /-- A document begins. -/
  | documentStart
  /-- A document ends. -/
  | documentEnd
  /-- The text ends. -/
  | finish
  /-- A sequence by indentation begins. -/
  | blockSequence
  /-- A mapping by indentation begins. -/
  | blockMapping
  /-- A collection by indentation ends. -/
  | blockEnd
  /-- A bracket opens. -/
  | opening (bracket : Bracket)
  /-- A bracket closes. -/
  | closing (bracket : Bracket)
  /-- A hyphen before an item. -/
  | entry
  /-- A comma between items. -/
  | separator
  /-- A key follows. -/
  | key
  /-- The value of a key follows. -/
  | value
  /-- The node of an earlier name. -/
  | reference (name : Text)
  /-- A name for the node that follows. -/
  | anchor (name : Text)
  /-- A scalar, plain or not. -/
  | scalar (isPlain : Bool) (content : Text)
  /-- No more tokens can be told. -/
  | broken (fault : Fault)
deriving DecidableEq, Repr

end Yaml

end Stencil
