import Stencil.Yaml.Scalar
import Stencil.Yaml.Token

/-!
# Nodes of YAML

A document holds one node, which is a scalar, a sequence or a mapping.  This
module has the nodes, with the rules by which a mapping takes the entries of
other mappings in, and reads a node from the tokens of a document.  A
reference stands for the complete node that has its name.
-/

namespace Stencil

namespace Yaml

/-- A node. -/
inductive Node where
  /-- A scalar, plain or not. -/
  | scalar (isPlain : Bool) (content : Text)
  /-- A sequence. -/
  | sequence (items : List Node)
  /-- A mapping; a key may come again only where entries of other mappings were
  taken in. -/
  | mapping (hasMerged : Bool) (entries : List (Node × Node))
  /-- A mapping that wants to take the entries of no mapping in. -/
  | unmergeable
deriving Repr

namespace Node

/-- The node that is not written. -/
def empty : Node :=
  .scalar true []

/-- Whether a node is the key that takes the entries of other mappings in. -/
def isMergeKey : Node → Bool
  | .scalar true content => content = mergeSpelling
  | _ => false

/-- The entries of a mapping. -/
def entries? : Node → Option (List (Node × Node))
  | .mapping _ entries => some entries
  | _ => none

/-- The entries that a node gives to the mapping that takes them in: those of a
mapping, or those of a sequence of mappings from the last one to the first. -/
def merged? : Node → Option (List (Node × Node))
  | .mapping _ entries => some entries
  | .sequence items => (items.mapM entries?).map fun all => all.reverse.flatten
  | _ => none

/-- The entries that are taken in by some entries.  Once there are some, no other
entry may take more in. -/
def mergedEntries :
    List (Node × Node) → List (Node × Node) → Option (List (Node × Node))
  | taken, [] => some taken
  | taken, (key, value) :: rest =>
    if key.isMergeKey then
      if taken.isEmpty then do
        let entries ← merged? value
        mergedEntries entries rest
      else none
    else mergedEntries taken rest

/-- The mapping of some entries.  The entries that are taken in stand before its
own. -/
def ofEntries (entries : List (Node × Node)) : Node :=
  let own := entries.filter fun entry => !entry.1.isMergeKey
  match mergedEntries [] entries with
  | none => .unmergeable
  | some taken => .mapping (!taken.isEmpty) (taken ++ own)

/-- What nodes are read from. -/
structure Source where
  /-- The tokens that are not yet read. -/
  tokens : List Token
  /-- The nodes that have names, the latest first. -/
  names : List (Text × Node)

/-- A rule that reads a part of a document. -/
abbrev Rule (α : Type) := StateT Source (Except Fault) α

/-- The next token. -/
def next : Rule Token := do
  return (← get).tokens.headD (.broken .malformed)

/-- Passes the next token. -/
def skip : Rule Unit :=
  modify fun source => { source with tokens := source.tokens.drop 1 }

/-- Stops because a token stands where another one is expected. -/
def unexpected : Token → Rule α
  | .broken fault => throw fault
  | _ => throw .malformed

/-- The node of a name. -/
def named (name : Text) : Rule Node := do
  match (← get).names.find? fun entry => entry.1 == name with
  | some (_, node) => return node
  | none => throw .malformed

/-- Gives a node a name. -/
def giveName (name : Text) (node : Node) : Rule Unit :=
  modify fun source => { source with names := (name, node) :: source.names }

/-- What a rule reads, or the empty node before some tokens. -/
def orEmpty (ends : List Token) (rule : Rule Node) : Rule Node := do
  if ends.contains (← next) then return empty else rule

/-- Where a node stands. -/
inductive Place where
  /-- Inside of brackets. -/
  | flow
  /-- In a collection by indentation. -/
  | block
  /-- Behind a key of a mapping by indentation, where a sequence need not be
  indented more deeply than the key. -/
  | entry
deriving DecidableEq, Repr

mutual

/-- Reads a node, perhaps with a name or by reference. -/
def read : Nat → Place → Rule Node
  | 0, _ => throw .malformed
  | calls + 1, place => do
    match ← next with
    | .reference name =>
      skip
      named name
    | .anchor name =>
      skip
      let node ← content calls place true
      giveName name node
      return node
    | _ => content calls place false

/-- Reads a node without its name.  Only a node that has one may be empty. -/
def content : Nat → Place → Bool → Rule Node
  | 0, _, _ => throw .malformed
  | calls + 1, place, isNamed => do
    let token ← next
    match token with
    | .scalar isPlain text =>
      skip
      return .scalar isPlain text
    | .opening .square =>
      skip
      flowItems calls true []
    | .opening .curly =>
      skip
      flowEntries calls true []
    | _ =>
      if token = .entry ∧ place = .entry then hangingItems calls []
      else if token = .blockSequence ∧ place ≠ .flow then do
        skip
        blockItems calls []
      else if token = .blockMapping ∧ place ≠ .flow then do
        skip
        blockEntries calls []
      else if isNamed then return empty
      else unexpected token

/-- Reads the items of a sequence by indentation. -/
def blockItems : Nat → List Node → Rule Node
  | 0, _ => throw .malformed
  | calls + 1, items => do
    match ← next with
    | .entry =>
      skip
      let item ← orEmpty [.entry, .blockEnd] (read calls .block)
      blockItems calls (items ++ [item])
    | .blockEnd =>
      skip
      return .sequence items
    | token => unexpected token

/-- Reads the items of a sequence that is not indented more deeply than its key. -/
def hangingItems : Nat → List Node → Rule Node
  | 0, _ => throw .malformed
  | calls + 1, items => do
    match ← next with
    | .entry =>
      skip
      let item ← orEmpty [.entry, .key, .value, .blockEnd] (read calls .block)
      hangingItems calls (items ++ [item])
    | _ => return .sequence items

/-- Reads the entries of a mapping by indentation. -/
def blockEntries : Nat → List (Node × Node) → Rule Node
  | 0, _ => throw .malformed
  | calls + 1, entries => do
    match ← next with
    | .key =>
      skip
      let key ← orEmpty [.key, .value, .blockEnd] (read calls .entry)
      let value ← entryValue calls [.key, .value, .blockEnd] .entry
      blockEntries calls (entries ++ [(key, value)])
    | .value =>
      let value ← entryValue calls [.key, .value, .blockEnd] .entry
      blockEntries calls (entries ++ [(empty, value)])
    | .blockEnd =>
      skip
      return ofEntries entries
    | token => unexpected token

/-- Reads the value of an entry, which may be missing. -/
def entryValue : Nat → List Token → Place → Rule Node
  | 0, _, _ => throw .malformed
  | calls + 1, ends, place => do
    match ← next with
    | .value =>
      skip
      orEmpty ends (read calls place)
    | _ => return empty

/-- Reads the items of a sequence in brackets.  An item may be a single entry of
a mapping. -/
def flowItems : Nat → Bool → List Node → Rule Node
  | 0, _, _ => throw .malformed
  | calls + 1, isFirst, items => do
    let token ← next
    if token = .closing .square then do
      skip
      return .sequence items
    else if !isFirst && token ≠ .separator then unexpected token
    else do
      if !isFirst then skip
      match ← next with
      | .key =>
        skip
        let key ← orEmpty [.value, .separator, .closing .square] (read calls .flow)
        let value ← entryValue calls [.separator, .closing .square] .flow
        flowItems calls false (items ++ [ofEntries [(key, value)]])
      | .closing .square =>
        skip
        return .sequence items
      | _ =>
        let item ← read calls .flow
        flowItems calls false (items ++ [item])

/-- Reads the entries of a mapping in brackets.  A value may be missing. -/
def flowEntries : Nat → Bool → List (Node × Node) → Rule Node
  | 0, _, _ => throw .malformed
  | calls + 1, isFirst, entries => do
    let token ← next
    if token = .closing .curly then do
      skip
      return ofEntries entries
    else if !isFirst && token ≠ .separator then unexpected token
    else do
      if !isFirst then skip
      match ← next with
      | .key =>
        skip
        let key ← orEmpty [.value, .separator, .closing .curly] (read calls .flow)
        let value ← entryValue calls [.separator, .closing .curly] .flow
        flowEntries calls false (entries ++ [(key, value)])
      | .value =>
        let value ← entryValue calls [.separator, .closing .curly] .flow
        flowEntries calls false (entries ++ [(empty, value)])
      | .closing .curly =>
        skip
        return ofEntries entries
      | _ =>
        let key ← read calls .flow
        flowEntries calls false (entries ++ [(key, empty)])

end

/-- Reads the node of the only document of a text. -/
def document (calls : Nat) : Rule Node := do
  let node ←
    match ← next with
    | .finish => pure empty
    | .documentStart => do
      skip
      orEmpty [.documentStart, .documentEnd, .finish] (read calls .block)
    | _ => read calls .block
  if (← next) = .documentEnd then skip
  let token ← next
  if token = .finish then return node else unexpected token

/-- The node of a document that is given by its tokens.  No rule opens others
more than three times in a row without passing a token. -/
def ofTokens (tokens : List Token) : Except Fault Node :=
  (document (4 * tokens.length + 8)).run' ⟨tokens, []⟩

end Node

end Yaml

end Stencil
