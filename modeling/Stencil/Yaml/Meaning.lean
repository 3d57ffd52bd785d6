import Stencil.Yaml.Node

/-!
# The values of nodes

A sequence means a list and a mapping means a map.  A sequence as a key means a
tuple, whose items have to be scalars; a mapping is no key.  A key may not come
twice in a mapping, unless entries of other mappings were taken in, where the
last value counts.

Of several faults the one that is least deep is reported: a collection is
examined before the collections that its values are.
-/

namespace Stencil

namespace Yaml

/-- Lists of faults, one for each depth. -/
abbrev Layers := List (List Fault)

/-- Two lists of layers, depth by depth. -/
def Layers.overlay : Layers → Layers → Layers
  | [], right => right
  | left, [] => left
  | left :: lefts, right :: rights => (left ++ right) :: Layers.overlay lefts rights

namespace Node

/-- What a scalar means. -/
def scalarValue (isPlain : Bool) (content : Text) : Except Fault Value :=
  if isPlain then ofPlain content else .ok (.text content)

/-- Whether a node is the spelling that is a text as a key. -/
def isDefaultKey : Node → Bool
  | .scalar true content => content = defaultSpelling
  | _ => false

/-- What a node that means a value means as a key; a list counts as a tuple. -/
def asKey (node : Node) (value : Value) : Value :=
  if node.isDefaultKey then .text defaultSpelling
  else
    match value with
    | .list items => .tuple items
    | _ => value

mutual

/-- What a node means, where a fault counts as null. -/
def value : Node → Value
  | .scalar isPlain content =>
    match scalarValue isPlain content with
    | .ok value => value
    | .error _ => .null
  | .sequence items => .list (values items)
  | .mapping _ entries => Value.ofEntries (entryValues entries)
  | .unmergeable => .null

/-- What the nodes of a list mean. -/
def values : List Node → List Value
  | [] => []
  | node :: rest => value node :: values rest

/-- What the entries of a mapping mean. -/
def entryValues : List (Node × Node) → List (Value × Value)
  | [] => []
  | (key, node) :: rest => (key.asKey (value key), value node) :: entryValues rest

end

/-- What a node means as a key. -/
def keyValue (key : Node) : Value :=
  key.asKey key.value

/-- The faults of a value as a key, before it is compared with others. -/
def keyFaults : Value → List Fault
  | .map _ => [.malformed]
  | _ => []

/-- The faults that show when a key is compared with others: of its items the
first list or map is reported, and a key of the list is known. -/
def comparisonFaults (known : Option (List Value)) (key : Value) : List Fault :=
  let composite := match key with
    | .tuple items => items.filterMap fun item =>
        match item with
        | .list _ => some Fault.listInKey
        | .map _ => some Fault.mapInKey
        | _ => none
    | _ => []
  composite ++
    if (known.getD []).any fun other => other.sameKey key then [Fault.malformed] else []

mutual

/-- The faults of a node and of what it holds.  The first layer has those of a
scalar, the next one those of the items of a collection. -/
def layers : Node → Layers
  | .scalar isPlain content =>
    match scalarValue isPlain content with
    | .ok _ => []
    | .error fault => [[fault]]
  | .sequence items => [] :: itemLayers items
  | .mapping hasMerged entries => [] :: entryLayers (if hasMerged then none else some []) entries
  | .unmergeable => [[], [.malformed]]

/-- The faults of the items of a sequence. -/
def itemLayers : List Node → Layers
  | [] => []
  | item :: rest => (layers item).overlay (itemLayers rest)

/-- The faults of the entries of a mapping behind the keys that are known, where
these have to differ. -/
def entryLayers (known : Option (List Value)) : List (Node × Node) → Layers
  | [] => []
  | (key, node) :: rest =>
    let first := (if key.isDefaultKey then [] else (layers key).flatten) ++ keyFaults key.keyValue
    let last := comparisonFaults known key.keyValue
    Layers.overlay [first] (Layers.overlay (layers node) (Layers.overlay [last]
      (entryLayers (known.map (key.keyValue :: ·)) rest)))

end

/-- What a node means, or the first of its faults. -/
def meaning (node : Node) : Except Fault Value :=
  match node.layers.flatten with
  | [] => .ok node.value
  | fault :: _ => .error fault

end Node

end Yaml

end Stencil
