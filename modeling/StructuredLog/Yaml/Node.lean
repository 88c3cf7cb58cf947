import StructuredLog.Yaml.Scalar

/-!
# Nodes of a YAML document

An anchor gives its node a number, and an alias has the number of an anchor. Of several nodes with
one number an alias stands for the last that begins in the document, which may stand behind it or
hold it.
-/

namespace StructuredLog.Yaml

inductive Node
  | alias (number : Nat)
  | scalar (anchor : Option Nat) (tag : Option Tag) (style : Style) (text : String)
  | sequence (anchor : Option Nat) (tag : Option Tag) (items : List Node)
  | mapping (anchor : Option Nat) (tag : Option Tag) (entries : List (Node × Node))
  deriving Repr

/-- The scalar of a place where nothing stands. -/
def Node.empty : Node :=
  .scalar none none .plain ""

namespace Node

def tag : Node → Option Tag
  | .alias _ => none
  | .scalar _ tag _ _ => tag
  | .sequence _ tag _ => tag
  | .mapping _ tag _ => tag

def isAlias : Node → Bool
  | .alias _ => true
  | _ => false

/-! ## Sizes -/

mutual

/-- How many marks it takes to list the node: one for a scalar or an alias, and one for each end of
a collection. -/
def size : Node → Nat
  | .alias _ => 1
  | .scalar _ _ _ _ => 1
  | .sequence _ _ items => 2 + sizeOfItems items
  | .mapping _ _ entries => 2 + sizeOfEntries entries

def sizeOfItems : List Node → Nat
  | [] => 0
  | item :: rest => item.size + sizeOfItems rest

def sizeOfEntries : List (Node × Node) → Nat
  | [] => 0
  | (key, value) :: rest => key.size + value.size + sizeOfEntries rest

end

/-! ## Anchors -/

/-- A node under its number, if it has one. -/
def underAnchor (anchor : Option Nat) (n : Node) : List (Nat × Node) :=
  (anchor.map (·, n)).toList

mutual

/-- The nodes with an anchor, in the order in which they begin. -/
def anchored : Node → List (Nat × Node)
  | .alias _ => []
  | .scalar anchor tag style text => underAnchor anchor (.scalar anchor tag style text)
  | .sequence anchor tag items =>
    underAnchor anchor (.sequence anchor tag items) ++ anchoredItems items
  | .mapping anchor tag entries =>
    underAnchor anchor (.mapping anchor tag entries) ++ anchoredEntries entries

def anchoredItems : List Node → List (Nat × Node)
  | [] => []
  | item :: rest => item.anchored ++ anchoredItems rest

def anchoredEntries : List (Node × Node) → List (Nat × Node)
  | [] => []
  | (key, value) :: rest => key.anchored ++ value.anchored ++ anchoredEntries rest

end

/-- The node that a number stands for among the anchored nodes of a document. -/
def withNumber (number : Nat) (anchored : List (Nat × Node)) : Node :=
  (anchored.reverse.lookup number).getD empty

/-- What a node stands for: an alias for another node, any other node for itself. -/
def resolve (anchored : List (Nat × Node)) : Node → Node
  | .alias number => withNumber number anchored
  | n => n

end Node

end StructuredLog.Yaml
