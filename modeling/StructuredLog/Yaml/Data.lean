import StructuredLog.Yaml.Node

/-!
# Data of a YAML document

The data of a document are what a reader without a schema makes of it. Other nodes are put in the
place of the aliases, so the depth of the data and the number of aliases are limited.
-/

namespace StructuredLog.Yaml

inductive Data
  | scalar (value : Scalar)
  | sequence (items : List Data)
  | mapping (entries : List (Data × Data))
  | tagged (name : List UInt8) (content : Data)
  deriving Repr

namespace Data

/-! ## Equality -/

mutual

/-- Are the data the same? The order of a mapping's entries does not matter. -/
def same : Data → Data → Bool
  | .scalar a, .scalar b => a == b
  | .sequence as, .sequence bs => sameItems as bs
  | .mapping as, .mapping bs => as.length == bs.length && within as bs
  | .tagged s a, .tagged t b => s == t && a.same b
  | _, _ => false

def sameItems : List Data → List Data → Bool
  | [], [] => true
  | a :: as, b :: bs => a.same b && sameItems as bs
  | _, _ => false

/-- Is each entry of the first list one of the second? Keys differ within a mapping, so this decides
whether two mappings of one length have the same entries. -/
def within : List (Data × Data) → List (Data × Data) → Bool
  | [], _ => true
  | (key, value) :: rest, bs => bs.any (fun b => key.same b.1 && value.same b.2) && within rest bs

end

/-! ## Data of nodes -/

/-- Integers have at most 64 bits. -/
def isStorable : Scalar → Bool
  | .int n => Int64.minValue.toInt ≤ n && n < UInt64.size
  | _ => true

/-- Data under the name that a tag gives. A second mark in front does not tell names apart. -/
def under (tag : Option Tag) (d : Data) : Data :=
  match tag.bind Tag.name? with
  | some name => .tagged (Tag.unmarked name.toUTF8.toList) d
  | none => d

/-- A step of taking the data of a node; its state is the number of aliases that may still be
followed. -/
abbrev Follow := StateT Nat Option

/-- What a node stands for. -/
def follow (anchored : List (Nat × Node)) (n : Node) : Follow Node := do
  if n.isAlias then
    let budget ← get
    guard (0 < budget)
    set (budget - 1)
  return n.resolve anchored

/-- The data of a node with at most `depth` collections inside each other. -/
def ofNode (anchored : List (Nat × Node)) (depth : Nat) (n : Node) : Follow Data := do
  match ← follow anchored n with
  | .alias _ => failure
  | .scalar _ tag style text =>
    let some value := Scalar.read? tag style text | failure
    guard (isStorable value)
    return under tag (.scalar value)
  | .sequence _ tag items =>
    match depth with
    | 0 => failure
    | depth + 1 => return under tag (.sequence (← items.mapM (ofNode anchored depth)))
  | .mapping _ tag entries =>
    match depth with
    | 0 => failure
    | depth + 1 =>
      let entries ← entries.mapM fun (key, value) =>
        return (← ofNode anchored depth key, ← ofNode anchored depth value)
      guard (entries.Pairwise fun (key, _) (other, _) => !key.same other)
      return under tag (.mapping entries)

/-- The data of a document, given by its root. A collection may stand in 127 others, and for each
mark of the document a hundred aliases may be followed. No two keys of a mapping are the same. -/
def ofDocument? (root : Node) : Option Data :=
  (ofNode root.anchored 128 root).run' (100 * root.size)

end Data

end StructuredLog.Yaml
