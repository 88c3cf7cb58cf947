import StructuredLog.Indexed
import StructuredLog.Value

/-!
# Views of named values

A view is the ordered sequence of names and values that a sink receives with an entry or a scope.
-/

namespace StructuredLog

structure Pair where
  name : String
  value : Value
  deriving Repr

abbrev View := Indexed Pair

/-- The name of the pair that holds the template of a message. No slot can have it, because a slot's
name never begins with an opening brace. -/
def originalFormat : String := "\x7bOriginalFormat\x7d"

namespace View

def ofList (pairs : List Pair) : View :=
  Indexed.ofList pairs

/-- Values under as many names. -/
def zip {n : Nat} (names : Vector String n) (values : Vector Value n) : View where
  count := n
  at? i := if h : i < n then some ⟨names[i], values[i]⟩ else none
  isSome_at?_iff i := by split <;> simp [*]

/-- All pairs in order. -/
def pairs (v : View) : List Pair :=
  v.toList

/-- The values without their names. -/
def values (v : View) : Indexed Value :=
  v.map Pair.value

/-- The value of the first pair with this name. -/
def get? (v : View) (name : String) : Option Value :=
  (v.find? fun pair => pair.name == name).map Pair.value

/-- The template, if the first pair under its name holds a text. -/
def template? (v : View) : Option String :=
  (v.get? originalFormat).bind Value.str?

@[simp] theorem pairs_ofList (ps : List Pair) : (ofList ps).pairs = ps :=
  Indexed.toList_ofList ps

theorem getElem?_pairs (v : View) (i : Nat) : v.pairs[i]? = v.at? i :=
  v.getElem?_toList i

@[simp] theorem toList_values (v : View) : v.values.toList = v.pairs.map Pair.value :=
  v.toList_map Pair.value

theorem pairs_zip {n : Nat} (names : Vector String n) (values : Vector Value n) :
    (zip names values).pairs = List.zipWith Pair.mk names.toList values.toList := by
  apply List.ext_getElem
  · simp [pairs, zip]
  · intro i h _
    have hi : i < n := by simpa [pairs, zip] using h
    apply Option.some.inj
    rw [← List.getElem?_eq_getElem, getElem?_pairs]
    simp [zip, hi]

theorem get?_eq_find? (v : View) (name : String) :
    v.get? name = (v.pairs.find? fun pair => pair.name == name).map Pair.value := by
  rw [get?, Indexed.find?_eq_find?_toList, pairs]

/-- The pairs that do not hold the template. -/
def fields (v : View) : List Pair :=
  v.pairs.filter fun pair => pair.name ≠ originalFormat

end View

end StructuredLog
