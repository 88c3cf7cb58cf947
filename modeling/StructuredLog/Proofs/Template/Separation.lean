import StructuredLog.Template.Atom

/-!
# Reading back what atoms stand for

A list of atoms is read back from its source exactly if no atom merges with what stands behind it.
What may stand behind the last atom is a matter of a single character.
-/

namespace StructuredLog.Template.Atom

/-! ## Atoms before a text -/

/-- Is the atom read as it is when `rest` stands behind it? -/
def Precedes : Atom → List Char → Prop
  | .plain c, _ => ∀ b : Brace, c ≠ b.char
  | .single b, rest => rest.head? ≠ some b.char
  | .double _, _ => True

/-- Is each of the atoms read as it is when `rest` stands behind the last? -/
def Separated : List Atom → List Char → Prop
  | [], _ => True
  | a :: atoms, rest => a.Precedes (atoms.flatMap source ++ rest) ∧ Separated atoms rest

theorem read_source_append {a : Atom} {rest : List Char} (h : a.Precedes rest) :
    read (a.source ++ rest) = a :: read rest := by
  cases a with
  | plain c =>
    have ho : c ≠ '{' := h .opening
    have hc : c ≠ '}' := h .closing
    simp [source, read, ho, hc]
  | single b =>
    cases rest with
    | nil => cases b <;> rfl
    | cons c rest =>
      have hc : c ≠ b.char := by simpa [Precedes] using h
      cases b <;> simp_all [source, read, Brace.char]
  | double b => cases b <;> simp [source, read, Brace.char]

theorem read_flatMap_source_append {atoms : List Atom} {rest : List Char}
    (h : Separated atoms rest) : read (atoms.flatMap source ++ rest) = atoms ++ read rest := by
  induction atoms with
  | nil => rfl
  | cons a atoms ih =>
    rw [List.flatMap_cons, List.append_assoc, read_source_append h.1, ih h.2, List.cons_append]

theorem read_flatMap_source {atoms : List Atom} (h : Separated atoms []) :
    read (atoms.flatMap source) = atoms := by
  simpa [read] using read_flatMap_source_append h

theorem separated_read (s : List Char) : Separated (read s) [] := by
  fun_induction read s with
  | case1 => trivial
  | case2 rest ih => exact ⟨trivial, ih⟩
  | case3 rest ih => exact ⟨trivial, ih⟩
  | case4 rest h ih =>
    refine ⟨?_, ih⟩
    rw [flatMap_source_read]
    cases rest <;> simp_all [Precedes, Brace.char]
  | case5 rest h ih =>
    refine ⟨?_, ih⟩
    rw [flatMap_source_read]
    cases rest <;> simp_all [Precedes, Brace.char]
  | case6 c rest _ _ ho hc ih =>
    refine ⟨?_, ih⟩
    intro b
    cases b <;> simp_all [Brace.char]

/-! ## Parts of a list -/

theorem separated_append (xs ys : List Atom) (rest : List Char) :
    Separated (xs ++ ys) rest ↔
      Separated xs (ys.flatMap source ++ rest) ∧ Separated ys rest := by
  induction xs with
  | nil => simp [Separated]
  | cons a xs ih => simp [Separated, ih, and_assoc]

/-- A text that begins with no brace, or with the same brace, may take the place of another. -/
theorem Separated.of_head {atoms : List Atom} {rest rest' : List Char}
    (h : Separated atoms rest)
    (hr : ∀ b : Brace, rest'.head? = some b.char → rest.head? = some b.char) :
    Separated atoms rest' := by
  induction atoms with
  | nil => trivial
  | cons a atoms ih =>
    refine ⟨?_, ih h.2⟩
    cases a with
    | plain c => exact h.1
    | double b => trivial
    | single b =>
      intro hb
      apply h.1
      rw [List.head?_append] at hb ⊢
      cases hs : (atoms.flatMap source).head? with
      | none => simpa using hr b (by simpa [hs] using hb)
      | some c => simpa [hs] using hb

end StructuredLog.Template.Atom
