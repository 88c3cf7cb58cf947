import StructuredLog.Proofs.Template.Separation

/-!
# Patterns

A pattern is what a template says: a literal text, then slots, each a name with the literal text
behind it. Its source doubles every brace of its literals and names and puts each name between
single braces. Different patterns have different sources.
-/

namespace StructuredLog.Template

/-- The text with each of its braces doubled. -/
def escape (s : String) : String :=
  .ofList (s.toList.flatMap fun c => if c = '{' ∨ c = '}' then [c, c] else [c])

/-- A slot with the literal text up to the next slot. An opening brace at the front of the name, or
a closing one at the front of the literal, would be doubled and then merge with the brace before. -/
structure Slot where
  name : String
  literal : String
  name_ne_empty : name ≠ ""
  head?_name : name.toList.head? ≠ some '{'
  head?_literal : literal.toList.head? ≠ some '}'

structure Pattern where
  first : String
  slots : List Slot

/-- The name between its braces. -/
def Slot.span (slot : Slot) : String :=
  "\x7b" ++ escape slot.name ++ "\x7d"

def Slot.source (slot : Slot) : String :=
  slot.span ++ escape slot.literal

namespace Pattern

/-- The template that says what the pattern says. -/
def source (p : Pattern) : String :=
  escape p.first ++ String.join (p.slots.map Slot.source)

def names (p : Pattern) : List String :=
  p.slots.map Slot.name

/-- The pattern with a text in place of each slot. -/
def fill (p : Pattern) (texts : List String) : String :=
  p.first ++ String.join (List.zipWith (fun slot text => text ++ slot.literal) p.slots texts)

end Pattern

/-! ## Characters as atoms -/

namespace Atom

/-- The atom that a character of a literal or of a name is written as. -/
def ofChar (c : Char) : Atom :=
  if c = '{' then .double .opening else if c = '}' then .double .closing else .plain c

theorem ofChar_cases (c : Char) :
    (∃ b : Brace, c = b.char ∧ ofChar c = .double b) ∨
      ((∀ b : Brace, c ≠ b.char) ∧ ofChar c = .plain c) := by
  by_cases ho : c = '{'
  · exact .inl ⟨.opening, ho, by simp [ofChar, ho]⟩
  · by_cases hc : c = '}'
    · exact .inl ⟨.closing, hc, by simp [ofChar, hc]⟩
    · refine .inr ⟨?_, by simp [ofChar, ho, hc]⟩
      intro b
      cases b
      · exact ho
      · exact hc

theorem source_ofChar (c : Char) :
    (ofChar c).source = if c = '{' ∨ c = '}' then [c, c] else [c] := by
  by_cases ho : c = '{'
  · simp [ofChar, ho, source, Brace.char]
  · by_cases hc : c = '}' <;> simp [ofChar, ho, hc, source, Brace.char]

theorem head?_source_ofChar (c : Char) : (ofChar c).source.head? = some c := by
  rw [source_ofChar]
  split <;> rfl

theorem ofChar_ne_single (c : Char) (b : Brace) : ofChar c ≠ .single b := by
  unfold ofChar
  split
  · simp
  · split <;> simp

theorem ofChar_injective : Function.Injective ofChar := by
  intro c d h
  apply Option.some.inj
  rw [← head?_source_ofChar, h, head?_source_ofChar]

/-- Apart from single braces, only characters are read as atoms. -/
theorem Precedes.ofChar_or_single {a : Atom} {rest : List Char} (h : a.Precedes rest) :
    (∃ c, a = ofChar c) ∨ ∃ b, a = .single b := by
  cases a with
  | plain c =>
    have ho : c ≠ '{' := h .opening
    have hc : c ≠ '}' := h .closing
    exact .inl ⟨c, by simp [ofChar, ho, hc]⟩
  | single b => exact .inr ⟨b, rfl⟩
  | double b => exact .inl ⟨b.char, by cases b <;> rfl⟩

/-- The atoms of an escaped text. -/
def quoting (s : String) : List Atom :=
  s.toList.map ofChar

theorem quoting_ofList_cons (c : Char) (cs : List Char) :
    quoting (.ofList (c :: cs)) = ofChar c :: quoting (.ofList cs) := by
  simp [quoting]

theorem flatMap_source_quoting (s : String) :
    (quoting s).flatMap source = (escape s).toList := by
  simp only [quoting, escape, String.toList_ofList, List.flatMap_map, source_ofChar]

theorem head?_source_quoting (s : String) (rest : List Char) :
    ((quoting s).flatMap source ++ rest).head? = s.toList.head?.or rest.head? := by
  unfold quoting
  cases s.toList with
  | nil => simp
  | cons c cs => simp [List.head?_append, head?_source_ofChar]

theorem separated_quoting (s : String) (rest : List Char) : Separated (quoting s) rest := by
  unfold quoting
  induction s.toList with
  | nil => trivial
  | cons c cs ih =>
    refine ⟨?_, ih⟩
    obtain ⟨b, -, h⟩ | ⟨hc, h⟩ := ofChar_cases c
    · rw [h]
      trivial
    · rw [h]
      exact hc

end Atom

/-! ## Patterns as atoms -/

open Atom

def Slot.atoms (slot : Slot) : List Atom :=
  .single .opening :: (quoting slot.name ++ .single .closing :: quoting slot.literal)

def Pattern.atoms (p : Pattern) : List Atom :=
  quoting p.first ++ p.slots.flatMap Slot.atoms

theorem Slot.flatMap_source_atoms (slot : Slot) :
    slot.atoms.flatMap Atom.source = slot.source.toList := by
  simp [atoms, source, span, Atom.source, Brace.char, flatMap_source_quoting]

theorem Pattern.flatMap_source_atoms (p : Pattern) :
    p.atoms.flatMap Atom.source = p.source.toList := by
  have h (slots : List Slot) : (slots.flatMap Slot.atoms).flatMap Atom.source =
      (String.join (slots.map Slot.source)).toList := by
    induction slots with
    | nil => rfl
    | cons slot slots ih => simp [Slot.flatMap_source_atoms, ih]
  simp [atoms, source, flatMap_source_quoting, h]

/-- Only the closing brace of a slot without literal can merge with what stands behind it. -/
theorem Slot.separated_atoms (slot : Slot) {rest : List Char}
    (h : slot.literal = "" → rest.head? ≠ some '}') : Separated slot.atoms rest := by
  refine ⟨?_, ?_⟩
  · show _ ≠ some '{'
    rw [List.flatMap_append, List.append_assoc, head?_source_quoting]
    cases hn : slot.name.toList.head? with
    | none => simp [Atom.source, Brace.char]
    | some c => simpa [hn] using slot.head?_name
  · rw [separated_append]
    refine ⟨separated_quoting _ _, ?_, separated_quoting _ _⟩
    show _ ≠ some '}'
    rw [head?_source_quoting]
    cases hl : slot.literal.toList.head? with
    | none =>
      have hempty : slot.literal = "" := by simpa using hl
      simpa using h hempty
    | some c => simpa [hl] using slot.head?_literal

/-- Behind a slot that is not the last one stands another slot, so no closing brace. -/
theorem separated_slots (slots : List Slot) {rest : List Char}
    (h : ∀ slot, slots.getLast? = some slot → slot.literal = "" → rest.head? ≠ some '}') :
    Separated (slots.flatMap Slot.atoms) rest := by
  induction slots with
  | nil => trivial
  | cons slot slots ih =>
    rw [List.flatMap_cons, separated_append]
    cases slots with
    | nil => exact ⟨slot.separated_atoms (by simpa using h), trivial⟩
    | cons next slots =>
      refine ⟨slot.separated_atoms ?_, ih fun last hlast => h last ?_⟩
      · simp [Slot.atoms, Atom.source, Brace.char]
      · rwa [List.getLast?_cons_cons]

theorem Pattern.separated_atoms (p : Pattern) {rest : List Char}
    (h : ∀ slot, p.slots.getLast? = some slot → slot.literal = "" → rest.head? ≠ some '}') :
    Separated p.atoms rest := by
  rw [atoms, separated_append]
  exact ⟨separated_quoting _ _, separated_slots _ h⟩

theorem Pattern.read_source_append (p : Pattern) {rest : List Char}
    (h : ∀ slot, p.slots.getLast? = some slot → slot.literal = "" → rest.head? ≠ some '}') :
    read (p.source.toList ++ rest) = p.atoms ++ read rest := by
  rw [← flatMap_source_atoms]
  exact read_flatMap_source_append (p.separated_atoms h)

theorem Pattern.read_source (p : Pattern) : read p.source.toList = p.atoms := by
  rw [← flatMap_source_atoms]
  exact read_flatMap_source (p.separated_atoms (by simp))

/-! ## Different patterns -/

/-- Does the list begin with a single brace, if it begins at all? -/
def Unquoted (atoms : List Atom) : Prop :=
  ∀ a, atoms.head? = some a → ∃ b, a = .single b

theorem unquoted_slots (slots : List Slot) : Unquoted (slots.flatMap Slot.atoms) := by
  intro a h
  cases slots with
  | nil => simp at h
  | cons slot slots => exact ⟨.opening, by simpa [Slot.atoms, eq_comm] using h⟩

theorem unquoted_single (b : Brace) (atoms : List Atom) : Unquoted (.single b :: atoms) := by
  intro a h
  exact ⟨b, by simpa [eq_comm] using h⟩

/-- An escaped text ends where the first single brace stands. -/
theorem quoting_append_inj {s t : String} {xs ys : List Atom} (hx : Unquoted xs)
    (hy : Unquoted ys) (h : quoting s ++ xs = quoting t ++ ys) : s = t ∧ xs = ys := by
  suffices hl : s.toList = t.toList ∧ xs = ys from ⟨String.toList_inj.mp hl.1, hl.2⟩
  unfold quoting at h
  generalize s.toList = cs at h ⊢
  generalize t.toList = ds at h ⊢
  induction cs generalizing ds with
  | nil =>
    cases ds with
    | nil => exact ⟨rfl, h⟩
    | cons d ds =>
      obtain ⟨b, hb⟩ := hx (ofChar d) (by simp_all)
      exact absurd hb (ofChar_ne_single d b)
  | cons c cs ih =>
    cases ds with
    | nil =>
      obtain ⟨b, hb⟩ := hy (ofChar c) (by simp [← (show _ = ys from h)])
      exact absurd hb (ofChar_ne_single c b)
    | cons d ds =>
      simp only [List.map_cons, List.cons_append, List.cons.injEq] at h
      obtain ⟨hcs, hrest⟩ := ih ds h.2
      exact ⟨by rw [ofChar_injective h.1, hcs], hrest⟩

theorem slots_eq_of_atoms_eq {xs ys : List Slot}
    (h : xs.flatMap Slot.atoms = ys.flatMap Slot.atoms) : xs = ys := by
  induction xs generalizing ys with
  | nil =>
    cases ys with
    | nil => rfl
    | cons y ys => simp [Slot.atoms] at h
  | cons x xs ih =>
    cases ys with
    | nil => simp [Slot.atoms] at h
    | cons y ys =>
      simp only [List.flatMap_cons, Slot.atoms, List.cons_append, List.append_assoc,
        List.cons.injEq, true_and] at h
      obtain ⟨hname, hbehind⟩ := quoting_append_inj (unquoted_single _ _) (unquoted_single _ _) h
      obtain ⟨hliteral, hrest⟩ := quoting_append_inj (unquoted_slots _) (unquoted_slots _)
        (List.cons.inj hbehind).2
      have hslot : x = y := by
        cases x
        cases y
        simp_all
      rw [hslot, ih hrest]

theorem Pattern.source_injective : Function.Injective Pattern.source := by
  intro p q h
  have ha : p.atoms = q.atoms := by rw [← read_source, h, read_source]
  obtain ⟨hfirst, hatoms⟩ := quoting_append_inj (unquoted_slots _) (unquoted_slots _) ha
  have hslots := slots_eq_of_atoms_eq hatoms
  cases p
  cases q
  simp_all

end StructuredLog.Template
