/-!
# Atoms of a template

The braces of a template are read from the left, and two equal braces in a row are one atom before
anything else is considered.
-/

namespace StructuredLog.Template

inductive Brace
  | opening
  | closing
  deriving DecidableEq, Repr

def Brace.char : Brace → Char
  | .opening => '{'
  | .closing => '}'

inductive Atom
  | plain (c : Char)
  | single (b : Brace)
  | double (b : Brace)
  deriving DecidableEq, Repr

namespace Atom

/-- The characters of the template that the atom stands for. -/
def source : Atom → List Char
  | .plain c => [c]
  | .single b => [b.char]
  | .double b => [b.char, b.char]

/-- Splits a template into its atoms. -/
def read : List Char → List Atom
  | [] => []
  | '{' :: '{' :: rest => .double .opening :: read rest
  | '}' :: '}' :: rest => .double .closing :: read rest
  | '{' :: rest => .single .opening :: read rest
  | '}' :: rest => .single .closing :: read rest
  | c :: rest => .plain c :: read rest

theorem flatMap_source_read (s : List Char) : (read s).flatMap source = s := by
  fun_induction read s with
  | case1 => rfl
  | case2 rest ih => simp [source, Brace.char, ih]
  | case3 rest ih => simp [source, Brace.char, ih]
  | case4 rest _ ih => simp [source, Brace.char, ih]
  | case5 rest _ ih => simp [source, Brace.char, ih]
  | case6 c rest _ _ _ _ ih => simp [source, ih]

end Atom

end StructuredLog.Template
