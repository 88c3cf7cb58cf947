import StructuredLog.Proofs.Rendering.Writers
import StructuredLog.Proofs.View.Positions
import StructuredLog.Sink.TextLines

/-!
# Texts of scopes

A sink of text lines keeps for each scope what all its pairs write, also behind a value that fails.
Displayed by itself, the scope writes the same text, but ends where the first value fails.
-/

namespace StructuredLog

/-- What a pair writes into a string: its name, and its value as far as that gets. -/
def Pair.text (pair : Pair) : String :=
  pair.name ++ ": " ++ (Rendering.deliver Rendering.appended "" pair.value.rendering).1

theorem Pair.text_eq (pair : Pair) : pair.text = pair.name ++ ": " ++ pair.value.text := by
  rw [text, Rendering.deliver_appended, String.empty_append, Value.text]

/-- Texts behind others are put there one by one, each behind a separator. -/
theorem intercalate_append_eq {texts : List String} (h : texts ≠ []) (separator : String)
    (later : List String) : separator.intercalate (texts ++ later) =
      separator.intercalate texts ++ String.join (later.map (separator ++ ·)) := by
  induction later generalizing texts with
  | nil => simp
  | cons text later ih =>
    have hlast : separator.intercalate (texts ++ [text]) =
        separator.intercalate texts ++ (separator ++ text) := by
      rw [String.intercalate_append_of_ne_nil h (List.cons_ne_nil _ _),
        String.intercalate_singleton, String.append_assoc]
    rw [List.append_cons, ih (by simp), hlast, List.map_cons, String.join_cons,
      String.append_assoc]

/-! ## Displayed scopes -/

namespace Scope

theorem completes_pairRendering (pair : Pair) :
    Rendering.completes (pairRendering pair) = !pair.value.fails := by
  simp [pairRendering, Value.fails]

theorem text_pairRendering (pair : Pair) : Rendering.text (pairRendering pair) = pair.text := by
  rw [pairRendering, Rendering.text_write, Rendering.text_write, pair.text_eq, Value.text,
    String.append_assoc]

theorem pairsRendering_cons {pairs : List Pair} (h : pairs ≠ []) (pair : Pair) :
    pairsRendering (pair :: pairs) =
      pairRendering pair ++ .write ", " :: pairsRendering pairs := by
  obtain ⟨next, rest, rfl⟩ := List.exists_cons_of_ne_nil h
  simp [pairsRendering, List.intercalate_cons_cons]

/-- What is written ends with the last pair, or with the first that fails. -/
theorem text_pairsRendering {before after : List Pair} {last : Pair}
    (h : ∀ pair ∈ before, pair.value.fails = false)
    (hlast : after = [] ∨ last.value.fails = true) :
    Rendering.text (pairsRendering (before ++ last :: after)) =
      String.intercalate ", " ((before ++ [last]).map Pair.text) := by
  -- The pairs before the last one are written with their commas, one at a time.
  induction before with
  | nil =>
    by_cases hafter : after = []
    · simp [hafter, pairsRendering, text_pairRendering]
    · have hpair : Rendering.completes (pairRendering last) = false := by
        rw [completes_pairRendering, hlast.resolve_left hafter]
        rfl
      rw [List.nil_append, pairsRendering_cons hafter, Rendering.text_append_of_fails hpair,
        text_pairRendering]
      simp
  | cons pair before ih =>
    rw [List.forall_mem_cons] at h
    have hpair : Rendering.completes (pairRendering pair) = true := by
      rw [completes_pairRendering, h.1]
      rfl
    rw [List.cons_append, pairsRendering_cons (by simp), Rendering.text_append hpair,
      Rendering.text_write, ih h.2, text_pairRendering, List.cons_append, List.map_cons,
      String.intercalate_cons_of_ne_nil (by simp), String.append_assoc]

theorem completes_pairsRendering (pairs : List Pair) :
    Rendering.completes (pairsRendering pairs) = pairs.all fun pair => !pair.value.fails := by
  induction pairs with
  | nil => rfl
  | cons pair pairs ih =>
    by_cases h : pairs = []
    · simp [h, pairsRendering, completes_pairRendering]
    · rw [pairsRendering_cons h, Rendering.completes_append, Rendering.completes_write, ih,
        completes_pairRendering, List.all_cons]

/-- Without failures the whole text is written. -/
theorem deliver_pairsRendering {pairs : List Pair}
    (h : ∀ pair ∈ pairs, pair.value.fails = false) :
    Rendering.deliver Rendering.appended "" (pairsRendering pairs) =
      (String.intercalate ", " (pairs.map Pair.text), true) := by
  have hcompletes : Rendering.completes (pairsRendering pairs) = true := by
    rw [completes_pairsRendering, List.all_eq_true]
    intro pair hpair
    rw [h pair hpair]
    rfl
  rw [Rendering.deliver_appended, String.empty_append, hcompletes]
  rcases List.eq_nil_or_concat pairs with rfl | ⟨before, last, rfl⟩
  · rfl
  · rw [List.concat_eq_append] at h ⊢
    rw [text_pairsRendering (fun pair hpair => h pair (List.mem_append_left _ hpair)) (.inl rfl)]

theorem deliver_pairsRendering_of_fails {before after : List Pair} {pair : Pair}
    (hbefore : ∀ pair ∈ before, pair.value.fails = false) (h : pair.value.fails = true) :
    Rendering.deliver Rendering.appended "" (pairsRendering (before ++ pair :: after)) =
      (String.intercalate ", " ((before ++ [pair]).map Pair.text), false) := by
  have hcompletes : Rendering.completes (pairsRendering (before ++ pair :: after)) = false := by
    rw [completes_pairsRendering, List.all_append, List.all_cons, h]
    simp
  rw [Rendering.deliver_appended, String.empty_append, hcompletes,
    text_pairsRendering hbefore (.inr h)]

/-! ## Scopes and their texts -/

variable {arity : Nat}

theorem map_value_pairs_state (scope : Scope arity) (args : Vector Value arity) :
    (scope.state args).pairs.map Pair.value = args.toList := by
  rw [state, View.pairs_zip]
  exact View.map_value_zipWith (by simp)

/-- Displayed by itself, the scope writes this text, but no more of it than up to the place where
the first value fails. -/
structure WritesUntilFailure (scope : Scope arity) (args : Vector Value arity) (text : String) :
    Prop where
  deliver_eq : (∀ value ∈ args.toList, value.fails = false) →
    Rendering.deliver Rendering.appended "" (scope.rendering args) = (text, true)
  /-- The text goes on with the pairs behind the failure, which are not displayed. -/
  deliver_eq_of_fails : (∃ value ∈ args.toList, value.fails = true) →
    ∃ before pair after, (scope.state args).pairs = before ++ pair :: after ∧
      (∀ p ∈ before, p.value.fails = false) ∧ pair.value.fails = true ∧
      ∃ written, written = String.intercalate ", " ((before ++ [pair]).map Pair.text) ∧
        Rendering.deliver Rendering.appended "" (scope.rendering args) = (written, false) ∧
        text = written ++ String.join (after.map fun later => ", " ++ later.text)

theorem writesUntilFailure (scope : Scope arity) (args : Vector Value arity) :
    scope.WritesUntilFailure args
      (String.intercalate ", " ((scope.state args).pairs.map Pair.text)) := by
  have hvalues := scope.map_value_pairs_state args
  refine ⟨?_, ?_⟩
  · intro h
    apply deliver_pairsRendering
    intro pair hpair
    apply h
    rw [← hvalues]
    exact List.mem_map_of_mem hpair
  · rintro ⟨value, hvalue, hfails⟩
    rw [← hvalues, List.mem_map] at hvalue
    obtain ⟨pair, hpair, rfl⟩ := hvalue
    have hfind : ((scope.state args).pairs.find? fun pair => pair.value.fails).isSome := by
      rw [List.find?_isSome]
      exact ⟨pair, hpair, hfails⟩
    obtain ⟨first, hfirst⟩ := Option.isSome_iff_exists.mp hfind
    obtain ⟨hfails, before, after, hpairs, hbefore⟩ := List.find?_eq_some_iff_append.mp hfirst
    have hbefore : ∀ p ∈ before, p.value.fails = false := by simpa using hbefore
    refine ⟨before, first, after, hpairs, hbefore, hfails, _, rfl, ?_, ?_⟩
    · rw [rendering, hpairs, deliver_pairsRendering_of_fails hbefore hfails]
    · rw [hpairs, List.append_cons, List.map_append, intercalate_append_eq (by simp), List.map_map]
      rfl

end Scope

theorem TextLines.scopeText_eq_intercalate (v : View) :
    scopeText v = String.intercalate ", " (v.pairs.map Pair.text) := by
  have htext : Pair.text = fun pair => pair.name ++ ": " ++ pair.value.text := funext Pair.text_eq
  rw [scopeText, htext]

theorem TextLines.contents_beginScope (v : View) (s : TextLines) :
    (Sink.beginScope v s).2.scopes.contents =
      s.scopes.contents ++ [String.intercalate ", " (v.pairs.map Pair.text)] := by
  rw [← scopeText_eq_intercalate]
  exact OpenScopes.contents_push _ _

/-- A sink of text lines keeps for any pairs what each of them writes, with commas between them. A
scope that is opened there writes the same when it is displayed; only if some value fails it stops
where the first one does, and the kept text goes on. -/
theorem scope_texts_agree :
    (∀ (v : View) (s : TextLines), (Sink.beginScope v s).2.scopes.contents =
      s.scopes.contents ++ [String.intercalate ", " (v.pairs.map Pair.text)]) ∧
    ∀ {arity : Nat} (scope : Scope arity) (args : Vector Value arity) (s : TextLines),
      ∃ text, (scope.begin args s).2.scopes.contents = s.scopes.contents ++ [text] ∧
        scope.WritesUntilFailure args text := by
  refine ⟨TextLines.contents_beginScope, ?_⟩
  intro arity scope args s
  exact ⟨_, TextLines.contents_beginScope _ s, scope.writesUntilFailure args⟩

/-- The second of three values gives up half-way, and only the kept text has the third one. -/
theorem scope_texts_agree_half_value :
    let scope : Scope 3 := ⟨#v["a", "b", "c"]⟩
    let args : Vector Value 3 := #v[.str "x", .display ⟨["ha", "lf"], true⟩, .bool true]
    let s : TextLines := { device := .perfect }
    (scope.begin args s).2.scopes.contents = ["a: x, b: half, c: true"] ∧
      Rendering.deliver Rendering.appended "" (scope.rendering args) =
        ("a: x, b: half", false) := by
  intro scope args s
  have hpairs : (scope.state args).pairs =
      [⟨"a", .str "x"⟩, ⟨"b", .display ⟨["ha", "lf"], true⟩⟩, ⟨"c", .bool true⟩] :=
    View.pairs_zip scope.names args
  obtain ⟨text, hkept, hdisplayed⟩ := scope_texts_agree.2 scope args s
  have hfails : ∃ value ∈ args.toList, value.fails = true :=
    ⟨.display ⟨["ha", "lf"], true⟩, .tail _ (.head _), rfl⟩
  obtain ⟨before, pair, after, hsplit, hbefore, hpair, -, rfl, hwritten, rfl⟩ :=
    hdisplayed.deliver_eq_of_fails hfails
  rw [hpairs] at hsplit
  rcases before with _ | ⟨first, _ | ⟨second, before⟩⟩
  · cases hsplit
    cases hpair
  · cases hsplit
    exact ⟨hkept, hwritten⟩
  · simp only [List.cons_append, List.cons.injEq] at hsplit
    obtain ⟨-, rfl, -⟩ := hsplit
    cases hbefore _ (.tail _ (.head _))

end StructuredLog
