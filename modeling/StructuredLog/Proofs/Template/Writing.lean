import Mathlib.Data.List.SplitBy
import StructuredLog.Proofs.Rendering.Writers
import StructuredLog.Proofs.Template.Slots

/-!
# Writing templates

A template goes into a writer piece by piece: its literals as stretches that each end with a brace
or with the literal, and the values of its slots as they write themselves. A writer that refuses a
piece has taken those before it, and is offered no more.
-/

namespace StructuredLog

/-- What a value writes, up to its failure if it fails. -/
def Value.pieces (v : Value) : List String :=
  Rendering.pieces v.rendering

namespace Template

/-! ## Literals -/

/-- The stretches of a literal, which is cut behind each of its braces. -/
def stretches (literal : String) : List String :=
  (literal.toList.splitBy fun c _ => c ≠ '{' ∧ c ≠ '}').map .ofList

example : stretches "a\x7bb\x7d\x7dc" = ["a\x7b", "b\x7d", "\x7d", "c"] := by decide

/-- Has the text no braces? -/
def Plain (text : String) : Prop :=
  ∀ c ∈ text.toList, c ≠ '{' ∧ c ≠ '}'

theorem plain_empty : Plain "" := by
  simp [Plain]

namespace Plain

variable {text : String} {c : Char}

theorem push (h : Plain text) (hc : ¬(c = '{' ∨ c = '}')) : Plain (text.push c) := by
  intro d hd
  rw [String.toList_push, List.mem_append, List.mem_singleton] at hd
  rcases hd with hd | rfl
  · exact h d hd
  · exact not_or.mp hc

theorem splitBy_push (h : Plain text) (c : Char) :
    (text.push c).toList.splitBy (fun c _ => c ≠ '{' ∧ c ≠ '}') = [text.toList ++ [c]] := by
  have hchain : (text.toList ++ [c]).IsChain
      fun c _ => decide (c ≠ '{' ∧ c ≠ '}') = true := by
    unfold Plain at h
    generalize text.toList = cs at h ⊢
    induction cs with
    | nil => exact List.isChain_singleton c
    | cons d cs ih =>
      rw [List.cons_append, List.isChain_cons]
      refine ⟨fun _ _ => decide_eq_true (h d (List.mem_cons_self ..)), ?_⟩
      exact ih fun e he => h e (List.mem_cons_of_mem _ he)
  rw [String.toList_push, List.splitBy_of_isChain (by simp) hchain]

theorem stretches_push (h : Plain text) (c : Char) :
    stretches (text.push c) = [text.push c] := by
  rw [stretches, h.splitBy_push, ← String.toList_push, List.map_singleton, String.ofList_toList]

theorem stretches_eq (h : Plain text) :
    stretches text = if text.isEmpty then [] else [text] := by
  rcases List.eq_nil_or_concat text.toList with hnil | ⟨cs, c, hcs⟩
  · obtain rfl : text = "" := by simpa using hnil
    rfl
  · obtain rfl : text = (String.ofList cs).push c := String.toList_inj.mp (by simp [hcs])
    have hinit : Plain (.ofList cs) := by
      intro d hd
      rw [String.toList_ofList] at hd
      exact h d (by simp [hd])
    rw [hinit.stretches_push, if_neg (by simp)]

/-- A brace ends a stretch, whatever stands behind it. -/
theorem stretches_push_append (h : Plain text) (hc : c = '{' ∨ c = '}') (behind : String) :
    stretches (text.push c ++ behind) = text.push c :: stretches behind := by
  have hcut : ((text.push c).toList ++ behind.toList).splitBy (fun c _ => c ≠ '{' ∧ c ≠ '}') =
      (text.push c).toList.splitBy (fun c _ => c ≠ '{' ∧ c ≠ '}') ++
        behind.toList.splitBy (fun c _ => c ≠ '{' ∧ c ≠ '}') := by
    -- Only the last character of the front counts at the cut, and it is the brace.
    apply List.splitBy_append
    intro d hd e _
    obtain rfl : c = d := by simpa using hd
    rcases hc with rfl | rfl <;> rfl
  rw [stretches, String.toList_append, hcut, h.splitBy_push, ← String.toList_push,
    List.singleton_append, List.map_cons, String.ofList_toList]
  rfl

end Plain

/-! ## Segments -/

/-- What a segment writes, up to its failure if it fails. -/
def Segment.pieces (values : Indexed Value) (segment : Segment) : List String :=
  Rendering.pieces (segment.rendering values)

theorem pieces_literal (values : Indexed Value) (start : Nat) (text : String) :
    (literal start text).flatMap (Segment.pieces values) =
      if text.isEmpty then [] else [text] := by
  rw [literal]
  split <;> simp [Segment.pieces, Segment.rendering]

/-- The segments of a literal are its stretches, each of them one piece. -/
theorem pieces_literalSegments (values : Indexed Value) (offset start : Nat) {before : String}
    (h : Plain before) (cs : List Char) :
    (Scan.literalSegments offset start before cs).flatMap (Segment.pieces values) =
      stretches (before ++ .ofList cs) := by
  induction cs generalizing offset start before with
  | nil =>
    rw [Scan.literalSegments, pieces_literal, String.ofList_nil, String.append_empty,
      h.stretches_eq]
  | cons c cs ih =>
    rw [Scan.literalSegments, ← Scan.push_append_ofList]
    split
    · rename_i hc
      rw [List.flatMap_append, pieces_literal, ih _ _ plain_empty, h.stretches_push_append hc]
      simp
    · rename_i hc
      exact ih _ _ (h.push hc)

/-- The pieces of slots that take the values from `index` on. -/
theorem pieces_slotSegments (values : Indexed Value) (offset index : Nat) (slots : List Slot)
    (hcount : index + slots.length ≤ values.count) :
    (Scan.slotSegments offset index slots).flatMap (Segment.pieces values) =
      (List.zipWith (fun slot pieces => pieces ++ stretches slot.literal) slots
        ((values.toList.drop index).map Value.pieces)).flatten := by
  induction slots generalizing offset index with
  | nil => rfl
  | cons slot slots ih =>
    rw [List.length_cons] at hcount
    have hindex : index < values.toList.length := by
      rw [values.length_toList]
      omega
    have hslot : Segment.pieces values (.slot index) = values.toList[index].pieces := by
      rw [Segment.pieces, Segment.rendering, ← values.getElem?_toList,
        List.getElem?_eq_getElem hindex]
      rfl
    have hliteral := pieces_literalSegments values (offset + Text.byteSize slot.span.toList)
      (offset + Text.byteSize slot.span.toList) plain_empty slot.literal.toList
    rw [Scan.slotSegments, List.flatMap_cons, List.flatMap_append, hslot, hliteral,
      ih _ (index + 1) (by omega), List.drop_eq_getElem_cons hindex, List.map_cons,
      List.zipWith_cons_cons, List.flatten_cons, List.append_assoc, String.empty_append,
      String.ofList_toList]

/-! ## The pieces of a template -/

/-- The pieces of a pattern, with those of a value in place of each slot. -/
def Pattern.pieces (p : Pattern) (values : List (List String)) : List String :=
  stretches p.first ++
    (List.zipWith (fun slot pieces => pieces ++ stretches slot.literal) p.slots values).flatten

theorem Pattern.pieces_segmentsRendering {p : Pattern} {values : Indexed Value}
    (hcount : p.slots.length ≤ values.count)
    (h : Rendering.completes (p.compiled.segmentsRendering values) = true) :
    Rendering.pieces (p.compiled.segmentsRendering values) =
      p.pieces (values.toList.map Value.pieces) := by
  have hsegments : ∀ segment ∈ p.segments,
      Rendering.completes (segment.rendering values) = true := by
    rw [segmentsRendering, Rendering.completes_flatMap] at h
    exact List.all_eq_true.mp h
  have hfirst := pieces_literalSegments values 0 0 plain_empty p.first.toList
  have hslots := pieces_slotSegments values (Text.byteSize (escape p.first).toList) 0 p.slots
    (by omega)
  calc Rendering.pieces (p.compiled.segmentsRendering values)
      = p.segments.flatMap (Segment.pieces values) := Rendering.pieces_flatMap hsegments
    _ = p.pieces (values.toList.map Value.pieces) := by
      rw [segments, List.flatMap_append, hfirst, hslots, pieces]
      simp

/-! ## Writers that refuse -/

/-- The pieces that have a character. -/
def nonEmpty (pieces : List String) : List String :=
  pieces.filter (· ≠ "")

/-- What a template with enough values comes to in a writer that gets these offers, and succeeds or
fails. The pieces of its rendering are those that a writer gets that takes everything. -/
structure EndsAtRefusal {σ : Type} (t : Template) (values : Indexed Value)
    (write : Taker String Unit σ) (offers : List (Offer String Unit))
    (result : Except Unit Unit) : Prop where
  taken_isPrefix : Offer.taken offers <+: Rendering.pieces (t.rendering values)
  nonEmpty_isPrefix :
    nonEmpty (Offer.taken offers) <+: nonEmpty (Rendering.pieces (t.rendering values))
  length_of_refused : ∀ k piece, offers[k]? = some (piece, .error ()) → offers.length = k + 1
  result_eq_ok_iff : result = .ok () ↔
    Offer.taken offers = Rendering.pieces (t.rendering values) ∧
      ∀ v ∈ values.toList.take t.arity, v.fails = false
  result_eq_ok_iff_nonEmpty : (∀ s, ((write "").run.run s).1 = .ok ()) →
    (result = .ok () ↔
      nonEmpty (Offer.taken offers) = nonEmpty (Rendering.pieces (t.rendering values)) ∧
        ∀ v ∈ values.toList.take t.arity, v.fails = false)
  text_isPrefix : (∀ v ∈ values.toList.take t.arity, v.fails = false) →
    ∃ text rest, t.render values = .ok text ∧ text = String.join (Offer.taken offers) ++ rest

theorem render_of_completes {t : Template} {values : Indexed Value}
    (hcount : t.arity ≤ values.count) (h : Rendering.completes (t.rendering values) = true) :
    t.render values = .ok (String.join (Rendering.pieces (t.rendering values))) := by
  rw [rendering_eq_segmentsRendering hcount] at h ⊢
  exact render_eq_ok hcount (Rendering.toText_eq_some_iff.mpr ⟨h, rfl⟩)

theorem endsAtRefusal_of_offering {σ : Type} {text : String} {t : Template}
    (h : compile text = .ok t) {values : Indexed Value} (hcount : t.arity ≤ values.count)
    {write : Taker String Unit σ} {s s' : σ} {offers : List (Offer String Unit)}
    {answer : Except Unit Unit}
    (hoffering : Offering write s (Rendering.pieces (t.rendering values)) offers answer s') :
    t.EndsAtRefusal values write offers
      (if Rendering.completes (t.rendering values) then answer else .error ()) := by
  have hcompletes := completes_rendering_iff h hcount
  -- A rendering that fails ends with an error, even if the writer takes everything.
  have hresult (p : Prop) (hp : answer = .ok () ↔ p) :
      (if Rendering.completes (t.rendering values) then answer else .error ()) = .ok () ↔
        p ∧ ∀ v ∈ values.toList.take t.arity, v.fails = false := by
    rw [← hcompletes, ← hp]
    split <;> simp [*]
  refine ⟨hoffering.taken_isPrefix, hoffering.taken_isPrefix.filter _, ?_,
    hresult _ hoffering.result_eq_ok_iff, ?_, ?_⟩
  · intro k piece hk
    exact (hoffering.of_error hk).1
  · intro hempty
    refine hresult _ (hoffering.result_eq_ok_iff_filter _ ?_)
    intro piece s e he
    have hne : piece ≠ "" := by
      rintro rfl
      rw [hempty s] at he
      cases he
    simpa using hne
  · intro hfails
    obtain ⟨rest, hrest⟩ := hoffering.taken_isPrefix
    refine ⟨_, String.join rest, render_of_completes hcount (hcompletes.mpr hfails), ?_⟩
    rw [← hrest, String.join_append]

/-- A compiled template with enough values offers its pieces to a writer in turn until one is
refused: what the writer takes is a prefix of what a writer gets that takes everything, and nothing
is offered behind the first refusal. It succeeds exactly if all is taken and no value of a slot
fails; then each stretch of a literal was one piece, and so was each piece of a value. -/
theorem writes_until_refusal {text : String} {t : Template} (h : compile text = .ok t)
    {values : Indexed Value} (hcount : t.arity ≤ values.count) :
    Rendering.deliver (fun held piece => some (held ++ [piece])) [] (t.rendering values) =
      (Rendering.pieces (t.rendering values), Rendering.completes (t.rendering values)) ∧
    (∀ {σ : Type} (accept : σ → String → Option σ) (s : σ),
      (Rendering.writeTo (Rendering.keeping accept) (t.rendering values)).run.run s =
        (if (Rendering.deliver accept s (t.rendering values)).2 then .ok () else .error (),
          (Rendering.deliver accept s (t.rendering values)).1)) ∧
    ∃ p : Pattern, p.source = text ∧
      ∀ {σ : Type} (write : Taker String Unit σ) (s : σ), ∃ offers result s',
        (Rendering.writeTo write (t.rendering values)).run.run s = (result, s') ∧
        (Rendering.writeTo write.noting (t.rendering values)).run.run (s, []) =
          (result, s', offers) ∧
        t.EndsAtRefusal values write offers result ∧
        (result = .ok () → Offer.taken offers = p.pieces (values.toList.map Value.pieces)) := by
  obtain ⟨p, hp, rfl⟩ := compile_eq_ok_iff.mp h
  refine ⟨Rendering.deliver_concat [] _, ?_, p, hp, ?_⟩
  · intro σ accept s
    exact Rendering.run_writeTo_keeping accept s _
  intro σ write s
  obtain ⟨offers, answer, s', hoffering⟩ :=
    exists_offering write s (Rendering.pieces (p.compiled.rendering values))
  have hends := endsAtRefusal_of_offering h hcount hoffering
  refine ⟨offers, _, s', Rendering.run_writeTo hoffering.run_forM, ?_, hends, ?_⟩
  · exact Rendering.run_writeTo (hoffering.run_forM_noting [])
  · intro hok
    obtain ⟨htaken, hfails⟩ := hends.result_eq_ok_iff.mp hok
    have hcompletes := (completes_rendering_iff h hcount).mpr hfails
    rw [rendering_eq_segmentsRendering hcount] at hcompletes htaken
    rw [p.arity_compiled] at hcount
    rw [htaken, Pattern.pieces_segmentsRendering hcount hcompletes]

/-- A writer that holds five pieces takes the sign of a number and refuses its digits. -/
theorem writes_until_refusal_full :
    let values : Indexed Value := .ofList [.display ⟨["par", "t"], false⟩, .number (.int (-5))]
    let write : Taker String Unit (List String) := Rendering.keeping (Rendering.keepUpTo (some 5))
    ∃ t offers, compile "é\x7b\x7b\x7ba\x7d=\x7bb\x7d" = .ok t ∧ t.arity ≤ values.count ∧
      (Rendering.writeTo write (t.rendering values)).run.run [] =
        (.error (), ["é\x7b", "par", "t", "=", "-"]) ∧
      t.EndsAtRefusal values write offers (.error ()) ∧
      Offer.taken offers = ["é\x7b", "par", "t", "=", "-"] ∧ offers[5]? = some ("5", .error ()) := by
  intro values write
  have h : compile "é\x7b\x7b\x7ba\x7d=\x7bb\x7d" = .ok ⟨"é\x7b\x7b\x7ba\x7d=\x7bb\x7d",
      [.literal 0 "é\x7b", .slot 0, .literal 7 "=", .slot 1], ["a", "b"]⟩ := rfl
  have hcount : 2 ≤ values.count := by decide
  obtain ⟨-, -, p, -, hwrites⟩ := writes_until_refusal h hcount
  obtain ⟨offers, result, s', hrun, hnoting, hends, -⟩ := hwrites write []
  cases hnoting
  exact ⟨_, _, h, hcount, hrun, hends, rfl, rfl⟩

end Template

end StructuredLog
