import Mathlib.Data.List.Induction
import StructuredLog.Proofs.Sink.Run

/-!
# Runs without the steps that failed

The steps of a run that failed can be left out of it. The openings among them had numbers, so the
scopes that were opened get other numbers then, and a guard that is dropped is that of the same
scope under its new number. What the steps say about scopes stays as it was, but for the numbers.
-/

namespace StructuredLog

section Spared

variable {κ : Type} (failed : Step κ → Bool)

/-! ## Leaving steps out -/

/-- The openings of a run that did not fail. -/
def succeeded (steps : List (Step κ)) : List (Opening κ) :=
  (openings steps).filter fun o => !failed (.enter o.view)

/-- The number of a scope when the failed openings are left out: how many others came before it. -/
def renumbered? (steps : List (Step κ)) (number : Nat) : Option Nat :=
  ((succeeded failed steps).map Opening.number).idxOf? number

/-- The step where the failed ones of `earlier` have been left out, unless it is one of them. There
is no guard to drop of a scope that could not be opened. -/
def Step.spared? (earlier : List (Step κ)) : Step κ → Option (Step κ)
  | .leave number => (renumbered? failed earlier number).map .leave
  | st => if failed st then none else some st

/-- What is left of steps that come behind others. -/
def sparedFrom (earlier : List (Step κ)) : List (Step κ) → List (Step κ)
  | [] => []
  | st :: rest => (st.spared? failed earlier).toList ++ sparedFrom (earlier ++ [st]) rest

/-- The run without the steps that failed. -/
def spared (steps : List (Step κ)) : List (Step κ) :=
  sparedFrom failed [] steps

theorem sparedFrom_append (earlier xs ys : List (Step κ)) :
    sparedFrom failed earlier (xs ++ ys) =
      sparedFrom failed earlier xs ++ sparedFrom failed (earlier ++ xs) ys := by
  induction xs generalizing earlier with
  | nil => simp [sparedFrom]
  | cons st xs ih => simp [sparedFrom, ih]

theorem spared_append_singleton (steps : List (Step κ)) (st : Step κ) :
    spared failed (steps ++ [st]) = spared failed steps ++ (st.spared? failed steps).toList := by
  simp [spared, sparedFrom_append, sparedFrom]

theorem Step.spared?_of_not_leaves (earlier : List (Step κ)) {st : Step κ}
    (h : ∀ number, st.leaves number = false) :
    st.spared? failed earlier = if failed st then none else some st := by
  cases st with
  | leave number => simpa [leaves] using h number
  | _ => rfl

/-- Dropping a guard, or anything else. -/
theorem Step.eq_leave_or_not_leaves (st : Step κ) :
    (∃ number, st = .leave number) ∨ ∀ number, st.leaves number = false := by
  cases st with
  | leave number => exact .inl ⟨number, rfl⟩
  | _ => exact .inr fun _ => rfl

variable {failed}

theorem Step.spared?_eq_none {earlier : List (Step κ)} {st : Step κ}
    (h : st.spared? failed earlier = none) :
    failed st = true ∨ ∃ number, st = .leave number ∧ renumbered? failed earlier number = none := by
  obtain ⟨number, rfl⟩ | hst := st.eq_leave_or_not_leaves
  · exact .inr ⟨number, rfl, by simpa [spared?] using h⟩
  · rw [spared?_of_not_leaves failed earlier hst] at h
    exact .inl (by simpa using h)

theorem Step.spared?_eq_some {earlier : List (Step κ)} {st st' : Step κ}
    (h : st.spared? failed earlier = some st') :
    (failed st = false ∧ st' = st) ∨ ∃ number k, st = .leave number ∧ st' = .leave k := by
  obtain ⟨number, rfl⟩ | hst := st.eq_leave_or_not_leaves
  · obtain ⟨k, -, rfl⟩ := Option.map_eq_some_iff.mp h
    exact .inr ⟨number, k, rfl, rfl⟩
  · rw [spared?_of_not_leaves failed earlier hst] at h
    obtain ⟨hfails, rfl⟩ : failed st = false ∧ st = st' := by simpa using h
    exact .inl ⟨hfails, rfl⟩

/-- A step that is kept logs the same entry. -/
theorem Step.entry?_of_spared?_eq_some {earlier : List (Step κ)} {st st' : Step κ}
    (h : st.spared? failed earlier = some st') : st'.entry? = st.entry? := by
  obtain ⟨-, rfl⟩ | ⟨number, k, rfl, rfl⟩ := Step.spared?_eq_some h <;> rfl

variable (failed)

/-! ## The openings that are left -/

theorem Step.eq_enter_of_view?_eq_some {st : Step κ} {v : View} (h : st.view? = some v) :
    st = .enter v := by
  cases st with
  | enter v' =>
    cases h
    rfl
  | _ => cases h

theorem succeeded_append_singleton (steps : List (Step κ)) (st : Step κ) :
    succeeded failed (steps ++ [st]) = (succeeded failed steps).map (Opening.followedBy [st]) ++
      (if failed st then none
        else st.view?.map fun v => ⟨(openings steps).length, v, []⟩).toList := by
  rw [succeeded, openings_append_singleton, List.filter_append, List.filter_map]
  congr 1
  cases hv : st.view? with
  | none => simp
  | some v => cases hfails : failed st <;> simp [← st.eq_enter_of_view?_eq_some hv, hfails]

theorem nodup_map_number_succeeded (steps : List (Step κ)) :
    ((succeeded failed steps).map Opening.number).Nodup :=
  (nodup_map_number_openings steps).sublist (List.filter_sublist.map _)

theorem number_getElem_openings (steps : List (Step κ)) (i : Nat)
    (h : i < (openings steps).length) : (openings steps)[i].number = i := by
  have hi : ((openings steps).map Opening.number)[i]? = some i := by
    rw [map_number_openings, List.getElem?_range h]
  simpa [h] using hi

/-- The scope that is found under a number is the one that has it. -/
theorem number_eq_iff_of_renumbered? {steps : List (Step κ)} {number k : Nat}
    (h : renumbered? failed steps number = some k) {i : Nat}
    (hi : i < (succeeded failed steps).length) :
    (succeeded failed steps)[i].number = number ↔ i = k := by
  rw [renumbered?, List.idxOf?_eq_some_iff] at h
  obtain ⟨hk, rfl, -⟩ := h
  have hi' : i < ((succeeded failed steps).map Opening.number).length := by simpa using hi
  have hinj : ((succeeded failed steps).map Opening.number)[i] =
      ((succeeded failed steps).map Opening.number)[k] ↔ i = k :=
    (nodup_map_number_succeeded failed steps).getElem_inj_iff
  simpa only [List.getElem_map] using hinj

variable (marks : Step κ → Bool)

/-- What counts about an opening beside its number: what was opened, whether its guard was dropped,
and whether a certain step came later. -/
def Opening.traits (o : Opening κ) : View × Bool × Bool :=
  (o.view, o.dropped, o.later.any marks)

theorem Opening.traits_followedBy (st : Step κ) (o : Opening κ) :
    (o.followedBy [st]).traits marks =
      (o.view, o.dropped || st.leaves o.number, o.later.any marks || marks st) := by
  rw [traits, dropped_followedBy]
  simp [followedBy]

variable {failed marks}

/-- A step that drops no guard means the same for all openings. -/
theorem Opening.map_traits_followedBy {st : Step κ} (h : ∀ number, st.leaves number = false)
    (os : List (Opening κ)) : (os.map (Opening.followedBy [st])).map (Opening.traits marks) =
      (os.map (Opening.traits marks)).map fun t => (t.1, t.2.1, t.2.2 || marks st) := by
  rw [List.map_map, List.map_map]
  refine List.map_congr_left fun o _ => ?_
  rw [Function.comp_apply, traits_followedBy, h, Bool.or_false]
  rfl

/-- A guard that is dropped is of the same opening, whether the failed steps are left out or not. -/
theorem map_traits_leave {steps : List (Step κ)} {os : List (Opening κ)} {number k : Nat}
    (hleave : ∀ number, marks (.leave number) = false)
    (hk : renumbered? failed steps number = some k)
    (hos : ∀ i (h : i < os.length), os[i].number = i)
    (h : os.map (Opening.traits marks) = (succeeded failed steps).map (Opening.traits marks)) :
    (os.map (Opening.followedBy [.leave k])).map (Opening.traits marks) =
      ((succeeded failed steps).map (Opening.followedBy [.leave number])).map
        (Opening.traits marks) := by
  have hlength : os.length = (succeeded failed steps).length := by
    simpa using congrArg List.length h
  apply List.ext_getElem (by simpa using hlength)
  intro i hi hi'
  simp only [List.length_map] at hi hi'
  have htraits : os[i].traits marks = (succeeded failed steps)[i].traits marks := by
    simpa [hi, hi'] using congrArg (·[i]?) h
  obtain ⟨hview, hdropped, hmarks⟩ : _ ∧ _ ∧ _ := by simpa [Opening.traits] using htraits
  have hsame : Step.leaves os[i].number (.leave k : Step κ) =
      Step.leaves (succeeded failed steps)[i].number (.leave number : Step κ) := by
    have hnumber := number_eq_iff_of_renumbered? failed hk hi'
    simp only [Step.leaves, hos i hi, hnumber]
  simp only [List.getElem_map, Opening.traits_followedBy, hview, hdropped, hmarks, hleave, hsame]

/-- A guard that is dropped is of no opening if its own one failed. -/
theorem map_traits_leave_of_eq_none {steps : List (Step κ)} {number : Nat}
    (hleave : ∀ number, marks (.leave number) = false)
    (hk : renumbered? failed steps number = none) :
    ((succeeded failed steps).map (Opening.followedBy [.leave number])).map (Opening.traits marks) =
      (succeeded failed steps).map (Opening.traits marks) := by
  have hnumber : ∀ o ∈ succeeded failed steps, o.number ≠ number := by
    simpa [renumbered?] using hk
  rw [List.map_map]
  refine List.map_congr_left fun o ho => ?_
  rw [Function.comp_apply, Opening.traits_followedBy]
  simp [Opening.traits, Step.leaves, hnumber o ho, hleave]

/-- The openings that are left are those that did not fail. -/
theorem map_traits_openings_spared (hfailed : ∀ st, failed st = true → marks st = false)
    (hleave : ∀ number, marks (.leave number) = false) (steps : List (Step κ)) :
    (openings (spared failed steps)).map (Opening.traits marks) =
      (succeeded failed steps).map (Opening.traits marks) := by
  induction steps using List.reverseRecOn with
  | nil => rfl
  | append_singleton steps st ih =>
    rw [spared_append_singleton, succeeded_append_singleton, List.map_append]
    obtain ⟨number, rfl⟩ | hst := st.eq_leave_or_not_leaves
    · have hview : Step.view? (.leave number : Step κ) = none := rfl
      simp only [hview, Option.map_none, ite_self, Option.toList_none, List.map_nil,
        List.append_nil]
      cases hk : renumbered? failed steps number with
      | none =>
        rw [Step.spared?, hk, map_traits_leave_of_eq_none hleave hk, ← ih]
        simp
      | some k =>
        rw [Step.spared?, hk, Option.map_some, Option.toList_some,
          openings_append_of_view?_eq_none _ rfl,
          map_traits_leave hleave hk (number_getElem_openings _) ih]
    · rw [Step.spared?_of_not_leaves failed steps hst, Opening.map_traits_followedBy hst, ← ih]
      cases hfails : failed st with
      | true => simp [hfailed st hfails]
      | false =>
        rw [if_neg Bool.false_ne_true, if_neg Bool.false_ne_true, Option.toList_some,
          openings_append_singleton, List.map_append, Opening.map_traits_followedBy hst]
        cases st.view? <;> simp [Opening.traits, Opening.dropped]

/-! ## Scopes -/

/-- What is read off the openings without their numbers stays as it was. -/
theorem filterMap_openings_spared {β : Type} {f : View × Bool × Bool → Option β}
    (hfailed : ∀ st, failed st = true → marks st = false)
    (hleave : ∀ number, marks (.leave number) = false)
    (hf : ∀ v, failed (.enter v) = true → ∀ t, f (v, t) = none) (steps : List (Step κ)) :
    (openings (spared failed steps)).filterMap (fun o => f (o.traits marks)) =
      (openings steps).filterMap fun o => f (o.traits marks) := by
  have hspared : (openings (spared failed steps)).filterMap (fun o => f (o.traits marks)) =
      (succeeded failed steps).filterMap fun o => f (o.traits marks) := by
    simpa only [List.filterMap_map, Function.comp_def] using
      congrArg (List.filterMap f) (map_traits_openings_spared hfailed hleave steps)
  rw [hspared, succeeded, List.filterMap_filter]
  refine List.filterMap_congr fun o _ => ?_
  cases hfails : failed (.enter o.view) with
  | true => exact (hf o.view hfails _).symm
  | false => rfl

/-- The scopes that are held are the same, if a scope that failed to be opened has no content. -/
theorem map_snd_heldScopes_spared {α : Type} {content : View → Option α}
    (h : ∀ v, failed (.enter v) = true → content v = none) (steps : List (Step κ)) :
    (heldScopes content (spared failed steps)).map Prod.snd =
      (heldScopes content steps).map Prod.snd := by
  let f (t : View × Bool × Bool) : Option α := if t.2.1 then none else content t.1
  have hheld (steps : List (Step κ)) : (heldScopes content steps).map Prod.snd =
      (openings steps).filterMap fun o => f (o.traits fun _ => false) := by
    rw [heldScopes, List.map_filterMap]
    refine List.filterMap_congr fun o _ => ?_
    rw [Opening.scope?]
    cases hd : o.dropped <;> cases hc : content o.view <;> simp [f, Opening.traits, hd, hc]
  rw [hheld, hheld]
  refine filterMap_openings_spared (fun _ _ => rfl) (fun _ => rfl) ?_ steps
  intro v hv t
  simp [f, h v hv]

/-- A scope that is held has been opened, so its guard has a number in the run that is left. -/
theorem renumbered?_ne_none {α : Type} {content : View → Option α}
    (h : ∀ v, failed (.enter v) = true → content v = none) {steps : List (Step κ)} {number : Nat}
    (hheld : number ∈ (heldScopes content steps).map Prod.fst) :
    renumbered? failed steps number ≠ none := by
  rw [List.mem_map] at hheld
  obtain ⟨scope, hscope, rfl⟩ := hheld
  obtain ⟨o, ho, hscope⟩ := List.mem_filterMap.mp hscope
  have hfails : failed (.enter o.view) = false := by
    by_contra hfails
    simp [Opening.scope?, h o.view (by simpa using hfails)] at hscope
  have hsucceeded : o ∈ succeeded failed steps := by simp [succeeded, ho, hfails]
  rw [renumbered?, ne_eq, List.idxOf?_eq_none_iff, not_not,
    Opening.fst_eq_of_scope?_eq_some hscope]
  exact List.mem_map_of_mem hsucceeded

end Spared

end StructuredLog
