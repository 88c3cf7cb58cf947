import Mathlib.Data.List.Basic

/-!
# Offers

Things are offered one by one to a taker that answers each offer by taking the thing or refusing it
with an error. The first refusal ends it: what was offered is a prefix of the things, all taken but
perhaps the last.
-/

namespace StructuredLog

variable {α ε σ : Type}

/-- Takes a thing or refuses it; its state may change in either case. -/
abbrev Taker (α ε σ : Type) := α → ExceptT ε (StateM σ) Unit

/-- A thing that was offered, with the answer. -/
abbrev Offer (α ε : Type) := α × Except ε Unit

/-- The things that were taken. -/
def Offer.taken (offers : List (Offer α ε)) : List α :=
  offers.filterMap fun
    | (a, .ok ()) => some a
    | (_, .error _) => none

/-- The same taker with a list of its offers. -/
def Taker.noting (take : Taker α ε σ) : Taker α ε (σ × List (Offer α ε)) := fun a =>
  ExceptT.mk fun (s, offers) =>
    let (answer, s') := (take a).run.run s
    (answer, s', offers ++ [(a, answer)])

/-! ## Until the first refusal -/

/-- The offers that a taker in state `s` gets of a list, with the result and its last state. -/
inductive Offering (take : Taker α ε σ) :
    σ → List α → List (Offer α ε) → Except ε Unit → σ → Prop
  | nil (s : σ) : Offering take s [] [] (.ok ()) s
  | taken {a : α} {xs : List α} {s s₁ s' : σ} {offers : List (Offer α ε)}
      {result : Except ε Unit} : (take a).run.run s = (.ok (), s₁) →
      Offering take s₁ xs offers result s' →
      Offering take s (a :: xs) ((a, .ok ()) :: offers) result s'
  | refused {a : α} (xs : List α) {s s' : σ} {e : ε} : (take a).run.run s = (.error e, s') →
      Offering take s (a :: xs) [(a, .error e)] (.error e) s'

theorem exists_offering (take : Taker α ε σ) (s : σ) (xs : List α) :
    ∃ offers result s', Offering take s xs offers result s' := by
  induction xs generalizing s with
  | nil => exact ⟨[], .ok (), s, .nil s⟩
  | cons a xs ih =>
    cases hanswer : (take a).run.run s with
    | mk answer s₁ =>
      cases answer with
      | error e => exact ⟨_, _, _, .refused xs hanswer⟩
      | ok =>
        obtain ⟨offers, result, s', h⟩ := ih s₁
        exact ⟨_, _, _, .taken hanswer h⟩

namespace Offering

variable {take : Taker α ε σ} {s s' : σ} {xs : List α} {offers : List (Offer α ε)}
  {result : Except ε Unit}

theorem map_fst_eq_take (h : Offering take s xs offers result s') :
    offers.map Prod.fst = xs.take offers.length := by
  induction h with
  | nil => rfl
  | taken _ _ ih => rw [List.map_cons, ih, List.length_cons, List.take_succ_cons]
  | refused => rfl

theorem of_forall_ok (h : Offering take s xs offers result s')
    (hok : ∀ offer ∈ offers, offer.2 = .ok ()) :
    offers.map Prod.fst = xs ∧ result = .ok () := by
  induction h with
  | nil => exact ⟨rfl, rfl⟩
  | taken _ _ ih =>
    obtain ⟨hxs, hresult⟩ := ih fun offer hoffer => hok offer (List.mem_cons_of_mem _ hoffer)
    exact ⟨by rw [List.map_cons, hxs], hresult⟩
  | refused => nomatch hok _ (List.mem_cons_self ..)

/-- Nothing is offered after a refusal, and its error is the result. -/
theorem of_error (h : Offering take s xs offers result s') {k : Nat} {a : α} {e : ε}
    (hk : offers[k]? = some (a, .error e)) : offers.length = k + 1 ∧ result = .error e := by
  induction h generalizing k with
  | nil => cases hk
  | taken _ _ ih =>
    cases k with
    | zero => cases hk
    | succ k =>
      obtain ⟨hlength, hresult⟩ := ih hk
      exact ⟨by rw [List.length_cons, hlength], hresult⟩
  | refused =>
    cases k with
    | zero =>
      cases hk
      exact ⟨rfl, rfl⟩
    | succ k => cases hk

theorem taken_isPrefix (h : Offering take s xs offers result s') :
    Offer.taken offers <+: xs := by
  induction h with
  | nil => exact List.nil_prefix
  | taken _ _ ih => exact List.cons_prefix_cons.mpr ⟨rfl, ih⟩
  | refused => exact List.nil_prefix

/-- If only things with a property are ever refused, those that have it tell whether all were
taken. -/
theorem result_eq_ok_iff_filter (h : Offering take s xs offers result s') (p : α → Bool)
    (hp : ∀ a s e, ((take a).run.run s).1 = .error e → p a = true) :
    result = .ok () ↔ (Offer.taken offers).filter p = xs.filter p := by
  induction h with
  | nil => exact ⟨fun _ => rfl, fun _ => rfl⟩
  | @taken a xs s s₁ s' offers result _ _ ih =>
    have htaken : Offer.taken ((a, .ok ()) :: offers) = a :: Offer.taken offers := rfl
    rw [ih, htaken]
    cases ha : p a with
    | true => simp [ha]
    | false => simp [ha]
  | @refused a xs s s' e hanswer =>
    -- The refused thing has the property, and it is missing among those that were taken.
    have ha : p a = true := hp a s e (by rw [hanswer])
    have htaken : Offer.taken [(a, Except.error (α := Unit) e)] = [] := rfl
    simp [ha, htaken]

theorem result_eq_ok_iff (h : Offering take s xs offers result s') :
    result = .ok () ↔ Offer.taken offers = xs := by
  simpa using h.result_eq_ok_iff_filter (fun _ => true) fun _ _ _ _ => rfl

end Offering

/-! ## Runs -/

namespace Taker

variable {take : Taker α ε σ} {a : α} {s s' : σ}

theorem run_forM_cons_of_ok (h : (take a).run.run s = (.ok (), s')) (xs : List α) :
    ((a :: xs).forM take).run.run s = (xs.forM take).run.run s' := by
  rw [List.forM_eq_forM, List.forM_cons, ExceptT.run_bind, StateT.run_bind, h]
  rfl

theorem run_forM_cons_of_error {e : ε} (h : (take a).run.run s = (.error e, s')) (xs : List α) :
    ((a :: xs).forM take).run.run s = (.error e, s') := by
  rw [List.forM_eq_forM, List.forM_cons, ExceptT.run_bind, StateT.run_bind, h]
  rfl

theorem run_noting {answer : Except ε Unit} (h : (take a).run.run s = (answer, s'))
    (before : List (Offer α ε)) :
    (take.noting a).run.run (s, before) = (answer, s', before ++ [(a, answer)]) := by
  show (((take a).run.run s).1, ((take a).run.run s).2, before ++ [(a, ((take a).run.run s).1)]) = _
  rw [h]

end Taker

namespace Offering

variable {take : Taker α ε σ} {s s' : σ} {xs : List α} {offers : List (Offer α ε)}
  {result : Except ε Unit}

theorem run_forM (h : Offering take s xs offers result s') :
    (xs.forM take).run.run s = (result, s') := by
  induction h with
  | nil => rfl
  | taken hanswer _ ih => rw [Taker.run_forM_cons_of_ok hanswer, ih]
  | refused xs hanswer => exact Taker.run_forM_cons_of_error hanswer xs

/-- A taker that notes its offers answers as without. -/
theorem run_forM_noting (h : Offering take s xs offers result s') (before : List (Offer α ε)) :
    (xs.forM take.noting).run.run (s, before) = (result, s', before ++ offers) := by
  induction h generalizing before with
  | nil => rw [List.append_nil]; rfl
  | taken hanswer _ ih =>
    rw [Taker.run_forM_cons_of_ok (Taker.run_noting hanswer before), ih, List.append_assoc]
    rfl
  | refused xs hanswer => exact Taker.run_forM_cons_of_error (Taker.run_noting hanswer before) xs

end Offering

end StructuredLog
