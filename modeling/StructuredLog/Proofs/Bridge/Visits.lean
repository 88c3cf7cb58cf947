import StructuredLog.Bridge.Recorder
import StructuredLog.Proofs.Bridge.Keys
import StructuredLog.Proofs.Offers

/-!
# Visits of a record

The pairs of an entry, the event's number and the error are one list for a visitor. It is handed
their names and values in order, with the types that they have, and the first call that fails is the
last one.
-/

namespace StructuredLog

/-! ## Typed values -/

/-- The value that a backend has in hand, with its type. -/
def KeyedValue.value : KeyedValue → Value
  | .str s => .str s
  | .number n => .number n
  | .bool b => .bool b
  | .char c => .char c
  | .any object => .display object
  | .null => .null

theorem Value.value_keyed (v : Value) : v.keyed.value = v := by
  cases v <;> rfl

/-- The names and values that were handed over in these offers. -/
def Offer.pairs {ε : Type} (offers : List (Offer (String × KeyedValue) ε)) : List Pair :=
  offers.map fun offer => ⟨offer.1.1, offer.1.2.value⟩

namespace Entry

/-- The pairs of an entry, with its event's number and its error, if there is one, behind them. -/
def listed (e : Entry) : List Pair :=
  e.state.pairs ++ ⟨"event_id", .number (.int e.event.id.toInt64)⟩ ::
    (e.error.map fun error => ⟨"error", .display error⟩).toList

theorem map_value_keyed (e : Entry) :
    e.keyed.map (fun keyed => (⟨keyed.1, keyed.2.value⟩ : Pair)) = e.listed := by
  have hpairs : e.state.pairs.map (fun pair => (⟨pair.name, pair.value.keyed.value⟩ : Pair)) =
      e.state.pairs := by
    simp [Value.value_keyed]
  rw [keyed, listed, List.map_append, List.map_map, List.map_cons, Function.comp_def, hpairs]
  cases e.error <;> rfl

theorem pairs_offers {ε : Type} {e : Entry} {offers : List (Offer (String × KeyedValue) ε)}
    {n : Nat} (h : offers.map Prod.fst = e.keyed.take n) :
    Offer.pairs offers = e.listed.take n := by
  rw [← map_value_keyed, ← List.map_take, ← h, List.map_map]
  rfl

/-- Whatever a visitor does, and at whatever calls it fails: it is handed the names and values of
the entry from the front, each once and with its type. If no call fails it is handed all of them;
else the first call that fails is the last one, and its error is the result. -/
theorem visit_until_failure {ε σ : Type} (e : Entry) (visitor : Taker (String × KeyedValue) ε σ)
    (s : σ) :
    ∃ offers result s',
      (e.visit fun key value => visitor (key, value)).run.run s = (result, s') ∧
      (e.visit fun key value => visitor.noting (key, value)).run.run (s, []) =
        (result, s', offers) ∧
      Offer.pairs offers = e.listed.take offers.length ∧
      ((∀ offer ∈ offers, offer.2 = .ok ()) →
        Offer.pairs offers = e.listed ∧ result = .ok ()) ∧
      ∀ k keyed error, offers[k]? = some (keyed, .error error) →
        offers.length = k + 1 ∧ Offer.pairs offers = e.listed.take (k + 1) ∧
          result = .error error := by
  obtain ⟨offers, result, s', hoffering⟩ := exists_offering visitor s e.keyed
  have hpairs := pairs_offers hoffering.map_fst_eq_take
  refine ⟨offers, result, s', ?_, ?_, hpairs, ?_, ?_⟩
  · rw [visit_eq_forM]
    exact hoffering.run_forM
  · rw [visit_eq_forM]
    exact hoffering.run_forM_noting []
  · intro hok
    obtain ⟨hall, hresult⟩ := hoffering.of_forall_ok hok
    refine ⟨?_, hresult⟩
    rw [Offer.pairs, ← map_value_keyed, ← hall, List.map_map]
    rfl
  · intro k keyed error hk
    obtain ⟨hlength, hresult⟩ := hoffering.of_error hk
    exact ⟨hlength, hlength ▸ hpairs, hresult⟩

/-- A recorder that takes four values refuses the template behind the arguments; one without a limit
is handed the event's number and the error, too. -/
theorem visit_until_failure_typed :
    let pairs : List Pair := [⟨"user", .str "al"⟩, ⟨"n", .number (.int (-5))⟩,
      ⟨"object", .display ⟨["a", "b"], true⟩⟩, ⟨"gone", .null⟩, ⟨originalFormat, .str "hi"⟩]
    let e : Entry := ⟨.warn, ⟨7, none⟩, .ofList pairs, [], some ⟨["disk"], false⟩⟩
    let visitor (limit : Option Nat) : Taker (String × KeyedValue) Unit _ := fun keyed =>
      Recorder.visitor limit keyed.1 keyed.2
    (∃ offers, (e.visit fun key value => (visitor (some 4)).noting (key, value)).run.run ([], []) =
        (.error (), [("user", .str "al"), ("n", .number (.int (-5))),
          ("object", .any ⟨["a", "b"], true⟩), ("gone", .null)], offers) ∧
      Offer.pairs offers = pairs) ∧
    ∃ offers s', (e.visit fun key value => (visitor none).noting (key, value)).run.run ([], []) =
        (.ok (), s', offers) ∧
      Offer.pairs offers = pairs ++ [⟨"event_id", .number (.int 7)⟩,
        ⟨"error", .display ⟨["disk"], false⟩⟩] := by
  intro pairs e visitor
  have hkeyed : e.keyed = [("user", .str "al"), ("n", .number (.int (-5))),
      ("object", .any ⟨["a", "b"], true⟩), ("gone", .null), (originalFormat, .str "hi"),
      ("event_id", .number (.int 7)), ("error", .any ⟨["disk"], false⟩)] := by
    rw [keyed, View.pairs_ofList]
    rfl
  have hlisted : e.listed = pairs ++ [⟨"event_id", .number (.int 7)⟩,
      ⟨"error", .display ⟨["disk"], false⟩⟩] := by
    rw [listed, View.pairs_ofList]
    rfl
  refine ⟨?_, ?_⟩
  · obtain ⟨offers, result, s', -, hnoting, -, -, hfirst⟩ :=
      visit_until_failure e (visitor (some 4)) []
    have hrun := hnoting
    rw [visit_eq_forM, hkeyed] at hrun
    cases hrun
    obtain ⟨-, hpairs, -⟩ := hfirst 4 _ () rfl
    exact ⟨_, hnoting, hpairs.trans (by rw [hlisted]; rfl)⟩
  · obtain ⟨offers, result, s', -, hnoting, -, hall, -⟩ :=
      visit_until_failure e (visitor none) []
    have hrun := hnoting
    rw [visit_eq_forM, hkeyed] at hrun
    cases hrun
    obtain ⟨hpairs, -⟩ := hall (by simp)
    exact ⟨_, _, hnoting, hpairs.trans hlisted⟩

end Entry

end StructuredLog
