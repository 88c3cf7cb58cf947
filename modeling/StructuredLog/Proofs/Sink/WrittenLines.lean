import StructuredLog.Proofs.Sink.AttachedScopes
import StructuredLog.Proofs.Text.LineBreaks

/-!
# The lines of a run

What a sink of lines leaves on a device that takes everything is read off the entries of its run:
each one, together with the steps before it, decides about its own line.
-/

namespace StructuredLog

/-! ## Logged entries -/

section Logged

variable {κ : Type}

/-- An entry that is logged, and the steps before it. -/
structure Logged (κ : Type) where
  earlier : List (Step κ)
  entry : Entry

/-- The entries of steps that come behind others. -/
def loggedFrom (earlier : List (Step κ)) : List (Step κ) → List (Logged κ)
  | [] => []
  | st :: rest => (st.entry?.map (Logged.mk earlier)).toList ++ loggedFrom (earlier ++ [st]) rest

/-- The entries of a run, whether their levels are enabled or not. -/
def logged (steps : List (Step κ)) : List (Logged κ) :=
  loggedFrom [] steps

theorem loggedFrom_append (earlier xs ys : List (Step κ)) :
    loggedFrom earlier (xs ++ ys) = loggedFrom earlier xs ++ loggedFrom (earlier ++ xs) ys := by
  induction xs generalizing earlier with
  | nil => rw [List.nil_append, List.append_nil]; rfl
  | cons st xs ih =>
    rw [List.cons_append, loggedFrom, loggedFrom, ih, List.append_assoc, List.append_assoc,
      List.singleton_append]

theorem logged_append_singleton (steps : List (Step κ)) (st : Step κ) :
    logged (steps ++ [st]) = logged steps ++ (st.entry?.map (Logged.mk steps)).toList := by
  rw [logged, loggedFrom_append, loggedFrom, loggedFrom, List.append_nil, List.nil_append, logged]

end Logged

/-! ## A device that takes everything -/

namespace Device

/-- A device that takes everything and has taken each of these lines in one call. -/
def holding (lines : List String) : Device :=
  { perfect with
    calls := lines.length
    taken := lines.map fun line => line.toUTF8.toList }

/-- A line with a character in it is taken whole, in one call. -/
theorem writeAll_holding (lines : List String) {line : String} (h : line ≠ "") :
    (holding lines).writeAll line.toUTF8.toList = (.all, holding (lines ++ [line])) := by
  have hbytes : line.toUTF8.toList ≠ [] := by
    rwa [ne_eq, Text.toList_toUTF8_eq_nil_iff]
  rw [writeAll, if_neg hbytes]
  simp [holding, perfect]

/-- A device in this state goes on to hold the line of an entry that is logged, if it has one. -/
theorem afterEntry_holding (lines : List String) {line : Entry → Option String}
    (h : ∀ e, line e ≠ some "") (minLevel : Level) (e : Entry) :
    (holding lines).afterEntry minLevel line (some e) =
      holding (lines ++ (if minLevel ≤ e.level then line e else none).toList) := by
  rw [afterEntry]
  split
  · cases hline : line e with
    | none => rw [Option.toList_none, List.append_nil, offer]
    | some text =>
      have hne : text ≠ "" := fun he => h e (he ▸ hline)
      rw [offer, writeAll_holding lines hne, Option.toList_some]
  · rw [Option.toList_none, List.append_nil]

end Device

/-! ## Lines of a run -/

section Lines

variable {σ α : Type} [Sink σ] {minLevel : σ → Level} {line : Entry → σ → Observed String}
  {device : σ → Device} {scopes : σ → OpenScopes α} {content : View → Option α}
  {shown : σ → Entry → List α → Option String} {init : σ}

/-- The line of a logged entry: of its level and what is shown of it with the scopes that are held
at that time. -/
def Logged.line? (content : View → Option α) (minLevel : Level)
    (shown : Entry → List α → Option String) (l : Logged Empty) : Option String :=
  if minLevel ≤ l.entry.level then
    shown l.entry ((heldScopes content l.earlier).map Prod.snd)
  else none

/-- A run leaves the lines of its entries on the device, and nothing else. -/
theorem AttachesHeldScopes.device_run
    (h : AttachesHeldScopes minLevel line device scopes content shown init)
    (hdevice : device init = .perfect) (hshown : ∀ e scopes, shown init e scopes ≠ some "")
    (steps : List (Step Empty)) :
    device (Session.run { sink := init } steps).sink =
      .holding ((logged steps).filterMap (Logged.line? content (minLevel init) (shown init))) := by
  induction steps using List.reverseRecOn with
  | nil => exact hdevice
  | append_singleton steps st ih =>
    have hlines (e : Entry) :
        (line e (Session.run { sink := init } steps).sink).result ≠ some "" := by
      rw [h.line_eq]
      exact hshown _ _
    -- The line of the last step shows the scopes of the steps before it, which are all of `steps`.
    rw [Session.run_append_singleton, h.device_step, ih, logged_append_singleton,
      List.filterMap_append]
    cases hst : st.entry? with
    | none => rw [Option.map_none, Option.toList_none, List.filterMap_nil, List.append_nil]; rfl
    | some e =>
      rw [Device.afterEntry_holding _ hlines, h.line_eq, Option.map_some, Option.toList_some]
      rfl

end Lines

end StructuredLog
