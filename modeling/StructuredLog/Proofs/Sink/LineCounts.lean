import StructuredLog.Proofs.Json.OneLine
import StructuredLog.Proofs.Sink.TextLog

/-!
# How many lines a text log has

Texts are put into a line of text as they are. So a log has one line break for each entry and one
for each line break in these texts, and it has one line for each entry only if there are none.
-/

namespace StructuredLog

open Text

/-! ## One line -/

theorem Level.lineBreaks_label (level : Level) : lineBreaks level.label = 0 := by
  cases level <;> decide

theorem EventId.lineBreaks_text (event : EventId) :
    lineBreaks event.text = totalBreaks event.name.toList := by
  obtain ⟨id, name⟩ := event
  have hid : lineBreaks (toString id.toInt) = 0 :=
    lineBreaks_eq_zero_iff.mpr (noControl_intRepr id.toInt).not_mem_newline
  have hcolon : lineBreaks ":" = 0 := by decide
  cases name with
  | none => exact hid
  | some name =>
    show lineBreaks (toString id.toInt ++ ":" ++ name) = lineBreaks name
    rw [lineBreaks_append, lineBreaks_append, hid, hcolon, Nat.zero_add]

/-- The names of a view and what its values write. -/
def View.shownTexts (v : View) : List String :=
  v.pairs.flatMap fun pair => [pair.name, pair.value.text]

theorem TextLines.lineBreaks_scopeText (v : View) :
    lineBreaks (scopeText v) = totalBreaks v.shownTexts := by
  have hcomma : lineBreaks ", " = 0 := by decide
  have hcolon : lineBreaks ": " = 0 := by decide
  rw [scopeText, lineBreaks_intercalate hcomma, View.shownTexts]
  induction v.pairs with
  | nil => rfl
  | cons pair pairs ih => simp [ih, hcolon, Nat.add_assoc]

/-- The texts that a line shows as they are: the name of the event, the message, the error, and what
is named in the scopes. -/
def Entry.shownTexts (eventIds : Bool) (scopes : List View) (e : Entry) : List String :=
  (if eventIds then e.event.name.toList else []) ++ Rendering.text e.message ::
    ((e.error.map Displayed.text).toList ++ scopes.flatMap View.shownTexts)

theorem Entry.lineBreaks_textLine (eventIds : Bool) (scopes : List View) (e : Entry) :
    lineBreaks (e.textLine eventIds (scopes.map TextLines.scopeText)) =
      totalBreaks (e.shownTexts eventIds scopes) + 1 := by
  have hevent : lineBreaks (if eventIds then " [" ++ e.event.text ++ "]" else "") =
      totalBreaks (if eventIds then e.event.name.toList else []) := by
    cases eventIds with
    | true =>
      have hopen : lineBreaks " [" = 0 := by decide
      have hclose : lineBreaks "]" = 0 := by decide
      simp [hopen, hclose, e.event.lineBreaks_text]
    | false => rfl
  have herror : lineBreaks ((e.error.map Displayed.text).elim "" (": " ++ ·)) =
      totalBreaks (e.error.map Displayed.text).toList := by
    have hcolon : lineBreaks ": " = 0 := by decide
    cases e.error with
    | none => rfl
    | some error => simp [hcolon]
  have hscopes : lineBreaks (.join ((scopes.map TextLines.scopeText).map (" => " ++ ·))) =
      totalBreaks (scopes.flatMap View.shownTexts) := by
    have harrow : lineBreaks " => " = 0 := by decide
    rw [lineBreaks_join]
    induction scopes with
    | nil => rfl
    | cons v scopes ih =>
      rw [List.map_cons, List.map_cons, totalBreaks_cons, ih, lineBreaks_append, harrow,
        TextLines.lineBreaks_scopeText, List.flatMap_cons, totalBreaks_append, Nat.zero_add]
  have hblank : lineBreaks " " = 0 := by decide
  have hend : lineBreaks "\n" = 1 := by decide
  simp only [textLine, TextLines.assembled, shownTexts, lineBreaks_append, totalBreaks_append,
    totalBreaks_cons, hevent, herror, hscopes, hblank, hend, e.level.lineBreaks_label]
  omega

/-! ## Lines of a run -/

namespace Logged

/-- The texts that the line of a logged entry shows, with those of the scopes held at that time. -/
def shownTexts (eventIds : Bool) (l : Logged Empty) : List String :=
  l.entry.shownTexts eventIds ((heldScopes some l.earlier).map Prod.snd)

theorem lineBreaks_textLine (eventIds : Bool) (l : Logged Empty) :
    lineBreaks (l.textLine eventIds) = totalBreaks (l.shownTexts eventIds) + 1 := by
  have hscopes : heldScopes TextLines.scopeContent l.earlier =
      (heldScopes some l.earlier).map fun scope => (scope.1, TextLines.scopeText scope.2) :=
    heldScopes_eq_map fun _ _ _ _ => rfl
  rw [textLine, hscopes, shownTexts, ← l.entry.lineBreaks_textLine, List.map_map, List.map_map]
  rfl

end Logged

namespace TextLines

/-- The entries of a run that are written: they are enabled and can be displayed. -/
def written (minLevel : Level) (steps : List (Step Empty)) : List (Logged Empty) :=
  (logged steps).filter fun l => minLevel ≤ l.entry.level ∧ l.entry.textFails = false

theorem taken_run (minLevel : Level) (eventIds : Bool) (steps : List (Step Empty)) :
    let init : TextLines := { minLevel, eventIds, device := .perfect }
    (Session.run { sink := init } steps).sink.device.taken =
      (written minLevel steps).map fun l => (l.textLine eventIds).toUTF8.toList := by
  intro init
  have hwritten : (logged steps).filterMap (Logged.text? minLevel eventIds) =
      (written minLevel steps).map (Logged.textLine eventIds) := by
    rw [written, ← List.filterMap_eq_map, List.filterMap_filter]
    refine List.filterMap_congr fun l _ => ?_
    simp [Logged.text?]
  have hdevice : (Session.run { sink := init } steps).sink.device = _ :=
    device_run minLevel eventIds steps
  rw [hdevice, hwritten, Device.holding, List.map_map]
  rfl

theorem count_newline_lines (eventIds : Bool) (ls : List (Logged Empty)) :
    (ls.map fun l => (l.textLine eventIds).toUTF8.toList).flatten.count newline =
      ls.length + totalBreaks (ls.flatMap (Logged.shownTexts eventIds)) := by
  induction ls with
  | nil => rfl
  | cons l ls ih =>
    rw [List.map_cons, List.flatten_cons, List.count_append, ih, count_newline_toUTF8,
      l.lineBreaks_textLine, List.flatMap_cons, totalBreaks_append, List.length_cons]
    omega

/-- Only the end of the line is a line break if there is none in what it shows. -/
theorem bytes_textLine {eventIds : Bool} {l : Logged Empty}
    (h : ∀ text ∈ l.shownTexts eventIds, '\n' ∉ text.toList) :
    ∃ line, (l.textLine eventIds).toUTF8.toList = line ++ [newline] ∧ newline ∉ line := by
  obtain ⟨line, hline⟩ : ∃ line, l.textLine eventIds = line ++ "\n" := ⟨_, rfl⟩
  have hend : lineBreaks "\n" = 1 := by decide
  have hbreaks := l.lineBreaks_textLine eventIds
  rw [totalBreaks_eq_zero_iff.mpr h, hline, lineBreaks_append, hend] at hbreaks
  refine ⟨line.toUTF8.toList, ?_, ?_⟩
  · rw [hline, toList_toUTF8_append, toList_toUTF8_newline]
  · rw [newline_mem_toUTF8_iff]
    exact lineBreaks_eq_zero_iff.mp (by omega)

/-- The bytes that a run writes on a device that takes everything are as many line breaks as there
are entries written, and those in the texts that the lines show: the names of events, messages,
errors, and the names and values of the scopes that are held. So there is one line for each entry
exactly if these texts have no line break, and then the lines, split at their breaks, are what was
written for each entry. -/
theorem line_breaks_of_run (minLevel : Level) (eventIds : Bool) (steps : List (Step Empty)) :
    let init : TextLines := { minLevel, eventIds, device := .perfect }
    let taken := (Session.run { sink := init } steps).sink.device.taken
    let entries := written minLevel steps
    let shown := entries.flatMap (Logged.shownTexts eventIds)
    taken.length = entries.length ∧
    taken.flatten.count newline = entries.length + totalBreaks shown ∧
    (taken.flatten.count newline = entries.length ↔ ∀ text ∈ shown, '\n' ∉ text.toList) ∧
    ((∀ text ∈ shown, '\n' ∉ text.toList) →
      taken.flatten.splitOn newline = taken.map List.dropLast ++ [[]]) := by
  intro init taken entries shown
  have htaken : taken = entries.map fun l => (l.textLine eventIds).toUTF8.toList :=
    taken_run minLevel eventIds steps
  have hcount : taken.flatten.count newline = entries.length + totalBreaks shown := by
    rw [htaken]
    exact count_newline_lines eventIds entries
  refine ⟨by rw [htaken, List.length_map], hcount, ?_, ?_⟩
  · rw [hcount, ← totalBreaks_eq_zero_iff]
    omega
  · intro hshown
    have hline (bytes : List UInt8) (hbytes : bytes ∈ taken) :
        ∃ line, bytes = line ++ [newline] ∧ newline ∉ line := by
      rw [htaken] at hbytes
      obtain ⟨l, hl, rfl⟩ := List.mem_map.mp hbytes
      exact bytes_textLine fun text htext => hshown text (List.mem_flatMap_of_mem hl htext)
    have hterminated : taken.flatten = terminated (taken.map List.dropLast) := by
      rw [terminated, List.flatMap_map, List.flatten_eq_flatMap]
      refine List.flatMap_congr fun bytes hbytes => ?_
      obtain ⟨line, rfl, -⟩ := hline bytes hbytes
      rw [id, List.dropLast_concat]
    rw [hterminated]
    apply splitOn_terminated
    intro line hmem
    obtain ⟨bytes, hbytes, rfl⟩ := List.mem_map.mp hmem
    obtain ⟨line, rfl, hnewline⟩ := hline bytes hbytes
    rwa [List.dropLast_concat]

/-- One call writes two lines, of which its argument has made up the second. -/
theorem line_forged_by_argument :
    ∃ m, Message.define 1 .info ⟨7, none⟩ "hi \x7buser\x7d" [] = .ok m ∧
      let init : TextLines := { minLevel := .info, eventIds := true, device := .perfect }
      let steps : List (Step Empty) := [.call m #v[.str "a\nERROR [9] forged"] none]
      let taken := (Session.run { sink := init } steps).sink.device.taken
      (written .info steps).length = 1 ∧
      taken = ["INFO  [7] hi a\nERROR [9] forged\n".toUTF8.toList] ∧
      taken.flatten.count newline = 2 := by
  let m : Message 1 :=
    ⟨.info, ⟨7, none⟩, ⟨"hi \x7buser\x7d", [.literal 0 "hi ", .slot 0], ["user"]⟩, #v["user"]⟩
  refine ⟨m, rfl, ?_⟩
  intro init steps taken
  let l : Logged Empty := ⟨[], m.entry #v[.str "a\nERROR [9] forged"] none⟩
  have hwritten : written .info steps = [l] := rfl
  have hline : l.textLine true = "INFO  [7] hi a\nERROR [9] forged\n" := by decide
  have htaken : taken = ["INFO  [7] hi a\nERROR [9] forged\n".toUTF8.toList] := by
    have hrun : taken = _ := taken_run .info true steps
    rw [hrun, hwritten, List.map_singleton, hline]
  refine ⟨congrArg List.length hwritten, htaken, ?_⟩
  rw [htaken, List.flatten_singleton, count_newline_toUTF8]
  decide

end TextLines

end StructuredLog
