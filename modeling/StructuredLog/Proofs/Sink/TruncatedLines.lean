import StructuredLog.Proofs.Sink.Answers
import StructuredLog.Proofs.Sink.Deliveries

/-!
# Lines over a device that fails

A device may take less than it is offered, refuse or give up, at any call. All it can do to a run is
to cut lines off: what it has taken is a beginning of each line, one behind the other, and the lines
and the open scopes are those of a run over a device that takes everything.
-/

namespace StructuredLog

/-! ## Sessions with the same scopes -/

section Lines

variable {σ α β : Type} [Sink σ] {minLevel : σ → Level} {line : Entry → σ → Observed String}
  {device : σ → Device} {scopes : σ → OpenScopes α} {content : View → Option α} {settings : σ → β}
  {unshown : Option Unit}

/-- The sessions hold the same guards, and their sinks are set up in the same way and have the same
scopes open. Their devices may differ. -/
structure Session.Parallel (settings : σ → β) (scopes : σ → OpenScopes α) (s s' : Session σ) :
    Prop where
  openings_eq : s.openings = s'.openings
  guards_eq : s.guards = s'.guards
  settings_eq : settings s.sink = settings s'.sink
  scopes_eq : scopes s.sink = scopes s'.sink

theorem Sink.KeepsScopes.scopes_close_congr (h : Sink.KeepsScopes scopes content) {s s' : σ}
    (hs : scopes s = scopes s') (g : Guard) :
    scopes (Sink.close g s) = scopes (Sink.close g s') := by
  cases g with
  | noop => exact hs
  | closes id =>
    show scopes (Sink.endScope id s) = scopes (Sink.endScope id s')
    rw [h.scopes_endScope, h.scopes_endScope, hs]

namespace Sink.WritesLines

variable (h : WritesLines minLevel line device scopes content settings unshown)

include h

/-- A guard that is held is held in both sessions, and is the same. -/
theorem parallel_leave {s s' : Session σ} (hs : s.Parallel settings scopes s') (number : Nat) :
    (s.step (.leave number : Step Empty)).Parallel settings scopes
      (s'.step (.leave number : Step Empty)) := by
  have hsettings : settings (s.step (.leave number : Step Empty)).sink =
      settings (s'.step (.leave number : Step Empty)).sink := by
    rw [h.keeps_settings.step, h.keeps_settings.step, hs.settings_eq]
  have hguard : s.guard? number = s'.guard? number := by
    rw [Session.guard?, Session.guard?, hs.guards_eq]
  cases hheld : s.guard? number with
  | none =>
    rw [Session.step_leave_of_guard?_eq_none hheld,
      Session.step_leave_of_guard?_eq_none (hguard ▸ hheld)]
    exact hs
  | some held =>
    rw [Session.step_leave_of_guard?_eq_some hheld,
      Session.step_leave_of_guard?_eq_some (hguard ▸ hheld)] at hsettings ⊢
    exact ⟨hs.openings_eq, congrArg (List.filter _) hs.guards_eq, hsettings,
      h.keepsScopes.scopes_close_congr hs.scopes_eq held.2⟩

theorem parallel_step {s s' : Session σ} (hs : s.Parallel settings scopes s') (st : Step Empty) :
    (s.step st).Parallel settings scopes (s'.step st) := by
  have hsettings : settings (s.step st).sink = settings (s'.step st).sink := by
    rw [h.keeps_settings.step, h.keeps_settings.step, hs.settings_eq]
  cases st with
  | log e =>
    refine ⟨hs.openings_eq, hs.guards_eq, hsettings, ?_⟩
    show scopes (Sink.log e s.sink).2 = scopes (Sink.log e s'.sink).2
    rw [h.keepsScopes.logging.log, h.keepsScopes.logging.log, hs.scopes_eq]
  | call m args error =>
    refine ⟨hs.openings_eq, hs.guards_eq, hsettings, ?_⟩
    show scopes (m.log args error s.sink).2 = scopes (m.log args error s'.sink).2
    rw [h.keepsScopes.logging.message_log, h.keepsScopes.logging.message_log, hs.scopes_eq]
  | enter v =>
    refine ⟨congrArg (· + 1) hs.openings_eq, ?_, hsettings, ?_⟩
    · show s.guards ++ ((Sink.beginScope v s.sink).1.result.map (s.openings, ·)).toList =
        s'.guards ++ ((Sink.beginScope v s'.sink).1.result.map (s'.openings, ·)).toList
      rw [h.keepsScopes.beginScope_result, h.keepsScopes.beginScope_result, hs.guards_eq,
        hs.openings_eq, hs.scopes_eq]
    · show scopes (Sink.beginScope v s.sink).2 = scopes (Sink.beginScope v s'.sink).2
      rw [h.keepsScopes.scopes_beginScope, h.keepsScopes.scopes_beginScope, hs.scopes_eq]
  | leave number => exact h.parallel_leave hs number
  | own operation => exact operation.elim

theorem parallel_run {s s' : Session σ} (hs : s.Parallel settings scopes s')
    (steps : List (Step Empty)) : (s.run steps).Parallel settings scopes (s'.run steps) := by
  induction steps generalizing s s' with
  | nil => exact hs
  | cons st steps ih => exact ih (h.parallel_step hs st)

end Sink.WritesLines

/-! ## Deliveries of a run -/

namespace Session

section

variable (minLevel : σ → Level) (line : Entry → σ → Observed String) (device : σ → Device)

/-- The delivery of the line that a step offers, if it offers one. -/
def delivery? (s : Session σ) (st : Step Empty) : Option Delivery :=
  st.entry?.bind fun e =>
    if minLevel s.sink ≤ e.level then
      (line e s.sink).result.map fun text => (device s.sink).delivery text.toUTF8.toList
    else none

/-- The deliveries of the lines that a run offers, in order. -/
def deliveries (s : Session σ) : List (Step Empty) → List Delivery
  | [] => []
  | st :: rest => (s.delivery? minLevel line device st).toList ++ (s.step st).deliveries rest

/-- The responses of the device in the calls that are made in a step. -/
def responses (s : Session σ) (st : Step Empty) : List Response :=
  (device s.sink).responses (device s.sink).calls (device (s.step st).sink).calls

end

theorem cutsOff_of_mem_deliveries {s : Session σ} {steps : List (Step Empty)} {x : Delivery}
    (hx : x ∈ s.deliveries minLevel line device steps) : x.CutsOff := by
  induction steps generalizing s with
  | nil => cases hx
  | cons st steps ih =>
    rw [deliveries, List.mem_append] at hx
    rcases hx with hx | hx
    · rw [Option.mem_toList, delivery?, Option.bind_eq_some_iff] at hx
      obtain ⟨e, -, hx⟩ := hx
      split at hx
      · obtain ⟨text, -, rfl⟩ := Option.map_eq_some_iff.mp hx
        exact Device.delivery_cutsOff _ _
      · cases hx
    · exact ih hx

end Session

/-- What a step does to the device: it is offered a line, or nothing. -/
theorem Sink.OffersLines.step_cases (h : Sink.OffersLines minLevel line device) (s : Session σ)
    (st : Step Empty) :
    (s.delivery? minLevel line device st = none ∧ device (s.step st).sink = device s.sink) ∨
      ∃ e text, st.entry? = some e ∧ minLevel s.sink ≤ e.level ∧
        (line e s.sink).result = some text ∧
        s.delivery? minLevel line device st = some ((device s.sink).delivery text.toUTF8.toList) ∧
        device (s.step st).sink = ((device s.sink).writeAll text.toUTF8.toList).2 := by
  rw [h.device_step, Session.delivery?]
  cases he : st.entry? with
  | none => exact .inl ⟨rfl, rfl⟩
  | some e =>
    rw [Device.afterEntry, Option.bind_some]
    by_cases hlevel : minLevel s.sink ≤ e.level
    · rw [if_pos hlevel, if_pos hlevel]
      cases hline : (line e s.sink).result with
      | none => exact .inl ⟨rfl, rfl⟩
      | some text => exact .inr ⟨e, text, rfl, hlevel, hline, rfl, rfl⟩
    · rw [if_neg hlevel, if_neg hlevel]
      exact .inl ⟨rfl, rfl⟩

/-- The device is called for the delivery of a step, and for nothing else. -/
theorem Sink.OffersLines.responses_eq (h : Sink.OffersLines minLevel line device) (s : Session σ)
    (st : Step Empty) : s.responses device st =
      (s.delivery? minLevel line device st).elim [] Delivery.responses := by
  obtain ⟨hnone, hdevice⟩ | ⟨e, text, -, -, -, hsome, hdevice⟩ := h.step_cases s st
  · rw [Session.responses, hdevice, Device.responses_self, hnone, Option.elim_none]
  · rw [Session.responses, hdevice, hsome, Option.elim_some, Device.delivery]

/-- What the device has taken in a run is what the deliveries of the run say. -/
theorem Sink.OffersLines.flatten_taken_run (h : Sink.OffersLines minLevel line device)
    (s : Session σ) (steps : List (Step Empty)) :
    (device (s.run steps).sink).taken.flatten = (device s.sink).taken.flatten ++
      (s.deliveries minLevel line device steps).flatMap Delivery.taken := by
  induction steps generalizing s with
  | nil => exact (List.append_nil _).symm
  | cons st steps ih =>
    have hrun : s.run (st :: steps) = (s.step st).run steps := rfl
    rw [hrun, ih, Session.deliveries, List.flatMap_append, ← List.append_assoc]
    congr 1
    obtain ⟨hnone, hdevice⟩ | ⟨e, text, -, -, -, hsome, hdevice⟩ := h.step_cases s st
    · rw [hnone, hdevice, Option.toList_none, List.flatMap_nil, List.append_nil]
    · rw [hsome, hdevice, Device.flatten_taken_writeAll, Option.toList_some,
        List.flatMap_singleton]

namespace Sink.WritesLines

variable (h : WritesLines minLevel line device scopes content settings unshown) {s s' : Session σ}

include h

theorem line_eq_of_parallel (hs : s.Parallel settings scopes s') (e : Entry) :
    line e s.sink = line e s'.sink :=
  h.line_congr hs.settings_eq (congrArg OpenScopes.contents hs.scopes_eq) e

/-- Which lines are offered does not depend on the device. -/
theorem map_line_deliveries (hs : s.Parallel settings scopes s') (steps : List (Step Empty)) :
    (s.deliveries minLevel line device steps).map Delivery.line =
      (s'.deliveries minLevel line device steps).map Delivery.line := by
  induction steps generalizing s s' with
  | nil => rfl
  | cons st steps ih =>
    have hline : (s.delivery? minLevel line device st).map Delivery.line =
        (s'.delivery? minLevel line device st).map Delivery.line := by
      rw [Session.delivery?, Session.delivery?, h.minLevel_congr hs.settings_eq]
      cases st.entry? with
      | none => rfl
      | some e =>
        rw [Option.bind_some, Option.bind_some, h.line_eq_of_parallel hs]
        split
        · rw [Option.map_map, Option.map_map]
          rfl
        · rfl
    rw [Session.deliveries, Session.deliveries, List.map_append, List.map_append,
      ih (h.parallel_step hs st), ← Option.toList_map, ← Option.toList_map, hline]

/-! ## A device that takes everything -/

variable (hne : ∀ e s, (line e s).result ≠ some "")

include hne

theorem step_of_holding {lines : List String} (hs : device s.sink = .holding lines)
    (st : Step Empty) : ∃ texts : List String, device (s.step st).sink = .holding (lines ++ texts) ∧
      (s.delivery? minLevel line device st).toList.map Delivery.line =
        texts.map fun text => text.toUTF8.toList := by
  obtain ⟨hnone, hdevice⟩ | ⟨e, text, -, -, hline, hsome, hdevice⟩ := h.offersLines.step_cases s st
  · refine ⟨[], ?_, ?_⟩
    · rw [hdevice, hs, List.append_nil]
    · rw [hnone]
      rfl
  · have htext : text ≠ "" := fun he => hne e s.sink (he ▸ hline)
    refine ⟨[text], ?_, ?_⟩
    · rw [hdevice, hs, Device.writeAll_holding lines htext]
    · rw [hsome]
      rfl

/-- A device that takes everything holds the lines of all deliveries after a run. -/
theorem run_of_holding {lines : List String} (hs : device s.sink = .holding lines)
    (steps : List (Step Empty)) :
    ∃ texts : List String, device (s.run steps).sink = .holding (lines ++ texts) ∧
      (s.deliveries minLevel line device steps).map Delivery.line =
        texts.map fun text => text.toUTF8.toList := by
  induction steps generalizing s lines with
  | nil => exact ⟨[], by rw [List.append_nil]; exact hs, rfl⟩
  | cons st steps ih =>
    obtain ⟨texts, hdevice, hline⟩ := h.step_of_holding hne hs st
    obtain ⟨texts', hdevice', hline'⟩ := ih hdevice
    refine ⟨texts ++ texts', ?_, ?_⟩
    · rw [← List.append_assoc]
      exact hdevice'
    · rw [Session.deliveries, List.map_append, hline, hline', List.map_append]

/-! ## Answers -/

/-- Unless the device gives up, a step is answered as over a device that takes everything. -/
theorem answer_of_parallel (hs : s.Parallel settings scopes s') {lines : List String}
    (hs' : device s'.sink = .holding lines) (st : Step Empty) :
    s.answer st =
      if .giveUp ∈ s.responses device st then ⟨(s'.answer st).started, none⟩ else s'.answer st := by
  rw [h.offersLines.responses_eq, Session.delivery?]
  cases he : st.entry? with
  | none =>
    rw [Option.bind_none, Option.elim_none, if_neg List.not_mem_nil]
    exact h.answer_eq_of_entry?_eq_none s s' he
  | some e =>
    rw [h.answer_of_entry? s he, h.answer_of_entry? s' he, Option.bind_some,
      h.minLevel_congr hs.settings_eq, h.line_eq_of_parallel hs e]
    by_cases hlevel : minLevel s'.sink ≤ e.level
    · cases htext : (line e s'.sink).result with
      | none => simp [hlevel, Device.answer_of_result_eq_none htext]
      | some text =>
        have hwritten : ((device s'.sink).writeAll text.toUTF8.toList).1 = .all := by
          have hne' : text ≠ "" := fun he' => hne e s'.sink (he' ▸ htext)
          rw [hs', Device.writeAll_holding lines hne']
        simp only [hlevel, if_true, Option.map_some, Option.elim_some,
          Device.answer_of_result_eq_some htext, hwritten, Device.writeAll_fst_eq_gaveUp_iff,
          Observed.map_eq]
        split <;> rfl
    · simp [hlevel]

end Sink.WritesLines

/-! ## Runs -/

/-- Whatever the device of `init` does, any run differs from the run on `perfect`, whose device
takes everything, in nothing but the ends of lines that are missing. -/
structure OnlyCutsLines (minLevel : σ → Level) (line : Entry → σ → Observed String)
    (device : σ → Device) (scopes : σ → OpenScopes α) (init perfect : σ) : Prop where
  /-- What is taken are the parts that are taken of each line, in order, with nothing between. -/
  taken_eq : ∀ steps : List (Step Empty),
    (device (Session.run { sink := init } steps).sink).taken.flatten =
      (Session.deliveries minLevel line device { sink := init } steps).flatMap Delivery.taken
  lines_eq : ∀ steps : List (Step Empty),
    (Session.deliveries minLevel line device { sink := init } steps).map Delivery.line =
      (device (Session.run { sink := perfect } steps).sink).taken
  cutsOff : ∀ steps : List (Step Empty),
    ∀ x ∈ Session.deliveries minLevel line device { sink := init } steps, x.CutsOff
  guards_eq : ∀ steps : List (Step Empty),
    (Session.run { sink := init } steps).guards = (Session.run { sink := perfect } steps).guards
  scopes_eq : ∀ steps : List (Step Empty),
    scopes (Session.run { sink := init } steps).sink =
      scopes (Session.run { sink := perfect } steps).sink
  line_eq : ∀ (steps : List (Step Empty)) (e : Entry),
    line e (Session.run { sink := init } steps).sink =
      line e (Session.run { sink := perfect } steps).sink
  /-- The caller is told of nothing but that the device gives up. -/
  answer_eq : ∀ (steps : List (Step Empty)) (st : Step Empty),
    let s := Session.run { sink := init } steps
    let answer := (Session.run { sink := perfect } steps).answer st
    s.answer st = if .giveUp ∈ s.responses device st then ⟨answer.started, none⟩ else answer

theorem Sink.WritesLines.onlyCutsLines
    (h : WritesLines minLevel line device scopes content settings unshown)
    (hne : ∀ e s, (line e s).result ≠ some "") {init perfect : σ}
    (hinit : (device init).taken = []) (hperfect : device perfect = .perfect)
    (hsettings : settings init = settings perfect) (hscopes : scopes init = scopes perfect) :
    OnlyCutsLines minLevel line device scopes init perfect := by
  have hstart : Session.Parallel settings scopes { sink := init } { sink := perfect } :=
    ⟨rfl, rfl, hsettings, hscopes⟩
  have hparallel (steps : List (Step Empty)) := h.parallel_run hstart steps
  have hholding : device perfect = .holding [] := hperfect
  have hheld (steps : List (Step Empty)) :=
    h.run_of_holding hne (s := { sink := perfect }) hholding steps
  refine ⟨?_, ?_, fun steps x hx => Session.cutsOff_of_mem_deliveries hx,
    fun steps => (hparallel steps).guards_eq, fun steps => (hparallel steps).scopes_eq,
    fun steps => h.line_eq_of_parallel (hparallel steps), ?_⟩
  · intro steps
    rw [h.offersLines.flatten_taken_run, hinit]
    rfl
  · intro steps
    obtain ⟨texts, hdevice, hlines⟩ := hheld steps
    rw [h.map_line_deliveries hstart, hlines, hdevice, List.nil_append]
    rfl
  · intro steps st s answer
    obtain ⟨texts, hdevice, -⟩ := hheld steps
    exact h.answer_of_parallel hne (hparallel steps) hdevice st

end Lines

/-- Over any device that may take a part of what it is offered or nothing, refuse or give up at any
call, sinks of lines write a beginning of each line, in order, and the whole line exactly if no
response of the device stops its delivery. The lines, the open scopes and the answers are those over
a device that takes everything, except that a step in which the device gives up does not return. -/
theorem device_only_cuts_lines (respond : Nat → Response) :
    (∀ minLevel eventIds,
      OnlyCutsLines TextLines.minLevel TextLines.line TextLines.device TextLines.scopes
        { minLevel, eventIds, device := { respond } }
        { minLevel, eventIds, device := .perfect }) ∧
    ∀ minLevel messages,
      OnlyCutsLines JsonLines.minLevel JsonLines.line JsonLines.device JsonLines.scopes
        { minLevel, messages, device := { respond } }
        { minLevel, messages, device := .perfect } := by
  refine ⟨?_, ?_⟩
  · intro minLevel eventIds
    refine TextLines.writesLines.onlyCutsLines ?_ rfl rfl rfl rfl
    intro e s
    rw [TextLines.line_result]
    exact s.shown_ne_empty e _
  · intro minLevel messages
    refine JsonLines.writesLines.onlyCutsLines ?_ rfl rfl rfl rfl
    intro e s
    rw [JsonLines.line_result]
    exact s.shown_ne_empty e _

/-- The device takes seven bytes of the first line, refuses the rest and takes the second line. -/
theorem device_only_cuts_lines_refusing :
    let respond : Nat → Response := fun
      | 0 => .take 7
      | 1 => .refuse
      | _ => .takeAll
    let hello : Entry := ⟨.info, ⟨7, none⟩, .ofList [], [.write "hello"], none⟩
    let bye : Entry := ⟨.warn, ⟨8, none⟩, .ofList [], [.write "bye"], none⟩
    let steps : List (Step Empty) := [.log hello, .log bye]
    let init : TextLines := { device := { respond } }
    let perfect : TextLines := { device := .perfect }
    (Session.run { sink := init } steps).sink.device.taken.flatten =
      "INFO  [WARN  [8] bye\n".toUTF8.toList ∧
    (Session.run { sink := perfect } steps).sink.device.taken =
      ["INFO  [7] hello\n".toUTF8.toList, "WARN  [8] bye\n".toUTF8.toList] := by
  intro respond hello bye steps init perfect
  let after : Device := { respond, calls := 2, taken := ["INFO  [".toUTF8.toList] }
  have hbytes : "INFO  [7] hello\n".toUTF8.toList =
      "INFO  [".toUTF8.toList ++ "7] hello\n".toUTF8.toList :=
    Text.toList_toUTF8_append "INFO  [" "7] hello\n"
  have htakes : "INFO  [".toUTF8.toList.length = 7 := Text.length_toList_toUTF8 "INFO  ["
  have hcut : init.device.writeAll "INFO  [7] hello\n".toUTF8.toList = (.stopped, after) := by
    have hrest : "7] hello\n".toUTF8.toList ≠ [] := by
      rw [ne_eq, Text.toList_toUTF8_eq_nil_iff]
      decide
    rw [Device.writeAll, if_neg (by rw [hbytes]; exact List.append_ne_nil_of_right_ne_nil _ hrest)]
    show Device.writeAll (List.drop 7 _) { respond, calls := 1, taken := [List.take 7 _] } = _
    rw [hbytes, List.take_left' htakes, List.drop_left' htakes, Device.writeAll, if_neg hrest]
    rfl
  have htaken : after.writeAll "WARN  [8] bye\n".toUTF8.toList =
      (.all, { after with
        calls := 3
        taken := after.taken ++ ["WARN  [8] bye\n".toUTF8.toList] }) := by
    rw [Device.writeAll, if_neg (by rw [Text.toList_toUTF8_eq_nil_iff]; decide)]
    rfl
  have hhello : (init.line hello).result = some "INFO  [7] hello\n" := by
    rw [TextLines.line_result]
    decide
  have hbye : (TextLines.line bye { device := after }).result = some "WARN  [8] bye\n" := by
    rw [TextLines.line_result]
    decide
  have hstep : Session.step { sink := init } (.log hello : Step Empty) =
      { sink := { device := after } } := by
    have hdevice : (Sink.log hello init).2 = { device := after } := by
      rw [TextLines.log_snd, Device.afterEntry, if_pos (by decide), hhello, Device.offer, hcut]
    exact congrArg (fun sink => ({ sink } : Session TextLines)) hdevice
  have hdeliveries : Session.deliveries TextLines.minLevel TextLines.line TextLines.device
      { sink := init } steps = [
        ⟨"INFO  [7] hello\n".toUTF8.toList, "INFO  [".toUTF8.toList, [.take 7, .refuse]⟩,
        ⟨"WARN  [8] bye\n".toUTF8.toList, "WARN  [8] bye\n".toUTF8.toList, [.takeAll]⟩] := by
    have hinfo : init.minLevel ≤ hello.level := by decide
    have hwarn : TextLines.minLevel { device := after } ≤ bye.level := by decide
    simp only [steps, Session.deliveries, Session.delivery?, Step.entry?, Option.bind_some, hstep,
      if_pos hinfo, if_pos hwarn, hhello, hbye, Option.map_some, Device.delivery, hcut, htaken]
    simp [init, after, Device.responses, List.range', respond]
  have htext := (device_only_cuts_lines respond).1 .info true
  refine ⟨?_, ?_⟩
  · rw [htext.taken_eq, hdeliveries, List.flatMap_cons, List.flatMap_singleton]
    exact (Text.toList_toUTF8_append "INFO  [" "WARN  [8] bye\n").symm
  · rw [← htext.lines_eq, hdeliveries]
    rfl

end StructuredLog
