import Mathlib.Data.List.Infix
import StructuredLog.Sink.Device

/-!
# Deliveries

A device may stop before it has taken everything that it is offered. What it has taken then is a
beginning of the offer, and it is all of it exactly if no response in between was one that stops.
-/

namespace StructuredLog

/-! ## Responses -/

/-- Does the response end an attempt to write everything, with something left? -/
def Response.stops : Response → Bool
  | .refuse => true
  | .giveUp => true
  | .take 0 => true
  | _ => false

namespace Device

/-- The responses in the calls from `first` on, up to the one before `next`. -/
def responses (d : Device) (first next : Nat) : List Response :=
  (List.range' first (next - first)).map d.respond

@[simp] theorem responses_self (d : Device) (first : Nat) : d.responses first first = [] := by
  simp [responses]

theorem responses_of_lt (d : Device) {first next : Nat} (h : first < next) :
    d.responses first next = d.respond first :: d.responses (first + 1) next := by
  obtain ⟨n, rfl⟩ : ∃ n, next = first + (n + 1) := ⟨next - (first + 1), by omega⟩
  have hn : first + (n + 1) - (first + 1) = n := by omega
  rw [responses, responses, Nat.add_sub_cancel_left, hn, List.range'_succ, List.map_cons]

theorem responses_succ_self (d : Device) (first : Nat) :
    d.responses first (first + 1) = [d.respond first] := by
  rw [responses_of_lt d (Nat.lt_succ_self first), responses_self]

/-! ## Writing everything -/

/-- An attempt to write `bytes` was made, which left a device as `d'` that was `d` before. -/
structure Attempted (bytes : List UInt8) (d : Device) (written : Written) (d' : Device) : Prop where
  respond_eq : d'.respond = d.respond
  calls_le : d.calls ≤ d'.calls
  /-- A beginning of the bytes was taken, and all of them if no response stopped the attempt. -/
  exists_chunks : ∃ chunks, d'.taken = d.taken ++ chunks ∧ chunks.flatten <+: bytes ∧
    (chunks.flatten = bytes ↔ ∀ r ∈ d.responses d.calls d'.calls, r.stops = false)
  gaveUp_iff : written = .gaveUp ↔ .giveUp ∈ d.responses d.calls d'.calls

theorem Attempted.nil (d : Device) : Attempted [] d .all d := by
  refine ⟨rfl, Nat.le_refl _, ⟨[], ?_⟩, ?_⟩ <;> simp

/-- One call in which nothing is taken, and that is the end. -/
theorem Attempted.of_stops (chunks : List (List UInt8)) {bytes : List UInt8} {d d' : Device}
    {written : Written} (hbytes : bytes ≠ [])
    (hd' : d' = { d with calls := d.calls + 1, taken := d.taken ++ chunks })
    (hchunks : chunks.flatten = []) (hstops : (d.respond d.calls).stops = true)
    (hwritten : written = .gaveUp ↔ d.respond d.calls = .giveUp) :
    Attempted bytes d written d' := by
  subst hd'
  refine ⟨rfl, Nat.le_succ _, ⟨chunks, rfl, ?_, ?_⟩, ?_⟩
  · rw [hchunks]
    exact List.nil_prefix
  · simp [hchunks, responses_succ_self, hstops, hbytes.symm]
  · simp [responses_succ_self, hwritten, eq_comm]

/-- One call in which something is taken, and then an attempt to write the rest. -/
theorem Attempted.of_takes {chunk rest : List UInt8} {d d' : Device} {written : Written}
    (hgoes : (d.respond d.calls).stops = false)
    (h : Attempted rest { d with calls := d.calls + 1, taken := d.taken ++ [chunk] } written d') :
    Attempted (chunk ++ rest) d written d' := by
  obtain ⟨chunks, htaken, hbegin, hwhole⟩ := h.exists_chunks
  have hresponses : d.responses d.calls d'.calls =
      d.respond d.calls :: d.responses (d.calls + 1) d'.calls :=
    d.responses_of_lt h.calls_le
  refine ⟨h.respond_eq, Nat.le_of_succ_le h.calls_le, ⟨chunk :: chunks, ?_, ?_, ?_⟩, ?_⟩
  · rw [htaken, List.append_assoc, List.singleton_append]
  · rw [List.flatten_cons]
    exact (List.prefix_append_right_inj chunk).mpr hbegin
  · rw [List.flatten_cons, List.append_cancel_left_eq, hwhole, hresponses, List.forall_mem_cons]
    exact (and_iff_right hgoes).symm
  · have hne : Response.giveUp ≠ d.respond d.calls := by
      intro he
      rw [← he] at hgoes
      cases hgoes
    rw [h.gaveUp_iff, hresponses, List.mem_cons, or_iff_right hne]
    rfl

theorem attempted_writeAll (bytes : List UInt8) (d : Device) :
    Attempted bytes d (d.writeAll bytes).1 (d.writeAll bytes).2 := by
  fun_induction writeAll bytes d with
  | case1 d => exact .nil d
  | case2 bytes d hbytes hresponse =>
    refine .of_stops [] hbytes ?_ rfl ?_ ?_
    · rw [List.append_nil]
    · rw [hresponse]
      rfl
    · simp [hresponse]
  | case3 bytes d hbytes hresponse =>
    refine .of_stops [] hbytes ?_ rfl ?_ ?_
    · rw [List.append_nil]
    · rw [hresponse]
      rfl
    · simp [hresponse]
  | case4 bytes d hbytes hresponse =>
    rw [← List.append_nil bytes]
    refine .of_takes ?_ ?_
    · rw [hresponse]
      rfl
    · rw [List.append_nil]
      exact .nil _
  | case5 bytes d hbytes hresponse =>
    refine .of_stops [[]] hbytes rfl rfl ?_ ?_
    · rw [hresponse]
      rfl
    · simp [hresponse]
  | case6 bytes d hbytes n hresponse ih =>
    rw [← List.take_append_drop (n + 1) bytes]
    refine .of_takes ?_ ?_
    · rw [hresponse]
      rfl
    · rw [List.take_append_drop]
      exact ih

/-! ## Deliveries -/

end Device

/-- What became of a line that was offered to a device. -/
structure Delivery where
  line : List UInt8
  taken : List UInt8
  /-- The responses of the device in the calls that were made for the line. -/
  responses : List Response
  deriving DecidableEq, Repr

/-- The delivery of a line by the device in this state. -/
def Device.delivery (line : List UInt8) (d : Device) : Delivery where
  line
  taken := ((d.writeAll line).2.taken.drop d.taken.length).flatten
  responses := d.responses d.calls (d.writeAll line).2.calls

/-- The line is at most cut off: a beginning of it was taken, and this is the whole line exactly if
no response stopped the delivery. -/
structure Delivery.CutsOff (x : Delivery) : Prop where
  taken_begins : x.taken <+: x.line
  whole_iff : x.taken = x.line ↔ ∀ r ∈ x.responses, r.stops = false

namespace Device

variable (line : List UInt8) (d : Device)

theorem taken_delivery {chunks : List (List UInt8)}
    (h : (d.writeAll line).2.taken = d.taken ++ chunks) :
    (d.delivery line).taken = chunks.flatten := by
  rw [delivery, h, List.drop_left]

theorem delivery_cutsOff : (d.delivery line).CutsOff := by
  obtain ⟨chunks, htaken, hbegin, hwhole⟩ := (attempted_writeAll line d).exists_chunks
  have hchunks := d.taken_delivery line htaken
  refine ⟨?_, ?_⟩
  · rw [hchunks]
    exact hbegin
  · rw [hchunks]
    exact hwhole

/-- A device that takes two bytes and refuses the rest. -/
example :
    Device.delivery [1, 2, 3] { respond := fun call => if call = 0 then .take 2 else .refuse } =
      ⟨[1, 2, 3], [1, 2], [.take 2, .refuse]⟩ := by
  cbv

theorem flatten_taken_writeAll :
    (d.writeAll line).2.taken.flatten = d.taken.flatten ++ (d.delivery line).taken := by
  obtain ⟨chunks, htaken, -, -⟩ := (attempted_writeAll line d).exists_chunks
  rw [d.taken_delivery line htaken, htaken, List.flatten_append]

/-- A device gives up with a line exactly if it does so in one of its calls. -/
theorem writeAll_fst_eq_gaveUp_iff :
    (d.writeAll line).1 = .gaveUp ↔ .giveUp ∈ (d.delivery line).responses :=
  (attempted_writeAll line d).gaveUp_iff

end Device

end StructuredLog
