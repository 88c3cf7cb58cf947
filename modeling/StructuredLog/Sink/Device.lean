/-!
# Devices

A device takes bytes in calls that are counted from zero. At each call it may take some of the
bytes that it is offered, or none, refuse with an error, or give up altogether.
-/

namespace StructuredLog

inductive Response
  | takeAll
  | take (atMost : Nat)
  | refuse
  | giveUp
  deriving DecidableEq, Repr

structure Device where
  /-- What the device does at each call. -/
  respond : Nat → Response
  calls : Nat := 0
  /-- What was taken in each call that took something, or nothing without an error. -/
  taken : List (List UInt8) := []

/-- How an attempt to write everything ended. -/
inductive Written
  | all
  | stopped
  | gaveUp
  deriving DecidableEq, Repr

namespace Device

/-- A device that takes all it is offered. -/
def perfect : Device where
  respond _ := .takeAll

/-- Offers the rest again until all is taken, nothing is taken, or the device refuses. -/
def writeAll (bytes : List UInt8) (d : Device) : Written × Device :=
  if bytes = [] then (.all, d)
  else match d.respond d.calls with
    | .refuse => (.stopped, { d with calls := d.calls + 1 })
    | .giveUp => (.gaveUp, { d with calls := d.calls + 1 })
    | .takeAll => (.all, { d with calls := d.calls + 1, taken := d.taken ++ [bytes] })
    | .take 0 => (.stopped, { d with calls := d.calls + 1, taken := d.taken ++ [[]] })
    | .take (n + 1) =>
      writeAll (bytes.drop (n + 1)) { d with
        calls := d.calls + 1
        taken := d.taken ++ [bytes.take (n + 1)] }
termination_by bytes.length
decreasing_by
  cases bytes with
  | nil => contradiction
  | cons b bytes =>
    rw [List.length_drop, List.length_cons]
    omega

end Device

end StructuredLog
