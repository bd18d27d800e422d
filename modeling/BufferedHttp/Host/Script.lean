import BufferedHttp.Host.Basic

/-!
# Scripted streams

A script says what the reads of a stream give, in order: data, which is split when a read asks for
less, or a failure. Behind the last step the stream is closed. For a stream to be written to, the
faults say which writes do not succeed.
-/

namespace BufferedHttp

inductive ReadStep where
  | data (bytes : Bytes)
  | fail (message : String)
  deriving DecidableEq

abbrev Script := List ReadStep

namespace Script

/-- One read of at most `n` bytes, and the script that remains. -/
def read (n : Nat) : Script → Except StreamError Bytes × Script
  | [] => (.error .closed, [])
  | .fail message :: steps => (.error (.failed message), steps)
  | .data bytes :: steps =>
    if n < bytes.length then (.ok (bytes.take n), .data (bytes.drop n) :: steps)
    else (.ok bytes, steps)

/-- A bound on the reads that give data. -/
def size : Script → Nat
  | [] => 0
  | .fail _ :: steps => size steps
  | .data bytes :: steps => bytes.length + 1 + size steps

theorem size_read_lt {n : Nat} {s s' : Script} {bytes : Bytes} (pos : 0 < n)
    (h : read n s = (.ok bytes, s')) : size s' < size s := by
  match s with
  | [] => simp [read] at h
  | .fail m :: steps => simp [read] at h
  | .data b :: steps =>
    simp only [read] at h
    split at h
    · obtain ⟨-, rfl⟩ := Prod.mk.inj h
      simp only [size, List.length_drop]
      omega
    · obtain ⟨-, rfl⟩ := Prod.mk.inj h
      simp only [size]
      omega

end Script

/-- The writes of a stream that do not succeed, counted from 0. -/
structure WriteFaults where
  closeAt : Option Nat
  failAt : Option (Nat × String)
  deriving DecidableEq

namespace WriteFaults

def none : WriteFaults := ⟨.none, .none⟩

/-- The fault of the write of a number. A closed stream comes first. -/
def at? (f : WriteFaults) (k : Nat) : Option StreamError :=
  if f.closeAt = some k then some .closed
  else match f.failAt with
    | some (n, message) => if n = k then some (.failed message) else .none
    | .none => .none

@[simp] theorem at?_none (k : Nat) : none.at? k = .none := rfl

end WriteFaults

end BufferedHttp
