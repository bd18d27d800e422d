import Mathlib.Data.List.Forall2
import BufferedHttp.Proofs.Memory.Reading

/-!
# Reads of any lengths

Each read of a script has a length of its own. It takes from the first step only, and what it leaves
of the step stays in front of all others. So nothing is lost or given twice, and a failure is
reported behind all that stands before it and in front of all that stands behind it.
-/

namespace BufferedHttp

/-- Reads of these lengths, one after the other. -/
def Host.readEach {World : Type} (host : Host World) :
    List Nat → host.InputStream → World →
      List (Except StreamError Bytes) × host.InputStream × World
  | [], stream, w => ([], stream, w)
  | n :: lengths, stream, w =>
    let (outcome, stream, w) := host.read stream n w
    let (outcomes, stream, w) := host.readEach lengths stream w
    (outcome :: outcomes, stream, w)

namespace Script

def failures (s : Script) : List String :=
  s.filterMap fun
    | .data _ => none
    | .fail message => some message

def delivered (outcomes : List (Except StreamError Bytes)) : Bytes :=
  outcomes.flatMap fun
    | .ok bytes => bytes
    | .error _ => []

def reported (outcomes : List (Except StreamError Bytes)) : List String :=
  outcomes.filterMap fun
    | .error (.failed message) => some message
    | _ => none

/-- What was delivered and reported, and then what is left, make up the script. -/
structure Conserved (script : Script) (outcomes : List (Except StreamError Bytes))
    (left : Script) : Prop where
  bytes : delivered outcomes ++ left.bytes = script.bytes
  failures : reported outcomes ++ left.failures = script.failures

theorem Conserved.refl (script : Script) : Conserved script [] script := ⟨rfl, rfl⟩

theorem Conserved.trans {script between left : Script}
    {first second : List (Except StreamError Bytes)} (hFirst : Conserved script first between)
    (hSecond : Conserved between second left) : Conserved script (first ++ second) left where
  bytes := by
    rw [delivered, List.flatMap_append, List.append_assoc, ← hFirst.bytes, ← hSecond.bytes]
    rfl
  failures := by
    rw [reported, List.filterMap_append, List.append_assoc, ← hFirst.failures, ← hSecond.failures]
    rfl

/-- A read takes from the first step, whatever stands behind the steps. -/
theorem exists_read_append (n : Nat) (step : ReadStep) (steps : Script) :
    ∃ outcome left, Conserved (step :: steps) [outcome] left ∧
      ∀ behind, read n (step :: (steps ++ behind)) = (outcome, left ++ behind) := by
  cases step with
  | fail message => exact ⟨.error (.failed message), steps, ⟨rfl, rfl⟩, fun _ => rfl⟩
  | data b =>
    rcases Nat.lt_or_ge n b.length with hLong | hShort
    · refine ⟨.ok (b.take n), .data (b.drop n) :: steps, ⟨?_, rfl⟩, ?_⟩
      · simp [delivered, bytes, ← List.append_assoc]
      · exact fun behind => read_data_of_lt (steps ++ behind) hLong
    · refine ⟨.ok b, steps, ⟨?_, rfl⟩, ?_⟩
      · simp [delivered, bytes]
      · exact fun behind => read_data_of_le (steps ++ behind) hShort

theorem conserved_read (n : Nat) (script : Script) :
    Conserved script [(script.read n).1] (script.read n).2 := by
  cases script with
  | nil => exact ⟨rfl, rfl⟩
  | cons step steps =>
    obtain ⟨outcome, left, hConserved, hRead⟩ := exists_read_append n step steps
    have hAlone := hRead []
    rw [List.append_nil, List.append_nil] at hAlone
    rw [hAlone]
    exact hConserved

theorem length_le_of_read {n : Nat} {script : Script} {b : Bytes}
    (h : (script.read n).1 = .ok b) : b.length ≤ n := by
  cases script with
  | nil => cases h
  | cons step steps =>
    cases step with
    | fail message => cases h
    | data whole =>
      rcases Nat.lt_or_ge n whole.length with hLong | hShort
      · rw [read_data_of_lt steps hLong] at h
        cases h
        exact List.length_take_le n whole
      · rw [read_data_of_le steps hShort] at h
        cases h
        exact hShort

theorem read_eq_closed_iff {n : Nat} {script : Script} :
    (script.read n).1 = .error .closed ↔ script = [] := by
  constructor
  · intro h
    cases script with
    | nil => rfl
    | cons step steps =>
      cases step with
      | fail message => cases h
      | data b =>
        rw [read] at h
        split at h <;> cases h
  · rintro rfl
    rfl

/-- A failure and what stands before and behind it in a script. It is still to come, and then so is
all behind it, or it was reported between the two. -/
inductive Placed (before : Script) (message : String) (behind : Script)
    (outcomes : List (Except StreamError Bytes)) (left : Script) : Prop where
  | pending {rest : Script} (hLeft : left = rest ++ .fail message :: behind)
      (hBefore : Conserved before outcomes rest)
  | reported (earlier later : List (Except StreamError Bytes))
      (hOutcomes : outcomes = earlier ++ .error (.failed message) :: later)
      (hBefore : Conserved before earlier []) (hBehind : Conserved behind later left)

end Script

namespace Memory

open Script

theorem exists_read_eq (script : Script) (n : Nat) (w : World) :
    ∃ w', host.read ⟨script⟩ n w = ((script.read n).1, ⟨(script.read n).2⟩, w') := by
  simp only [InputStream.read]
  rcases script.read n with ⟨e | b, left⟩
  · exact ⟨w, rfl⟩
  · exact ⟨w.record (.read b.length), rfl⟩

/-- Reads of these lengths take a script to what is left of it, with these outcomes. -/
inductive Replays : List Nat → Script → List (Except StreamError Bytes) → Script → Prop where
  | nil (script : Script) : Replays [] script [] script
  | cons {n : Nat} {lengths : List Nat} {script left : Script}
      {outcomes : List (Except StreamError Bytes)}
      (hRest : Replays lengths (script.read n).2 outcomes left) :
      Replays (n :: lengths) script ((script.read n).1 :: outcomes) left

theorem exists_replays (lengths : List Nat) (script : Script) (w : World) :
    ∃ outcomes left w', host.readEach lengths ⟨script⟩ w = (outcomes, ⟨left⟩, w') ∧
      Replays lengths script outcomes left := by
  induction lengths generalizing script w with
  | nil => exact ⟨[], script, w, rfl, .nil script⟩
  | cons n lengths ih =>
    obtain ⟨w₁, hRead⟩ := exists_read_eq script n w
    obtain ⟨outcomes, left, w', hRun, hReplays⟩ := ih (script.read n).2 w₁
    refine ⟨_, left, w', ?_, .cons hReplays⟩
    rw [Host.readEach, hRead]
    simp only [hRun]

namespace Replays

variable {lengths : List Nat} {script left : Script} {outcomes : List (Except StreamError Bytes)}

theorem conserved (h : Replays lengths script outcomes left) :
    Conserved script outcomes left := by
  induction h with
  | nil script => exact .refl script
  | @cons n lengths script left outcomes _ ih => exact (conserved_read n script).trans ih

theorem lengths_le (h : Replays lengths script outcomes left) :
    List.Forall₂ (fun n outcome => ∀ b, outcome = .ok b → b.length ≤ n) lengths outcomes := by
  induction h with
  | nil => exact .nil
  | cons _ ih => exact .cons (fun b hOk => length_le_of_read hOk) ih

theorem placed {before behind : Script} {message : String}
    (h : Replays lengths (before ++ .fail message :: behind) outcomes left) :
    Placed before message behind outcomes left := by
  -- what is read next comes from the steps before the failure, as long as there are any
  induction lengths generalizing before outcomes with
  | nil =>
    cases h
    exact .pending rfl (.refl before)
  | cons n lengths ih =>
    cases before with
    | nil =>
      cases h with
      | cons hRest => exact .reported [] _ rfl (.refl []) hRest.conserved
    | cons step before =>
      obtain ⟨outcome, rest, hConserved, hRead⟩ := exists_read_append n step before
      cases h with
      | cons hRest =>
        rw [List.cons_append, hRead] at hRest ⊢
        cases ih hRest with
        | pending hLeft hBefore => exact .pending hLeft (hConserved.trans hBefore)
        | reported earlier later hOutcomes hBefore hBehind =>
          rw [hOutcomes]
          exact .reported (outcome :: earlier) later rfl (hConserved.trans hBefore) hBehind

end Replays

theorem readEach_exhausted (lengths : List Nat) (w : World) :
    host.readEach lengths (InputStream.mk []) w =
      (lengths.map fun _ => .error .closed, ⟨[]⟩, w) := by
  induction lengths with
  | nil => rfl
  | cons n lengths ih =>
    have hRead : host.read (InputStream.mk []) n w = (.error .closed, ⟨[]⟩, w) := rfl
    rw [Host.readEach, hRead]
    simp only [ih]
    rfl

/-- Whatever the lengths of the reads, what they give and report and what they leave is the script:
no read gives more than it may, every failure has its place, and the end is reported from when
nothing is left, and not before. -/
theorem reads_conserve_script (script : Script) (lengths : List Nat) (w : World) :
    ∃ outcomes left w', host.readEach lengths ⟨script⟩ w = (outcomes, ⟨left⟩, w') ∧
      Conserved script outcomes left ∧
      List.Forall₂ (fun n outcome => ∀ b, outcome = .ok b → b.length ≤ n) lengths outcomes ∧
      (∀ before message behind, script = before ++ .fail message :: behind →
        Placed before message behind outcomes left) ∧
      (∀ n, (host.read (InputStream.mk left) n w').1 = .error .closed ↔ left = []) ∧
      (left = [] → ∀ more, host.readEach more (InputStream.mk left) w' =
        (more.map fun _ => .error .closed, ⟨[]⟩, w')) := by
  obtain ⟨outcomes, left, w', hRun, hReplays⟩ := exists_replays lengths script w
  refine ⟨outcomes, left, w', hRun, hReplays.conserved, hReplays.lengths_le, ?_, ?_, ?_⟩
  · rintro before message behind rfl
    exact hReplays.placed
  · intro n
    obtain ⟨w₁, hRead⟩ := exists_read_eq left n w'
    rw [hRead]
    exact read_eq_closed_iff
  · rintro rfl more
    exact readEach_exhausted more w'

example :
    (host.readEach [0, 2, 0, 5, 1, 9, 1] (InputStream.mk [.data [1, 2, 3], .fail "cut", .data [4]])
      ⟨.empty, [], 0⟩).1 =
      [.ok [], .ok [1, 2], .ok [], .ok [3], .error (.failed "cut"), .ok [4], .error .closed] := rfl

end Memory

end BufferedHttp
