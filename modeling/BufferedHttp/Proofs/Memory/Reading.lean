import BufferedHttp.Memory.Host
import BufferedHttp.Proofs.Host.Phases
import BufferedHttp.Proofs.Memory.Recording

/-!
# Reading a script to its end

The reads of a script take each data step in pieces of the bound. What they give together does not
depend on the bound: the data of all steps, or the message of the first step that fails.
-/

namespace BufferedHttp

namespace Script

def bytes (s : Script) : Bytes :=
  s.flatMap fun
    | .data b => b
    | .fail _ => []

/-- The message of the first step that fails. -/
def failure? (s : Script) : Option String :=
  s.findSome? fun
    | .data _ => none
    | .fail message => some message

def rest : Script → Script
  | [] => []
  | .fail _ :: steps => steps
  | .data _ :: steps => rest steps

def content (s : Script) : Except String Bytes :=
  match s.failure? with
  | none => .ok s.bytes
  | some message => .error message

/-- The lengths of the reads that take `n` bytes of one step. -/
def pieceLengths (bound n : Nat) : List Nat :=
  if n = 0 then [0]
  else List.replicate (n / bound) bound ++ if n % bound = 0 then [] else [n % bound]

def lengths (bound : Nat) : Script → List Nat
  | [] => []
  | .fail _ :: _ => []
  | .data b :: steps => pieceLengths bound b.length ++ lengths bound steps

theorem pieceLengths_of_le {bound n : Nat} (pos : 0 < bound) (h : n ≤ bound) :
    pieceLengths bound n = [n] := by
  rw [pieceLengths]
  rcases Nat.eq_zero_or_pos n with hZero | hPos
  · rw [if_pos hZero, hZero]
  · rw [if_neg (by omega)]
    rcases Nat.lt_or_eq_of_le h with hLt | rfl
    · rw [Nat.div_eq_of_lt hLt, Nat.mod_eq_of_lt hLt, if_neg (by omega)]
      rfl
    · rw [Nat.div_self pos, Nat.mod_self]
      rfl

theorem pieceLengths_of_lt {bound n : Nat} (pos : 0 < bound) (h : bound < n) :
    pieceLengths bound n = bound :: pieceLengths bound (n - bound) := by
  have hDiv : n / bound = (n - bound) / bound + 1 := Nat.div_eq_sub_div pos (Nat.le_of_lt h)
  have hMod : n % bound = (n - bound) % bound := Nat.mod_eq_sub_mod (Nat.le_of_lt h)
  have hRest : n - bound ≠ 0 := by omega
  have hWhole : n ≠ 0 := by omega
  rw [pieceLengths, pieceLengths, if_neg hWhole, if_neg hRest, hDiv, hMod, List.replicate_succ,
    List.cons_append]

theorem read_data_of_lt {bound : Nat} {b : Bytes} (steps : Script) (h : bound < b.length) :
    read bound (.data b :: steps) = (.ok (b.take bound), .data (b.drop bound) :: steps) := by
  rw [read, if_pos h]

theorem read_data_of_le {bound : Nat} {b : Bytes} (steps : Script) (h : b.length ≤ bound) :
    read bound (.data b :: steps) = (.ok b, steps) := by
  rw [read, if_neg (Nat.not_lt.mpr h)]

theorem content_data (b : Bytes) (steps : Script) :
    content (.data b :: steps) = (content steps).map (b ++ ·) := by
  have hFailure : failure? (.data b :: steps) = failure? steps := rfl
  have hBytes : bytes (.data b :: steps) = b ++ bytes steps := rfl
  rw [content, content, hFailure, hBytes]
  cases failure? steps <;> rfl

end Script

namespace Memory

theorem InputStream.read_of_ok {bound : Nat} {script script' : Script} {b : Bytes} (w : World)
    (h : script.read bound = (.ok b, script')) :
    host.read ⟨script⟩ bound w = (.ok b, ⟨script'⟩, w.recordAll [.read b.length]) := by
  simp only [InputStream.read, h, World.record_eq_recordAll]

/-- Reading to the end gives the whole content behind what was read before, in the reads that the
bound demands, and leaves what is behind a failure. -/
theorem readAll_eq {bound : Nat} (pos : 0 < bound) (script : Script) (before : Bytes) (w : World) :
    host.readAll pos (InputStream.mk script) before w =
      (script.content.map (before ++ ·), ⟨script.rest⟩,
        w.recordAll ((script.lengths bound).map .read)) := by
  match script with
  | [] =>
    have hRead : host.read ⟨[]⟩ bound w = (.error .closed, ⟨[]⟩, w) := rfl
    rw [host.readAll_of_closed pos before hRead]
    simp [Script.content, Script.failure?, Script.bytes, Script.rest, Script.lengths, Except.map]
  | .fail message :: steps =>
    have hRead : host.read ⟨.fail message :: steps⟩ bound w =
        (.error (.failed message), ⟨steps⟩, w) := rfl
    rw [host.readAll_of_failed pos before hRead]
    simp [Script.content, Script.failure?, Script.rest, Script.lengths, Except.map]
  | .data b :: steps =>
    rcases Nat.lt_or_ge bound b.length with hLong | hShort
    · have hRead := Script.read_data_of_lt steps hLong
      have hSmaller := Script.size_read_lt pos hRead
      rw [host.readAll_of_ok pos before (InputStream.read_of_ok w hRead),
        readAll_eq pos (.data (b.drop bound) :: steps), World.recordAll_recordAll,
        Script.content_data, Script.content_data, Script.lengths, Script.lengths,
        Script.pieceLengths_of_lt pos hLong, List.length_take, List.length_drop,
        Nat.min_eq_left (Nat.le_of_lt hLong)]
      cases Script.content steps with
      | error message => rfl
      | ok bytes =>
        have hJoin : b.take bound ++ (b.drop bound ++ bytes) = b ++ bytes := by
          rw [← List.append_assoc, List.take_append_drop]
        simp [Except.map, Script.rest, hJoin]
    · have hRead := Script.read_data_of_le steps hShort
      have hSmaller := Script.size_read_lt pos hRead
      rw [host.readAll_of_ok pos before (InputStream.read_of_ok w hRead), readAll_eq pos steps,
        World.recordAll_recordAll, Script.content_data, Script.lengths,
        Script.pieceLengths_of_le pos hShort]
      cases Script.content steps with
      | error message => rfl
      | ok bytes => simp [Except.map, Script.rest]
  termination_by script.size

/-- The events of reading a stream: its reads, its end, and the body given back when it was read
to the end. -/
def readingEvents (bound : Nat) (script : Script) : List Event :=
  (script.lengths bound).map .read ++
    .inputStreamDropped :: if script.failure? = none then [.incomingBodyFinished] else []

/-- What comes of a body, and the events on the way. The stream of the body is its script, if there
is one. -/
def gather (bound : Nat) : Except Error Script → Except Error Bytes × List Event
  | .error e => (.error e, [])
  | .ok script => (script.content.mapError .stream, readingEvents bound script)

theorem gather_of_failure {bound : Nat} {script : Script} {message : String}
    (h : script.failure? = some message) :
    gather bound (.ok script) = (.error (.stream message), readingEvents bound script) := by
  rw [gather, Script.content, h]
  rfl

theorem gather_of_none {bound : Nat} {script : Script} (h : script.failure? = none) :
    gather bound (.ok script) = (.ok script.bytes, readingEvents bound script) := by
  rw [gather, Script.content, h]
  rfl

theorem gather_eq_error {bound : Nat} {source : Except Error Script} {e : Error}
    {reading : List Event} (h : gather bound source = (.error e, reading)) :
    source = .error e ∧ reading = [] ∨
      ∃ script message, source = .ok script ∧ script.failure? = some message ∧
        e = .stream message ∧ reading = readingEvents bound script := by
  cases source with
  | error e' =>
    cases h
    exact .inl ⟨rfl, rfl⟩
  | ok script =>
    cases hFailure : script.failure? with
    | none =>
      rw [gather_of_none hFailure] at h
      cases h
    | some message =>
      rw [gather_of_failure hFailure] at h
      cases h
      exact .inr ⟨script, message, rfl, hFailure, rfl, rfl⟩

theorem gather_eq_ok {bound : Nat} {source : Except Error Script} {bytes : Bytes}
    {reading : List Event} (h : gather bound source = (.ok bytes, reading)) :
    ∃ script, source = .ok script ∧ script.failure? = none ∧ bytes = script.bytes ∧
      reading = readingEvents bound script := by
  cases source with
  | error e => cases h
  | ok script =>
    cases hFailure : script.failure? with
    | none =>
      rw [gather_of_none hFailure] at h
      cases h
      exact ⟨script, rfl, hFailure, rfl, rfl⟩
    | some message =>
      rw [gather_of_failure hFailure] at h
      cases h

def IncomingBody.source (b : IncomingBody) : Except Error Script :=
  b.stream.map fun (stream, _) => stream.script

theorem readOut_eq {bound : Nat} (pos : 0 < bound) (stream : InputStream) (w : World) :
    host.readOut pos stream w = Action.ofExcept (stream.script.content.mapError .stream)
      (w.recordAll ((stream.script.lengths bound).map .read ++ [.inputStreamDropped])) := by
  apply Action.ofCall_eq_ofExcept
  simp only [readAll_eq pos stream.script [] w, World.record_eq_recordAll,
    World.recordAll_recordAll]
  cases stream.script.content <;> rfl

theorem readingEvents_of_failure {bound : Nat} {script : Script} {message : String}
    (h : script.failure? = some message) :
    readingEvents bound script = (script.lengths bound).map .read ++ [.inputStreamDropped] := by
  simp [readingEvents, h]

theorem readingEvents_of_none {bound : Nat} {script : Script} (h : script.failure? = none) :
    readingEvents bound script =
      ((script.lengths bound).map .read ++ [.inputStreamDropped]) ++ [.incomingBodyFinished] := by
  simp [readingEvents, h]

theorem drain_of_failure {bound : Nat} (pos : 0 < bound) {body body' : IncomingBody}
    {stream : InputStream} {w : World} {message : String}
    (h : host.openInput body w = .ok (stream, body') w)
    (hFailure : stream.script.failure? = some message) :
    host.drain pos body w =
      .error (.stream message) (w.recordAll (readingEvents bound stream.script)) := by
  have hOut := readOut_eq pos stream w
  rw [Script.content, hFailure] at hOut
  rw [readingEvents_of_failure hFailure]
  exact Host.drain_of_read_error pos h hOut

theorem drain_of_none {bound : Nat} (pos : 0 < bound) {body body' : IncomingBody}
    {stream : InputStream} {w : World} (h : host.openInput body w = .ok (stream, body') w)
    (hFailure : stream.script.failure? = none) :
    host.drain pos body w =
      .ok stream.script.bytes (w.recordAll (readingEvents bound stream.script)) := by
  have hOut := readOut_eq pos stream w
  rw [Script.content, hFailure] at hOut
  rw [readingEvents_of_none hFailure, ← World.recordAll_recordAll]
  exact Host.drain_of_read_ok pos h hOut

theorem drain_eq {bound : Nat} (pos : 0 < bound) (body : IncomingBody) (w : World) :
    host.drain pos body w =
      Action.ofExcept (gather bound body.source).1 (w.recordAll (gather bound body.source).2) := by
  rw [IncomingBody.source]
  cases hStream : body.stream with
  | error e =>
    have hOpen : host.openInput body w = .error e w := by
      simp only [hStream, Action.ofExcept]
    rw [Host.drain_of_open_error pos hOpen, Except.map, gather, World.recordAll_nil]
    rfl
  | ok opened =>
    obtain ⟨stream, body'⟩ := opened
    have hOpen : host.openInput body w = .ok (stream, body') w := by
      simp only [hStream, Action.ofExcept]
    rw [Except.map]
    cases hFailure : stream.script.failure? with
    | none =>
      rw [drain_of_none pos hOpen hFailure, gather_of_none hFailure]
      rfl
    | some message =>
      rw [drain_of_failure pos hOpen hFailure, gather_of_failure hFailure]
      rfl

/-- The body is given back when reading ended at the end of the stream. -/
theorem events_drain {bound : Nat} (pos : 0 < bound) {body body' : IncomingBody}
    {stream : InputStream} {w : World} (h : host.openInput body w = .ok (stream, body') w) :
    (added (host.drain pos body) w).events =
      (stream.script.lengths bound).map .read ++ .inputStreamDropped ::
        if (host.readAll pos stream [] w).1.isOk then [.incomingBodyFinished] else [] := by
  have hStream : body.stream = .ok (stream, body') := by
    have hTaken : Action.ofExcept body.stream w = .ok (stream, body') w := h
    cases hOpened : body.stream with
    | error e =>
      rw [hOpened, Action.ofExcept_error] at hTaken
      cases hTaken
    | ok opened =>
      rw [hOpened, Action.ofExcept_ok] at hTaken
      cases hTaken
      rfl
  have hSource : body.source = .ok stream.script := by
    rw [IncomingBody.source, hStream]
    rfl
  rw [events_added (drain_eq pos body w) rfl, hSource, readAll_eq pos stream.script [] w]
  rw [gather, readingEvents, Script.content]
  cases stream.script.failure? <;> rfl

end Memory

end BufferedHttp
