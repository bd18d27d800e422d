import BufferedHttp.Memory.Resource
import BufferedHttp.Proofs.Action

/-!
# How a recording grows

Runs on the host in memory add to the recording: events alone, the events of writes with their
bytes, or the resolution of an out-parameter. A run is described by what it adds.
-/

namespace BufferedHttp.Memory

def writeEvents (written : List Bytes) : List Event :=
  written.map fun chunk => .write chunk.length

theorem notMem_writeEvents {written : List Bytes} {e : Event} (h : ∀ n, e ≠ .write n) :
    e ∉ writeEvents written := by
  rw [writeEvents, List.mem_map]
  rintro ⟨chunk, -, hWrite⟩
  exact h chunk.length hWrite.symm

namespace World

def recordAll (w : World) (events : List Event) : World :=
  { w with recording := { w.recording with events := w.recording.events ++ events } }

def recordWrites (w : World) (chunks : List Bytes) : World :=
  { w with recording := { w.recording with
    events := w.recording.events ++ writeEvents chunks
    writes := w.recording.writes ++ chunks.map List.length
    body := w.recording.body ++ chunks.flatten } }

/-- The world behind sends that recorded these events and requests and left these replies. -/
def afterSends (w : World) (events : List Event) (sent : List (RequestHead × Option RequestOptions))
    (replies : List Reply) : World :=
  { w with
    recording := { w.recording with
      events := w.recording.events ++ events
      sent := w.recording.sent ++ sent }
    replies }

theorem afterSends_nil (w : World) : w.afterSends [] [] w.replies = w := by
  simp [afterSends]

theorem afterSends_afterSends (w : World) (first second : List Event)
    (sent₁ sent₂ : List (RequestHead × Option RequestOptions)) (replies₁ replies₂ : List Reply) :
    (w.afterSends first sent₁ replies₁).afterSends second sent₂ replies₂ =
      w.afterSends (first ++ second) (sent₁ ++ sent₂) replies₂ := by
  simp [afterSends]

@[simp] theorem recordAll_nil (w : World) : w.recordAll [] = w := by
  simp [recordAll]

@[simp] theorem recordAll_recordAll (w : World) (first second : List Event) :
    (w.recordAll first).recordAll second = w.recordAll (first ++ second) := by
  simp [recordAll]

theorem record_eq_recordAll (w : World) (e : Event) : w.record e = w.recordAll [e] := rfl

@[simp] theorem recordWrites_nil (w : World) : w.recordWrites [] = w := by
  simp [recordWrites, writeEvents]

theorem recordWrites_cons (w : World) (chunk : Bytes) (chunks : List Bytes) :
    w.recordWrites (chunk :: chunks) =
      { w with recording := w.recording.addWrite chunk }.recordWrites chunks := by
  simp [recordWrites, writeEvents, Recording.addWrite, Recording.add]

section Fields

variable (w : World) (events : List Event) (chunks : List Bytes) (r : OutgoingResponse)
  (message : String)

@[simp] theorem events_recordAll :
    (w.recordAll events).recording.events = w.recording.events ++ events := rfl

@[simp] theorem resolutions_recordAll :
    (w.recordAll events).recording.resolutions = w.recording.resolutions := rfl

@[simp] theorem status_recordAll :
    (w.recordAll events).recording.status = w.recording.status := rfl

@[simp] theorem headers_recordAll :
    (w.recordAll events).recording.headers = w.recording.headers := rfl

@[simp] theorem body_recordAll : (w.recordAll events).recording.body = w.recording.body := rfl

@[simp] theorem writes_recordAll :
    (w.recordAll events).recording.writes = w.recording.writes := rfl

@[simp] theorem replies_recordAll : (w.recordAll events).replies = w.replies := rfl

@[simp] theorem pending_recordAll : (w.recordAll events).pending = w.pending := rfl

@[simp] theorem events_recordWrites : (w.recordWrites chunks).recording.events =
    w.recording.events ++ writeEvents chunks := rfl

@[simp] theorem resolutions_recordWrites :
    (w.recordWrites chunks).recording.resolutions = w.recording.resolutions := rfl

@[simp] theorem status_recordWrites :
    (w.recordWrites chunks).recording.status = w.recording.status := rfl

@[simp] theorem headers_recordWrites :
    (w.recordWrites chunks).recording.headers = w.recording.headers := rfl

@[simp] theorem body_recordWrites :
    (w.recordWrites chunks).recording.body = w.recording.body ++ chunks.flatten := rfl

@[simp] theorem events_resolve :
    (w.resolve r).recording.events = w.recording.events ++ [.outparamSet] := rfl

@[simp] theorem resolutions_resolve :
    (w.resolve r).recording.resolutions = w.recording.resolutions + 1 := rfl

@[simp] theorem status_resolve : (w.resolve r).recording.status = some r.status := rfl

@[simp] theorem headers_resolve : (w.resolve r).recording.headers = r.headers := rfl

@[simp] theorem body_resolve : (w.resolve r).recording.body = w.recording.body := rfl

@[simp] theorem events_reject :
    (w.reject message).recording.events = w.recording.events ++ [.outparamFailed] := rfl

@[simp] theorem resolutions_reject :
    (w.reject message).recording.resolutions = w.recording.resolutions + 1 := rfl

@[simp] theorem status_reject :
    (w.reject message).recording.status = w.recording.status := rfl

@[simp] theorem headers_reject :
    (w.reject message).recording.headers = w.recording.headers := rfl

@[simp] theorem body_reject : (w.reject message).recording.body = w.recording.body := rfl

@[simp] theorem writes_reject :
    (w.reject message).recording.writes = w.recording.writes := rfl

end Fields

end World

variable {α : Type}

/-- What a run adds to the recording. -/
def added (act : Action World α) (w : World) : Recording :=
  (act.after w).recording.since w.recording

theorem events_added {act : Action World α} {w w' : World} {r : Except Error α}
    {events : List Event} (hRun : act w = Action.ofExcept r w')
    (hEvents : w'.recording.events = w.recording.events ++ events) :
    (added act w).events = events := by
  rw [added, Action.after_of_eq hRun, Recording.since, hEvents, List.drop_left]

end BufferedHttp.Memory
