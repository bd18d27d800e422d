import BufferedHttp.Host.Basic
import BufferedHttp.Transfer.Chunks

/-!
# Writing a body whole

The bytes are written in chunks, none larger than the bound, until a write fails. The stream is
dropped in every case, then the body is finished, or dropped when a write failed.
-/

namespace BufferedHttp

/-- The error of a write that failed. -/
def StreamError.ofWrite : StreamError → Error
  | .closed => .stream "output stream closed"
  | .failed message => .stream message

def chunked {size : Nat} (pos : 0 < size) (bytes : Bytes) : List Bytes :=
  (Chunks.ofBytes bytes size pos).toList

namespace Host

variable {World : Type}

def writeAll (host : Host World) :
    List Bytes → host.OutputStream → World → Except Error Unit × host.OutputStream × World
  | [], stream, w => (.ok (), stream, w)
  | chunk :: chunks, stream, w =>
    match host.write stream chunk w with
    | (.ok _, stream, w) => host.writeAll chunks stream w
    | (.error e, stream, w) => (.error e.ofWrite, stream, w)

theorem writeAll_of_ok (host : Host World) {stream stream' : host.OutputStream} {chunk : Bytes}
    {w w' : World} (chunks : List Bytes) (h : host.write stream chunk w = (.ok (), stream', w')) :
    host.writeAll (chunk :: chunks) stream w = host.writeAll chunks stream' w' := by
  simp only [writeAll, h]

theorem writeAll_of_error (host : Host World) {stream stream' : host.OutputStream} {chunk : Bytes}
    {w w' : World} {e : StreamError} (chunks : List Bytes)
    (h : host.write stream chunk w = (.error e, stream', w')) :
    host.writeAll (chunk :: chunks) stream w = (.error e.ofWrite, stream', w') := by
  simp only [writeAll, h]

/-- What every write keeps, writing all chunks keeps. -/
theorem writeAll_keeps (host : Host World) {P : host.OutputStream → World → Prop}
    (write_keeps : ∀ s bytes w, P s w → P (host.write s bytes w).2.1 (host.write s bytes w).2.2)
    (chunks : List Bytes) (stream : host.OutputStream) (w : World) (h : P stream w) :
    P (host.writeAll chunks stream w).2.1 (host.writeAll chunks stream w).2.2 := by
  induction chunks generalizing stream w with
  | nil => exact h
  | cons chunk chunks ih =>
    have kept := write_keeps stream chunk w h
    rw [writeAll]
    split
    · rename_i hw
      rw [hw] at kept
      exact ih _ _ kept
    · rename_i hw
      rwa [hw] at kept

def writeOut (host : Host World) (chunks : List Bytes) (stream : host.OutputStream) :
    Action World Unit :=
  .ofCall fun w =>
    let (result, stream, w) := host.writeAll chunks stream w
    (result, host.dropOutput stream w)

def fill (host : Host World) (body : host.OutgoingBody) (chunks : List Bytes) :
    Action World Unit := do
  let (stream, body) ← (host.openOutput body).onFailure (host.dropOutgoing body)
  (host.writeOut chunks stream).onFailure (host.dropOutgoing body)
  host.finishOutgoing body

end Host

end BufferedHttp
