import BufferedHttp.Host.Basic

/-!
# Reading a body whole

Reads of a fixed bound follow each other until the stream is closed. The stream is dropped in
every case, then the body is given back, or dropped when a read failed.
-/

namespace BufferedHttp

namespace Host

variable {World : Type}

/-- The bytes up to the end of a stream behind those already read, or the message of the first
failing read. -/
def readAll (host : Host World) {bound : Nat} (pos : 0 < bound) (stream : host.InputStream)
    (before : Bytes) (w : World) : Except String Bytes × host.InputStream × World :=
  match h : host.read stream bound w with
  | (.ok bytes, stream', w) =>
    have := host.unread_read pos h
    host.readAll pos stream' (before ++ bytes) w
  | (.error .closed, stream', w) => (.ok before, stream', w)
  | (.error (.failed message), stream', w) => (.error message, stream', w)
  termination_by host.unread stream

theorem readAll_of_ok (host : Host World) {bound : Nat} (pos : 0 < bound)
    {stream stream' : host.InputStream} {w w' : World} {bytes : Bytes} (before : Bytes)
    (h : host.read stream bound w = (.ok bytes, stream', w')) :
    host.readAll pos stream before w = host.readAll pos stream' (before ++ bytes) w' := by
  rw [readAll]
  split <;> simp_all

theorem readAll_of_closed (host : Host World) {bound : Nat} (pos : 0 < bound)
    {stream stream' : host.InputStream} {w w' : World} (before : Bytes)
    (h : host.read stream bound w = (.error .closed, stream', w')) :
    host.readAll pos stream before w = (.ok before, stream', w') := by
  rw [readAll]
  split <;> simp_all

theorem readAll_of_failed (host : Host World) {bound : Nat} (pos : 0 < bound)
    {stream stream' : host.InputStream} {w w' : World} {message : String} (before : Bytes)
    (h : host.read stream bound w = (.error (.failed message), stream', w')) :
    host.readAll pos stream before w = (.error message, stream', w') := by
  rw [readAll]
  split <;> simp_all

/-- What every read keeps, reading to the end keeps. -/
theorem readAll_keeps (host : Host World) {bound : Nat} (pos : 0 < bound)
    {P : host.InputStream → World → Prop}
    (read_keeps : ∀ s w, P s w → P (host.read s bound w).2.1 (host.read s bound w).2.2)
    (stream : host.InputStream) (before : Bytes) (w : World) (h : P stream w) :
    P (host.readAll pos stream before w).2.1 (host.readAll pos stream before w).2.2 := by
  have kept := read_keeps stream w h
  match hr : host.read stream bound w with
  | (.ok bytes, stream', w') =>
    have := host.unread_read pos hr
    rw [readAll_of_ok host pos before hr]
    rw [hr] at kept
    exact readAll_keeps host pos read_keeps stream' (before ++ bytes) w' kept
  | (.error .closed, stream', w') =>
    rw [readAll_of_closed host pos before hr]
    rwa [hr] at kept
  | (.error (.failed message), stream', w') =>
    rw [readAll_of_failed host pos before hr]
    rwa [hr] at kept
  termination_by host.unread stream

def readOut (host : Host World) {bound : Nat} (pos : 0 < bound) (stream : host.InputStream) :
    Action World Bytes :=
  .ofCall fun w =>
    let (result, stream, w) := host.readAll pos stream [] w
    (result.mapError .stream, host.dropInput stream w)

/-- The bytes of a body, which is released. -/
def drain (host : Host World) {bound : Nat} (pos : 0 < bound) (body : host.IncomingBody) :
    Action World Bytes := do
  let (stream, body) ← (host.openInput body).onFailure (host.dropIncoming body)
  let bytes ← (host.readOut pos stream).onFailure (host.dropIncoming body)
  modify (host.finishIncoming body)
  return bytes

end Host

end BufferedHttp
