import BufferedHttp.Memory.Resource

/-!
# The host in memory

The resources and their effects as a host. Dropping a stream, a pollable or a future is recorded,
dropping anything else leaves no trace.
-/

namespace BufferedHttp.Memory

/-- A pollable knows nothing that its future does not. -/
structure Pollable where

@[reducible] def host : Host World where
  IncomingBody := IncomingBody
  InputStream := InputStream
  openInput b := .ofExcept b.stream
  read := InputStream.read
  dropInput _ w := w.record .inputStreamDropped
  finishIncoming _ w := w.record .incomingBodyFinished
  dropIncoming _ w := w
  unread s := s.script.size
  unread_read := by
    intro s n w bytes s' w' pos h
    unfold InputStream.read at h
    split at h
    · rename_i heq
      obtain ⟨h₁, h₂⟩ := Prod.mk.inj h
      obtain ⟨rfl, -⟩ := Prod.mk.inj h₂
      exact Script.size_read_lt pos heq
    · exact absurd (Prod.mk.inj h).1 (by simp)
  IncomingRequest := IncomingRequest
  requestMethod r w := (r.method, w)
  requestPath r w := (r.path, w)
  requestHeaders r w := (r.headers, w)
  consumeRequest r := .ofExcept r.consume
  dropRequest _ w := w
  Outparam := Outparam
  OutgoingResponse := OutgoingResponse
  OutgoingBody := OutgoingBody
  OutputStream := OutputStream
  newResponse o headers := .ofExcept (o.newResponse headers)
  setStatus r status := .ofCall (r.setStatus status)
  takeBody r := .ofExcept r.body
  dropResponse _ w := w
  resolve _ r w := w.resolve r
  reject _ message w := w.reject message
  openOutput b := .ofExcept b.stream
  write := OutputStream.write
  dropOutput _ w := w.record .outputStreamDropped
  finishOutgoing b := .ofCall b.finish
  dropOutgoing _ w := w
  Future := Future
  Pollable := Pollable
  IncomingResponse := IncomingResponse
  handle head options := .ofCall fun w => w.handle head options
  subscribe _ w := (⟨⟩, w)
  poll f w := (f.poll.1, f.poll.2, w)
  block _ f w := (f.block, w.record .blocked)
  dropPollable _ w := w.record .pollableDropped
  dropFuture _ w := w.record .futureDropped
  waits f := f.pending
  waits_block := by
    intro p f f' w w' h
    unfold Future.poll at h
    split at h
    · obtain ⟨-, rfl, -⟩ := h
      simp only [Future.block]
      omega
    · split at h <;> simp at h
  responseStatus r w := (r.status, w)
  responseHeaders r w := (r.headers, w)
  consumeResponse r := .ofExcept r.consume
  dropIncomingResponse _ w := w

end BufferedHttp.Memory
