/-!
# What can go wrong between a host and a handler

A stream that ends is not among these errors: the end of a stream ends a read loop.
-/

namespace BufferedHttp

inductive Error where
  /-- A stream failed with something other than its end. -/
  | stream (message : String)
  /-- A body or a stream could not be taken from its parent. -/
  | body (message : String)
  /-- A header was not decodable, or the host rejected it. -/
  | header (message : String)
  | invalidUri (uri reason : String)
  /-- Outgoing requests carry no body. -/
  | outgoingBodyUnsupported
  /-- The host reported a transport error for an outgoing request. -/
  | transport (message : String)
  /-- The response of an outgoing request had been taken before. -/
  | responseAlreadyTaken
  | host (message : String)
  | config (message : String)
  deriving DecidableEq

def Error.message : Error → String
  | .stream m => s!"stream error: {m}"
  | .body m => s!"body error: {m}"
  | .header m => s!"header error: {m}"
  | .invalidUri uri reason => "invalid uri `" ++ uri ++ "`: " ++ reason
  | .outgoingBodyUnsupported => "outgoing request bodies are not supported"
  | .transport m => s!"transport error: {m}"
  | .responseAlreadyTaken => "incoming response already taken"
  | .host m => s!"host error: {m}"
  | .config m => s!"invalid adapter config: {m}"

end BufferedHttp
