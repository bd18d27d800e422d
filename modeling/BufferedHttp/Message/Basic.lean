import BufferedHttp.Message.Header
import BufferedHttp.Message.Method

/-!
# Buffered messages

A request and a response hold their whole bodies. A body of no bytes is a body; `none` says that
there is none.
-/

namespace BufferedHttp

structure Request where
  method : Method
  uri : String
  headers : HeaderMap
  body : Option Bytes
  deriving DecidableEq

namespace Request

def get (uri : String) : Request := ⟨.get, uri, .empty, none⟩

def bodyBytes (r : Request) : Bytes := r.body.getD []

end Request

structure Response where
  status : UInt16
  headers : HeaderMap
  body : Option Bytes
  deriving DecidableEq

namespace Response

def text (status : UInt16) (body : String) : Response :=
  ⟨status, .ofList [("content-type", "text/plain")], some (Text.Utf8.encode body)⟩

def bodyBytes (r : Response) : Bytes := r.body.getD []

end Response

end BufferedHttp
