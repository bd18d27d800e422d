import BufferedHttp.Text.Quoted

/-!
# Error codes of the component interface

The codes with which an HTTP exchange fails, some of them with details, and their text. Details
that are texts are quoted.
-/

namespace BufferedHttp.Component

structure DnsErrorPayload where
  rcode : Option String
  infoCode : Option UInt16
  deriving DecidableEq

structure TlsAlertReceivedPayload where
  alertId : Option UInt8
  alertMessage : Option String
  deriving DecidableEq

structure FieldSizePayload where
  fieldName : Option String
  fieldSize : Option UInt32
  deriving DecidableEq

inductive ErrorCode where
  | dnsTimeout
  | dnsError (payload : DnsErrorPayload)
  | destinationNotFound
  | destinationUnavailable
  | destinationIpProhibited
  | destinationIpUnroutable
  | connectionRefused
  | connectionTerminated
  | connectionTimeout
  | connectionReadTimeout
  | connectionWriteTimeout
  | connectionLimitReached
  | tlsProtocolError
  | tlsCertificateError
  | tlsAlertReceived (payload : TlsAlertReceivedPayload)
  | httpRequestDenied
  | httpRequestLengthRequired
  | httpRequestBodySize (size : Option UInt64)
  | httpRequestMethodInvalid
  | httpRequestUriInvalid
  | httpRequestUriTooLong
  | httpRequestHeaderSectionSize (size : Option UInt32)
  | httpRequestHeaderSize (payload : Option FieldSizePayload)
  | httpRequestTrailerSectionSize (size : Option UInt32)
  | httpRequestTrailerSize (payload : FieldSizePayload)
  | httpResponseIncomplete
  | httpResponseHeaderSectionSize (size : Option UInt32)
  | httpResponseHeaderSize (payload : FieldSizePayload)
  | httpResponseBodySize (size : Option UInt64)
  | httpResponseTrailerSectionSize (size : Option UInt32)
  | httpResponseTrailerSize (payload : FieldSizePayload)
  | httpResponseTransferCoding (coding : Option String)
  | httpResponseContentCoding (coding : Option String)
  | httpResponseTimeout
  | httpUpgradeFailed
  | httpProtocolError
  | loopDetected
  | configurationError
  | internalError (message : Option String)
  deriving DecidableEq

def optionText (text : α → String) : Option α → String
  | none => "None"
  | some a => "Some(" ++ text a ++ ")"

def recordText (name : String) (details : List (String × String)) : String :=
  name ++ " \x7b " ++ String.intercalate ", " (details.map fun (key, text) => key ++ ": " ++ text)
    ++ " \x7d"

def DnsErrorPayload.text (p : DnsErrorPayload) : String :=
  recordText "DnsErrorPayload"
    [("rcode", optionText Text.quoted p.rcode), ("info-code", optionText toString p.infoCode)]

def TlsAlertReceivedPayload.text (p : TlsAlertReceivedPayload) : String :=
  recordText "TlsAlertReceivedPayload"
    [("alert-id", optionText toString p.alertId),
      ("alert-message", optionText Text.quoted p.alertMessage)]

def FieldSizePayload.text (p : FieldSizePayload) : String :=
  recordText "FieldSizePayload"
    [("field-name", optionText Text.quoted p.fieldName),
      ("field-size", optionText toString p.fieldSize)]

namespace ErrorCode

/-- The name of a code and the text of its details, if it has any. -/
def parts : ErrorCode → String × Option String
  | dnsTimeout => ("DnsTimeout", none)
  | dnsError p => ("DnsError", some p.text)
  | destinationNotFound => ("DestinationNotFound", none)
  | destinationUnavailable => ("DestinationUnavailable", none)
  | destinationIpProhibited => ("DestinationIpProhibited", none)
  | destinationIpUnroutable => ("DestinationIpUnroutable", none)
  | connectionRefused => ("ConnectionRefused", none)
  | connectionTerminated => ("ConnectionTerminated", none)
  | connectionTimeout => ("ConnectionTimeout", none)
  | connectionReadTimeout => ("ConnectionReadTimeout", none)
  | connectionWriteTimeout => ("ConnectionWriteTimeout", none)
  | connectionLimitReached => ("ConnectionLimitReached", none)
  | tlsProtocolError => ("TlsProtocolError", none)
  | tlsCertificateError => ("TlsCertificateError", none)
  | tlsAlertReceived p => ("TlsAlertReceived", some p.text)
  | httpRequestDenied => ("HttpRequestDenied", none)
  | httpRequestLengthRequired => ("HttpRequestLengthRequired", none)
  | httpRequestBodySize n => ("HttpRequestBodySize", some (optionText toString n))
  | httpRequestMethodInvalid => ("HttpRequestMethodInvalid", none)
  | httpRequestUriInvalid => ("HttpRequestUriInvalid", none)
  | httpRequestUriTooLong => ("HttpRequestUriTooLong", none)
  | httpRequestHeaderSectionSize n =>
    ("HttpRequestHeaderSectionSize", some (optionText toString n))
  | httpRequestHeaderSize p => ("HttpRequestHeaderSize", some (optionText FieldSizePayload.text p))
  | httpRequestTrailerSectionSize n =>
    ("HttpRequestTrailerSectionSize", some (optionText toString n))
  | httpRequestTrailerSize p => ("HttpRequestTrailerSize", some p.text)
  | httpResponseIncomplete => ("HttpResponseIncomplete", none)
  | httpResponseHeaderSectionSize n =>
    ("HttpResponseHeaderSectionSize", some (optionText toString n))
  | httpResponseHeaderSize p => ("HttpResponseHeaderSize", some p.text)
  | httpResponseBodySize n => ("HttpResponseBodySize", some (optionText toString n))
  | httpResponseTrailerSectionSize n =>
    ("HttpResponseTrailerSectionSize", some (optionText toString n))
  | httpResponseTrailerSize p => ("HttpResponseTrailerSize", some p.text)
  | httpResponseTransferCoding c =>
    ("HttpResponseTransferCoding", some (optionText Text.quoted c))
  | httpResponseContentCoding c => ("HttpResponseContentCoding", some (optionText Text.quoted c))
  | httpResponseTimeout => ("HttpResponseTimeout", none)
  | httpUpgradeFailed => ("HttpUpgradeFailed", none)
  | httpProtocolError => ("HttpProtocolError", none)
  | loopDetected => ("LoopDetected", none)
  | configurationError => ("ConfigurationError", none)
  | internalError m => ("InternalError", some (optionText Text.quoted m))

def text (e : ErrorCode) : String :=
  match e.parts with
  | (name, none) => "ErrorCode::" ++ name
  | (name, some details) => "ErrorCode::" ++ name ++ "(" ++ details ++ ")"

def plain : List ErrorCode :=
  [dnsTimeout, destinationNotFound, destinationUnavailable, destinationIpProhibited,
    destinationIpUnroutable, connectionRefused, connectionTerminated, connectionTimeout,
    connectionReadTimeout, connectionWriteTimeout, connectionLimitReached, tlsProtocolError,
    tlsCertificateError, httpRequestDenied, httpRequestLengthRequired, httpRequestMethodInvalid,
    httpRequestUriInvalid, httpRequestUriTooLong, httpResponseIncomplete, httpResponseTimeout,
    httpUpgradeFailed, httpProtocolError, loopDetected, configurationError]

def ofName? (name : String) : Option ErrorCode := plain.find? fun e => e.parts.1 = name

end ErrorCode

inductive HeaderError where
  | invalidSyntax
  | forbidden
  deriving DecidableEq

def HeaderError.text : HeaderError → String
  | invalidSyntax => "HeaderError::InvalidSyntax"
  | forbidden => "HeaderError::Forbidden"

end BufferedHttp.Component
