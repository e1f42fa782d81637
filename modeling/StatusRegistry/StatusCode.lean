/-
StatusRegistry/StatusCode.lean

The registered status codes.  The registry is closed, so the codes are an
inductive type, and what is registered of each stands in one table, `entry`.
Everything else known of a code (its class, its written form) is computed from
its entry.
-/
import StatusRegistry.Citation
import StatusRegistry.Classify

namespace StatusRegistry

/-- A registered status code. -/
inductive StatusCode where
  | continueRequest
  | switchingProtocols
  | processing
  | earlyHints
  | ok
  | created
  | accepted
  | nonAuthoritativeInformation
  | noContent
  | resetContent
  | partialContent
  | multiStatus
  | alreadyReported
  | imUsed
  | multipleChoices
  | movedPermanently
  | found
  | seeOther
  | notModified
  | useProxy
  | temporaryRedirect
  | badRequest
  | unauthorized
  | paymentRequired
  | forbidden
  | notFound
  | methodNotAllowed
  | notAcceptable
  | proxyAuthenticationRequired
  | requestTimeout
  | conflict
  | gone
  | lengthRequired
  | preconditionFailed
  | requestEntityTooLarge
  | requestUriTooLong
  | unsupportedMediaType
  | requestedRangeNotSatisfiable
  | expectationFailed
  | internalServerError
  | notImplemented
  | badGateway
  | serviceUnavailable
  | gatewayTimeout
  | httpVersionNotSupported
  | variantAlsoNegotiates
  | insufficientStorage
  | loopDetected
  | notExtended
  | networkAuthenticationRequired
deriving DecidableEq, Repr

/-- What is registered of a status code. -/
structure Entry where
  /-- The symbolic name, such as `NOT_FOUND`. -/
  name : String
  value : UInt16
  /-- The name that the defining document uses, such as `Not Found`. -/
  title : String
  /-- The section that defines the code. -/
  citation : Citation
deriving DecidableEq, Repr

namespace StatusCode

/-! ### The table -/

/-- The entry of each code. -/
def entry : StatusCode → Entry
  | continueRequest => ⟨"CONTINUE", 100, "Continue", ⟨2616, "10.1.1"⟩⟩
  | switchingProtocols => ⟨"SWITCHING_PROTOCOLS", 101, "Switching Protocols", ⟨2616, "10.1.2"⟩⟩
  | processing => ⟨"PROCESSING", 102, "Processing", ⟨2518, "10.1"⟩⟩
  | earlyHints => ⟨"EARLY_HINTS", 103, "Early Hints", ⟨8297, "2"⟩⟩
  | ok => ⟨"OK", 200, "OK", ⟨2616, "10.2.1"⟩⟩
  | created => ⟨"CREATED", 201, "Created", ⟨2616, "10.2.2"⟩⟩
  | accepted => ⟨"ACCEPTED", 202, "Accepted", ⟨2616, "10.2.3"⟩⟩
  | nonAuthoritativeInformation =>
    ⟨"NON_AUTHORITATIVE_INFORMATION", 203, "Non-Authoritative Information", ⟨2616, "10.2.4"⟩⟩
  | noContent => ⟨"NO_CONTENT", 204, "No Content", ⟨2616, "10.2.5"⟩⟩
  | resetContent => ⟨"RESET_CONTENT", 205, "Reset Content", ⟨2616, "10.2.6"⟩⟩
  | partialContent => ⟨"PARTIAL_CONTENT", 206, "Partial Content", ⟨2616, "10.2.7"⟩⟩
  | multiStatus => ⟨"MULTI_STATUS", 207, "Multi-Status", ⟨4918, "11.1"⟩⟩
  | alreadyReported => ⟨"ALREADY_REPORTED", 208, "Already Reported", ⟨5842, "7.1"⟩⟩
  | imUsed => ⟨"IM_USED", 226, "IM Used", ⟨3229, "10.4.1"⟩⟩
  | multipleChoices => ⟨"MULTIPLE_CHOICES", 300, "Multiple Choices", ⟨2616, "10.3.1"⟩⟩
  | movedPermanently => ⟨"MOVED_PERMANENTLY", 301, "Moved Permanently", ⟨2616, "10.3.2"⟩⟩
  | found => ⟨"FOUND", 302, "Found", ⟨2616, "10.3.3"⟩⟩
  | seeOther => ⟨"SEE_OTHER", 303, "See Other", ⟨2616, "10.3.4"⟩⟩
  | notModified => ⟨"NOT_MODIFIED", 304, "Not Modified", ⟨2616, "10.3.5"⟩⟩
  | useProxy => ⟨"USE_PROXY", 305, "Use Proxy", ⟨2616, "10.3.6"⟩⟩
  | temporaryRedirect => ⟨"TEMPORARY_REDIRECT", 307, "Temporary Redirect", ⟨2616, "10.3.8"⟩⟩
  | badRequest => ⟨"BAD_REQUEST", 400, "Bad Request", ⟨2616, "10.4.1"⟩⟩
  | unauthorized => ⟨"UNAUTHORIZED", 401, "Unauthorized", ⟨2616, "10.4.2"⟩⟩
  | paymentRequired => ⟨"PAYMENT_REQUIRED", 402, "Payment Required", ⟨2616, "10.4.3"⟩⟩
  | forbidden => ⟨"FORBIDDEN", 403, "Forbidden", ⟨2616, "10.4.4"⟩⟩
  | notFound => ⟨"NOT_FOUND", 404, "Not Found", ⟨2616, "10.4.5"⟩⟩
  | methodNotAllowed => ⟨"METHOD_NOT_ALLOWED", 405, "Method Not Allowed", ⟨2616, "10.4.6"⟩⟩
  | notAcceptable => ⟨"NOT_ACCEPTABLE", 406, "Not Acceptable", ⟨2616, "10.4.7"⟩⟩
  | proxyAuthenticationRequired =>
    ⟨"PROXY_AUTHENTICATION_REQUIRED", 407, "Proxy Authentication Required", ⟨2616, "10.4.8"⟩⟩
  | requestTimeout => ⟨"REQUEST_TIMEOUT", 408, "Request Timeout", ⟨2616, "10.4.9"⟩⟩
  | conflict => ⟨"CONFLICT", 409, "Conflict", ⟨2616, "10.4.10"⟩⟩
  | gone => ⟨"GONE", 410, "Gone", ⟨2616, "10.4.11"⟩⟩
  | lengthRequired => ⟨"LENGTH_REQUIRED", 411, "Length Required", ⟨2616, "10.4.12"⟩⟩
  | preconditionFailed => ⟨"PRECONDITION_FAILED", 412, "Precondition Failed", ⟨2616, "10.4.13"⟩⟩
  | requestEntityTooLarge =>
    ⟨"REQUEST_ENTITY_TOO_LARGE", 413, "Request Entity Too Large", ⟨2616, "10.4.14"⟩⟩
  | requestUriTooLong => ⟨"REQUEST_URI_TOO_LONG", 414, "Request-URI Too Long", ⟨2616, "10.4.15"⟩⟩
  | unsupportedMediaType =>
    ⟨"UNSUPPORTED_MEDIA_TYPE", 415, "Unsupported Media Type", ⟨2616, "10.4.16"⟩⟩
  | requestedRangeNotSatisfiable =>
    ⟨"REQUESTED_RANGE_NOT_SATISFIABLE", 416, "Requested Range Not Satisfiable", ⟨2616, "10.4.17"⟩⟩
  | expectationFailed => ⟨"EXPECTATION_FAILED", 417, "Expectation Failed", ⟨2616, "10.4.18"⟩⟩
  | internalServerError => ⟨"INTERNAL_SERVER_ERROR", 500, "Internal Server Error", ⟨2616, "10.5.1"⟩⟩
  | notImplemented => ⟨"NOT_IMPLEMENTED", 501, "Not Implemented", ⟨2616, "10.5.2"⟩⟩
  | badGateway => ⟨"BAD_GATEWAY", 502, "Bad Gateway", ⟨2616, "10.5.3"⟩⟩
  | serviceUnavailable => ⟨"SERVICE_UNAVAILABLE", 503, "Service Unavailable", ⟨2616, "10.5.4"⟩⟩
  | gatewayTimeout => ⟨"GATEWAY_TIMEOUT", 504, "Gateway Timeout", ⟨2616, "10.5.5"⟩⟩
  | httpVersionNotSupported =>
    ⟨"HTTP_VERSION_NOT_SUPPORTED", 505, "HTTP Version Not Supported", ⟨2616, "10.5.6"⟩⟩
  | variantAlsoNegotiates =>
    ⟨"VARIANT_ALSO_NEGOTIATES", 506, "Variant Also Negotiates", ⟨2295, "8.1"⟩⟩
  | insufficientStorage => ⟨"INSUFFICIENT_STORAGE", 507, "Insufficient Storage", ⟨4918, "11.5"⟩⟩
  | loopDetected => ⟨"LOOP_DETECTED", 508, "Loop Detected", ⟨5842, "7.2"⟩⟩
  | notExtended => ⟨"NOT_EXTENDED", 510, "Not Extended", ⟨2774, "7"⟩⟩
  | networkAuthenticationRequired =>
    ⟨"NETWORK_AUTHENTICATION_REQUIRED", 511, "Network Authentication Required", ⟨6585, "6"⟩⟩

/-- All codes, in ascending order of value. -/
def all : List StatusCode :=
  [continueRequest, switchingProtocols, processing, earlyHints, ok, created, accepted,
   nonAuthoritativeInformation, noContent, resetContent, partialContent, multiStatus,
   alreadyReported, imUsed, multipleChoices, movedPermanently, found, seeOther, notModified,
   useProxy, temporaryRedirect, badRequest, unauthorized, paymentRequired, forbidden, notFound,
   methodNotAllowed, notAcceptable, proxyAuthenticationRequired, requestTimeout, conflict, gone,
   lengthRequired, preconditionFailed, requestEntityTooLarge, requestUriTooLong,
   unsupportedMediaType, requestedRangeNotSatisfiable, expectationFailed, internalServerError,
   notImplemented, badGateway, serviceUnavailable, gatewayTimeout, httpVersionNotSupported,
   variantAlsoNegotiates, insufficientStorage, loopDetected, notExtended,
   networkAuthenticationRequired]

@[simp] theorem mem_all (c : StatusCode) : c ∈ all := by
  cases c <;> decide

/-! ### What is known of a code -/

/-- The symbolic name of the code. -/
def name (c : StatusCode) : String := c.entry.name

/-- The number of the code. -/
def value (c : StatusCode) : UInt16 := c.entry.value

/-- The name that the defining document uses for the code. -/
def title (c : StatusCode) : String := c.entry.title

/-- The section that defines the code. -/
def citation (c : StatusCode) : Citation := c.entry.citation

/-- The class of the code, by its value. -/
def statusClass (c : StatusCode) : StatusClass := (StatusClass.ofUInt16 c.value).value

/-- The written form of the code, such as `404 Not Found`. -/
def display (c : StatusCode) : String := toString c.value.toNat ++ " " ++ c.title

def isInformational (c : StatusCode) : Bool := c.statusClass.isInformational

def isSuccess (c : StatusCode) : Bool := c.statusClass.isSuccess

def isRedirection (c : StatusCode) : Bool := c.statusClass.isRedirection

def isClientError (c : StatusCode) : Bool := c.statusClass.isClientError

def isServerError (c : StatusCode) : Bool := c.statusClass.isServerError

/-! ### Codes and numbers -/

/-- Whether the code has the value `v`. -/
def hasValue (c : StatusCode) (v : UInt16) : Bool := c.value == v

/-- Whether `v` is the value of the code. -/
def isValueOf (v : UInt16) (c : StatusCode) : Bool := v == c.value

end StatusCode

end StatusRegistry
