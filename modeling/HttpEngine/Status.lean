/-!
# Status codes

The status codes that a response may carry, from `100` to `511`, each with its
number, its reason phrase and its one-word name. A number outside the table has
no status, so no malformed status line can be written.
-/

namespace HttpEngine

/-- A status code of the table. -/
inductive Status where
  | continue
  | switchingProtocols
  | processing
  | earlyHints
  | ok
  | created
  | accepted
  | nonAuthoritativeInformation
  | noContent
  | resetContent
  | partialContent
  | multiStatus
  | alreadyReported
  | imUsed
  | multipleChoices
  | movedPermanently
  | found
  | seeOther
  | notModified
  | useProxy
  | temporaryRedirect
  | permanentRedirect
  | badRequest
  | unauthorized
  | paymentRequired
  | forbidden
  | notFound
  | methodNotAllowed
  | notAcceptable
  | proxyAuthenticationRequired
  | requestTimeout
  | conflict
  | gone
  | lengthRequired
  | preconditionFailed
  | payloadTooLarge
  | uriTooLong
  | unsupportedMediaType
  | rangeNotSatisfiable
  | expectationFailed
  | imATeapot
  | misdirectedRequest
  | unprocessableEntity
  | locked
  | failedDependency
  | tooEarly
  | upgradeRequired
  | preconditionRequired
  | tooManyRequests
  | requestHeaderFieldsTooLarge
  | unavailableForLegalReasons
  | internalServerError
  | notImplemented
  | badGateway
  | serviceUnavailable
  | gatewayTimeout
  | httpVersionNotSupported
  | variantAlsoNegotiates
  | insufficientStorage
  | loopDetected
  | notExtended
  | networkAuthenticationRequired
deriving Repr, DecidableEq

namespace Status

/-- The whole table, in ascending order. -/
def all : List Status :=
  [.continue, .switchingProtocols, .processing, .earlyHints, .ok, .created, .accepted,
   .nonAuthoritativeInformation, .noContent, .resetContent, .partialContent, .multiStatus,
   .alreadyReported, .imUsed, .multipleChoices, .movedPermanently, .found, .seeOther,
   .notModified, .useProxy, .temporaryRedirect, .permanentRedirect, .badRequest,
   .unauthorized, .paymentRequired, .forbidden, .notFound, .methodNotAllowed,
   .notAcceptable, .proxyAuthenticationRequired, .requestTimeout, .conflict, .gone,
   .lengthRequired, .preconditionFailed, .payloadTooLarge, .uriTooLong,
   .unsupportedMediaType, .rangeNotSatisfiable, .expectationFailed, .imATeapot,
   .misdirectedRequest, .unprocessableEntity, .locked, .failedDependency, .tooEarly,
   .upgradeRequired, .preconditionRequired, .tooManyRequests,
   .requestHeaderFieldsTooLarge, .unavailableForLegalReasons, .internalServerError,
   .notImplemented, .badGateway, .serviceUnavailable, .gatewayTimeout,
   .httpVersionNotSupported, .variantAlsoNegotiates, .insufficientStorage, .loopDetected,
   .notExtended, .networkAuthenticationRequired]

/-- The number of a status. -/
def code : Status → Nat
  | .continue => 100
  | .switchingProtocols => 101
  | .processing => 102
  | .earlyHints => 103
  | .ok => 200
  | .created => 201
  | .accepted => 202
  | .nonAuthoritativeInformation => 203
  | .noContent => 204
  | .resetContent => 205
  | .partialContent => 206
  | .multiStatus => 207
  | .alreadyReported => 208
  | .imUsed => 226
  | .multipleChoices => 300
  | .movedPermanently => 301
  | .found => 302
  | .seeOther => 303
  | .notModified => 304
  | .useProxy => 305
  | .temporaryRedirect => 307
  | .permanentRedirect => 308
  | .badRequest => 400
  | .unauthorized => 401
  | .paymentRequired => 402
  | .forbidden => 403
  | .notFound => 404
  | .methodNotAllowed => 405
  | .notAcceptable => 406
  | .proxyAuthenticationRequired => 407
  | .requestTimeout => 408
  | .conflict => 409
  | .gone => 410
  | .lengthRequired => 411
  | .preconditionFailed => 412
  | .payloadTooLarge => 413
  | .uriTooLong => 414
  | .unsupportedMediaType => 415
  | .rangeNotSatisfiable => 416
  | .expectationFailed => 417
  | .imATeapot => 418
  | .misdirectedRequest => 421
  | .unprocessableEntity => 422
  | .locked => 423
  | .failedDependency => 424
  | .tooEarly => 425
  | .upgradeRequired => 426
  | .preconditionRequired => 428
  | .tooManyRequests => 429
  | .requestHeaderFieldsTooLarge => 431
  | .unavailableForLegalReasons => 451
  | .internalServerError => 500
  | .notImplemented => 501
  | .badGateway => 502
  | .serviceUnavailable => 503
  | .gatewayTimeout => 504
  | .httpVersionNotSupported => 505
  | .variantAlsoNegotiates => 506
  | .insufficientStorage => 507
  | .loopDetected => 508
  | .notExtended => 510
  | .networkAuthenticationRequired => 511

/-- The reason phrase of a status. -/
def reason : Status → String
  | .continue => "Continue"
  | .switchingProtocols => "Switching Protocols"
  | .processing => "Processing"
  | .earlyHints => "Early Hints"
  | .ok => "OK"
  | .created => "Created"
  | .accepted => "Accepted"
  | .nonAuthoritativeInformation => "Non-Authoritative Information"
  | .noContent => "No Content"
  | .resetContent => "Reset Content"
  | .partialContent => "Partial Content"
  | .multiStatus => "Multi-Status"
  | .alreadyReported => "Already Reported"
  | .imUsed => "IM Used"
  | .multipleChoices => "Multiple Choices"
  | .movedPermanently => "Moved Permanently"
  | .found => "Found"
  | .seeOther => "See Other"
  | .notModified => "Not Modified"
  | .useProxy => "Use Proxy"
  | .temporaryRedirect => "Temporary Redirect"
  | .permanentRedirect => "Permanent Redirect"
  | .badRequest => "Bad Request"
  | .unauthorized => "Unauthorized"
  | .paymentRequired => "Payment Required"
  | .forbidden => "Forbidden"
  | .notFound => "Not Found"
  | .methodNotAllowed => "Method Not Allowed"
  | .notAcceptable => "Not Acceptable"
  | .proxyAuthenticationRequired => "Proxy Authentication Required"
  | .requestTimeout => "Request Timeout"
  | .conflict => "Conflict"
  | .gone => "Gone"
  | .lengthRequired => "Length Required"
  | .preconditionFailed => "Precondition Failed"
  | .payloadTooLarge => "Payload Too Large"
  | .uriTooLong => "URI Too Long"
  | .unsupportedMediaType => "Unsupported Media Type"
  | .rangeNotSatisfiable => "Range Not Satisfiable"
  | .expectationFailed => "Expectation Failed"
  | .imATeapot => "I'm a teapot"
  | .misdirectedRequest => "Misdirected Request"
  | .unprocessableEntity => "Unprocessable Entity"
  | .locked => "Locked"
  | .failedDependency => "Failed Dependency"
  | .tooEarly => "Too Early"
  | .upgradeRequired => "Upgrade Required"
  | .preconditionRequired => "Precondition Required"
  | .tooManyRequests => "Too Many Requests"
  | .requestHeaderFieldsTooLarge => "Request Header Fields Too Large"
  | .unavailableForLegalReasons => "Unavailable For Legal Reasons"
  | .internalServerError => "Internal Server Error"
  | .notImplemented => "Not Implemented"
  | .badGateway => "Bad Gateway"
  | .serviceUnavailable => "Service Unavailable"
  | .gatewayTimeout => "Gateway Timeout"
  | .httpVersionNotSupported => "HTTP Version Not Supported"
  | .variantAlsoNegotiates => "Variant Also Negotiates"
  | .insufficientStorage => "Insufficient Storage"
  | .loopDetected => "Loop Detected"
  | .notExtended => "Not Extended"
  | .networkAuthenticationRequired => "Network Authentication Required"

/-- The name of a status in one word. -/
def label : Status → String
  | .continue => "Continue"
  | .switchingProtocols => "SwitchingProtocols"
  | .processing => "Processing"
  | .earlyHints => "EarlyHints"
  | .ok => "Ok"
  | .created => "Created"
  | .accepted => "Accepted"
  | .nonAuthoritativeInformation => "NonAuthoritativeInformation"
  | .noContent => "NoContent"
  | .resetContent => "ResetContent"
  | .partialContent => "PartialContent"
  | .multiStatus => "MultiStatus"
  | .alreadyReported => "AlreadyReported"
  | .imUsed => "ImUsed"
  | .multipleChoices => "MultipleChoices"
  | .movedPermanently => "MovedPermanently"
  | .found => "Found"
  | .seeOther => "SeeOther"
  | .notModified => "NotModified"
  | .useProxy => "UseProxy"
  | .temporaryRedirect => "TemporaryRedirect"
  | .permanentRedirect => "PermanentRedirect"
  | .badRequest => "BadRequest"
  | .unauthorized => "Unauthorized"
  | .paymentRequired => "PaymentRequired"
  | .forbidden => "Forbidden"
  | .notFound => "NotFound"
  | .methodNotAllowed => "MethodNotAllowed"
  | .notAcceptable => "NotAcceptable"
  | .proxyAuthenticationRequired => "ProxyAuthenticationRequired"
  | .requestTimeout => "RequestTimeout"
  | .conflict => "Conflict"
  | .gone => "Gone"
  | .lengthRequired => "LengthRequired"
  | .preconditionFailed => "PreconditionFailed"
  | .payloadTooLarge => "PayloadTooLarge"
  | .uriTooLong => "UriTooLong"
  | .unsupportedMediaType => "UnsupportedMediaType"
  | .rangeNotSatisfiable => "RangeNotSatisfiable"
  | .expectationFailed => "ExpectationFailed"
  | .imATeapot => "ImATeapot"
  | .misdirectedRequest => "MisdirectedRequest"
  | .unprocessableEntity => "UnprocessableEntity"
  | .locked => "Locked"
  | .failedDependency => "FailedDependency"
  | .tooEarly => "TooEarly"
  | .upgradeRequired => "UpgradeRequired"
  | .preconditionRequired => "PreconditionRequired"
  | .tooManyRequests => "TooManyRequests"
  | .requestHeaderFieldsTooLarge => "RequestHeaderFieldsTooLarge"
  | .unavailableForLegalReasons => "UnavailableForLegalReasons"
  | .internalServerError => "InternalServerError"
  | .notImplemented => "NotImplemented"
  | .badGateway => "BadGateway"
  | .serviceUnavailable => "ServiceUnavailable"
  | .gatewayTimeout => "GatewayTimeout"
  | .httpVersionNotSupported => "HttpVersionNotSupported"
  | .variantAlsoNegotiates => "VariantAlsoNegotiates"
  | .insufficientStorage => "InsufficientStorage"
  | .loopDetected => "LoopDetected"
  | .notExtended => "NotExtended"
  | .networkAuthenticationRequired => "NetworkAuthenticationRequired"

/-- The number and the reason phrase. -/
def text (status : Status) : String :=
  toString status.code ++ " " ++ status.reason

/-- The status of a number. -/
def ofCode? (code : Nat) : Option Status :=
  all.find? fun status => status.code == code

end Status

/-- A number that is no status code. -/
structure UnknownStatus where
  code : Nat
deriving Repr, DecidableEq

/-- The description of an unknown status. -/
def UnknownStatus.message (unknown : UnknownStatus) : String :=
  "unknown response code " ++ toString unknown.code

end HttpEngine
