import HttpEngine.Handler

/-!
# Stock handlers

Small handlers for servers that only echo, measure or describe what they are
sent.
-/

namespace HttpEngine
namespace Handler

/-- Replies with the body, or with an empty payload when there is none. -/
def echo : Handler :=
  fun request => .reply (.ofPart .ok (.bytes (request.body.getD [])))

/-- Replies with the body, or without a payload when there is none. -/
def echoOrNoContent : Handler :=
  fun request =>
    match request.body with
    | some body => .reply (.ofPart .ok (.bytes body))
    | none => .reply (.bare .noContent)

/-- Replies with the text of one header, or `none`. -/
def headerText (name : Bytes) : Handler :=
  fun request => .reply (.ofPart .ok (.text ((request.headerText? name).getD "none")))

/-- The length of the body, zero without one. -/
def bodyLengthOf (request : Request) : Nat :=
  (request.body.getD []).length

/-- Replies with the length of the body. -/
def bodyLength : Handler :=
  fun request => .reply (.ofPart .ok (.bytes (Decimal.ofNat (bodyLengthOf request))))

/-- Replies with a description of the whole request, one part to a line. -/
def describe : Handler :=
  fun request =>
    let line (bytes : Bytes) : List Part := [.bytes bytes, .text "\n"]
    let headers := request.headers.headers.flatMap fun header =>
      [Part.bytes header.name.bytes, .text "=", .bytes header.value, .text "\n"]
    .reply
      (.ofParts .ok
        (line request.method ++ line request.route ++ line request.version ++ headers ++
          [.flag request.body.isSome, .bytes (Decimal.ofNat (bodyLengthOf request))]))

end Handler
end HttpEngine
