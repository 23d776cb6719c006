import HttpEngine.Reply
import HttpEngine.Request

/-!
# Handlers

A handler answers a request. It either replies or crashes; a crash leaves
something behind, a text or some other value, and only a text can be shown.
-/

namespace HttpEngine

/-- What a crash leaves behind. -/
inductive Crash where
  | text (message : String)
  | other
deriving Repr, DecidableEq

/-- The text by which a crash is reported. -/
def Crash.message : Crash → String
  | .text message => message
  | .other => "non-string panic payload"

/-- What becomes of a call of a handler. -/
inductive Answer where
  | reply (reply : Reply)
  | crash (crash : Crash)
deriving Repr, DecidableEq

/-- A handler is a function of the request. -/
abbrev Handler := Request → Answer

/-- A handler that does not look at the request. -/
def Handler.constant (answer : Answer) : Handler :=
  fun _ => answer

end HttpEngine
