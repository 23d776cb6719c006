import HttpEngine.Proofs.Header.Index
import HttpEngine.Request.Parser

/-!
# Parsers that are used again

A parser can be fed, its request can be looked at or moved out, it can be asked for its
phase or for a header, and it can be reset, in any order and at any moment. `answers` is
what somebody learns who makes a list of such calls.

Nothing of what a parser has read survives a reset. Room that was made for
headers stays, but no question that can be asked of a parser shows it, so a
parser after a reset is the parser that every new one is, and no list of calls tells the
two apart.
-/

namespace HttpEngine
namespace Parser

/-- What can be done with a parser. -/
inductive Call where
  /-- Feed a chunk and ask how the reading stands. -/
  | feed (chunk : Bytes)
  /-- Move the request out. -/
  | take
  /-- Prepare for an unrelated request. -/
  | reset
  /-- Look at the request. -/
  | request
  /-- Ask where the parser is. -/
  | phase
  /-- Look up a header of the request. -/
  | header (name : Bytes)

/-- What a call answers. -/
inductive Answer where
  | progress (report : Except RequestFault Progress)
  | request (request : Request)
  | phase (phase : Phase)
  | header (value : Option Bytes)
  | done

/-- Makes a call. -/
def call (parser : Parser) : Call → Answer × Parser
  | .feed chunk => (.progress (parser.feed chunk).report, parser.feed chunk)
  | .take => (.request parser.takeRequest.1, parser.takeRequest.2)
  | .reset => (.done, parser.reset)
  | .request => (.request parser.request, parser)
  | .phase => (.phase parser.phase, parser)
  | .header name => (.header (parser.request.header? name), parser)

/-- The parser after some calls. -/
def after (parser : Parser) (calls : List Call) : Parser :=
  calls.foldl (fun parser made => (parser.call made).2) parser

/-- The answers to some calls, in their order. -/
def answers (parser : Parser) : List Call → List Answer
  | [] => []
  | made :: calls => (parser.call made).1 :: (parser.call made).2.answers calls

theorem after_concat (parser : Parser) (calls : List Call) (made : Call) :
    parser.after (calls ++ [made]) = ((parser.after calls).call made).2 := by
  rw [after, List.foldl_append]
  rfl

/-- The answers to the first calls do not depend on those that follow. -/
theorem answers_append (parser : Parser) (calls later : List Call) :
    parser.answers (calls ++ later) =
      parser.answers calls ++ (parser.after calls).answers later := by
  induction calls generalizing parser with
  | nil => rfl
  | cons made calls ih =>
      rw [List.cons_append, answers, answers, ih, List.cons_append]
      rfl

/-- New parsers do not differ in the room that they have. -/
theorem withCapacity_eq_new (capacity : Nat) : withCapacity capacity = new := by
  simp only [new, withCapacity, Request.withHeaderCapacity,
    HeaderMap.withCapacity_eq_ofHeaders_nil]

/-- After a reset a parser is new. -/
theorem reset_eq_new (parser : Parser) : parser.reset = new := by
  rw [← withCapacity_eq_new parser.request.headers.headers.length]
  rfl

/-- Whatever was done with a parser before it was reset, the answers to all that is done
with it afterwards are those of a new parser, whatever room either has for headers. -/
theorem answers_of_reset (capacity room : Nat) (history later : List Call) :
    (withCapacity capacity).answers (history ++ .reset :: later) =
      (withCapacity capacity).answers history ++ .done :: (withCapacity room).answers later := by
  have hreset : ((withCapacity capacity).after history).reset = withCapacity room := by
    rw [reset_eq_new, withCapacity_eq_new]
  rw [answers_append, answers, call, hreset]

end Parser
end HttpEngine
