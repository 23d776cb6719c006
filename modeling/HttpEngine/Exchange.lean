import HttpEngine.Connection
import HttpEngine.Request.Parser
import HttpEngine.Response
import HttpEngine.Route.Table

/-!
# Serving one request

An exchange reads one request from a connection and puts the response into the
connection's buffer:

* a malformed request is answered by 400;
* a request without a route is answered by 404;
* a request whose handler crashes is answered by 500;
* any other request is answered by what its handler replies.

A client that leaves before its request is complete is not answered. Exchanges
are reused; each starts its next request with a parser that knows nothing of
the last one.
-/

namespace HttpEngine

/-- What requests are answered from: the routes and the advertised host. -/
structure Site where
  routes : RouteTable
  host : Host

/-- The reader of one request at a time, numbered in the order of making. -/
structure Exchange where
  number : Nat
  parser : Parser

/-- What is to be done with a connection. -/
inductive Outcome where
  /-- The response in the buffer is to be sent. -/
  | respond
  /-- The connection is to be closed without an answer. -/
  | abort
deriving Repr, DecidableEq

/-- The name of an outcome. -/
def Outcome.label : Outcome → String
  | .respond => "Respond"
  | .abort => "Abort"

/-- What a look at the buffer of a connection leads to. -/
inductive Look where
  /-- The request goes on beyond the buffer. -/
  | starved (parser : Parser)
  /-- It is settled what to do. -/
  | settled (outcome : Outcome) (parser : Parser) (connection : Connection) (events : List Event)

namespace Site

/-- The reply to a complete request, and what is reported on the way. -/
def replyTo (site : Site) (connection : Nat) (request : Request) : Reply × List Event :=
  match site.routes.handlerOf request with
  | none => (.bare .notFound, [])
  | some handler =>
      match handler request with
      | .reply reply => (reply, [])
      | .crash crash =>
          (.bare .internalServerError,
            [.handlerCrashed connection ⟨request.method, request.route⟩ crash])

/-- The bytes that answer everything a client has sent before it closed its
sending side, unless its request was not complete. -/
def answer? (site : Site) (content : Bytes) : Option Bytes :=
  let parser := Parser.new.feed content
  match parser.report with
  | .ok .more => none
  | .ok .complete => some (Response.render site.host (site.replyTo 0 parser.request).1)
  | .error _ => some (Response.render site.host (.bare .badRequest))

end Site

namespace Exchange

/-- An exchange that has served nobody. -/
def new (number : Nat) : Exchange :=
  { number := number, parser := Parser.new }

/-- An exchange made ready for another request. -/
def restart (exchange : Exchange) : Exchange :=
  { exchange with parser := exchange.parser.reset }

/-- Puts a response into the buffer in place of what it holds. -/
def respond
    (site : Site) (connection : Connection) (reply : Reply) :
    Connection × List Event :=
  (connection.setBuffer (Response.append site.host reply []),
    [.responseBuilt connection.id reply.status])

/-- Looks at what the buffer holds. -/
def look (exchange : Exchange) (site : Site) (connection : Connection) : Look :=
  if connection.buffer.isEmpty then
    .settled .abort exchange.parser connection [.closedEarly connection.id]
  else
    let parser := exchange.parser.feed connection.buffer
    match parser.report with
    | .ok .more => .starved parser
    | .error fault =>
        let (connection, events) := respond site connection (.bare .badRequest)
        .settled .respond parser connection (.malformed connection.id fault :: events)
    | .ok .complete =>
        let (request, parser) := parser.takeRequest
        let connection := { connection with request := some request }
        let (reply, reported) := site.replyTo connection.id request
        let (connection, events) := respond site connection reply
        .settled .respond parser connection (reported ++ events)

/-- How an exchange with a connection came out. -/
structure Result where
  /-- What is to be done, unless the client has to write first. -/
  outcome : Option Outcome
  exchange : Exchange
  connection : Connection
  events : List Event

/-- A measure of what is left to read: what waits, and what the buffer
holds. -/
def rest (connection : Connection) : Nat :=
  2 * connection.stream.content.length + (if connection.buffer.isEmpty then 0 else 1)

/-- After a receive there is less left to read. -/
theorem rest_lt_of_receive
    {connection next : Connection} {bufferSize count : Nat}
    (hbuffer : connection.buffer.isEmpty = false)
    (hreceive : connection.receive bufferSize = (.bytes count, next)) :
    rest next < rest connection := by
  unfold Connection.receive at hreceive
  split at hreceive
  · next bytes stream hstream =>
      simp only [Prod.mk.injEq] at hreceive
      obtain ⟨-, rfl⟩ := hreceive
      have hless := Stream.length_lt_of_receive_bytes hstream
      simp only [rest, hbuffer, Connection.stream_setBuffer, Connection.stream_noteTransfer]
      split <;> simp <;> omega
  · next stream hstream =>
      simp only [Prod.mk.injEq] at hreceive
      obtain ⟨-, rfl⟩ := hreceive
      have hnone := Stream.content_of_receive_finished hstream
      simp [rest, hbuffer, hnone]
  · simp at hreceive
  · simp at hreceive

/-- A look at an empty buffer settles what to do. -/
theorem isEmpty_eq_false_of_look_eq_starved
    {exchange : Exchange} {site : Site} {connection : Connection} {parser : Parser}
    (hlook : exchange.look site connection = .starved parser) :
    connection.buffer.isEmpty = false := by
  unfold look at hlook
  split at hlook
  · contradiction
  · next hbuffer => exact Bool.eq_false_iff.mpr hbuffer

/-- Looks at the buffer and receives more until it is settled what to do. -/
def rounds
    (exchange : Exchange) (site : Site) (bufferSize : Nat) (connection : Connection) :
    Result :=
  match _ : exchange.look site connection with
  | .settled outcome parser connection events =>
      { outcome := some outcome
        exchange := { exchange with parser := parser }
        connection := connection
        events := events }
  | .starved parser =>
      let exchange := { exchange with parser := parser }
      match _ : connection.receive bufferSize with
      | (.bytes _, connection) => exchange.rounds site bufferSize connection
      | (.failed fault, connection) =>
          { outcome := some .abort
            exchange := exchange
            connection := connection
            events := Received.events connection.id (.failed fault) }
      | (.pending, connection) =>
          { outcome := none, exchange := exchange, connection := connection, events := [] }
termination_by rest connection
decreasing_by
  exact rest_lt_of_receive (isEmpty_eq_false_of_look_eq_starved ‹_›) ‹_›

/-- Serves the request whose first bytes are in the buffer. -/
def process
    (exchange : Exchange) (site : Site) (bufferSize : Nat) (connection : Connection) :
    Result :=
  exchange.restart.rounds site bufferSize connection

end Exchange
end HttpEngine
