import HttpEngine.Proofs.Exchange.Reading
import HttpEngine.Proofs.Route.Lookup

/-!
# An exchange answers the bytes of its client

How an exchange comes out is a function of all the bytes that the client sends
before it ends its side. It depends neither on how the bytes are cut into
receives, nor on the size of the buffer, nor on what the exchange and the slot
were used for before.
-/

namespace HttpEngine

/-- The reply to a request by the handlers of a registry. -/
def Registry.reply (registry : Registry) (request : Request) : Reply :=
  match registry.routes[({ method := request.method, path := request.route } : Endpoint)]? with
  | none => .bare .notFound
  | some handler =>
      match handler request with
      | .reply reply => reply
      | .crash _ => .bare .internalServerError

namespace Site

/-- The routes of a frozen registry reply as the registry does. -/
theorem reply_freeze (registry : Registry) (host : Host) (request : Request) :
    ({ routes := registry.freeze, host := host } : Site).reply request =
      registry.reply request := by
  unfold reply replyTo Registry.reply RouteTable.handlerOf
  rw [Registry.lookup_freeze]
  cases registry.routes[({ method := request.method, path := request.route } : Endpoint)]? with
  | none => rfl
  | some handler =>
      simp only
      cases handler request <;> rfl

end Site

namespace Exchange

/-- How an exchange comes out with a client that sends some bytes and ends its
side. -/
def Result.Settles
    (host : Host) (reply : Request → Reply) (content : Bytes) (result : Result) : Prop :=
  match (Parser.new.feed content).report with
  | .ok .more =>
      result.outcome = some .abort ∧
        result.connection.buffer = [] ∧
        result.connection.request = none
  | .error _ =>
      result.outcome = some .respond ∧
        result.connection.buffer = Response.render host (.bare .badRequest) ∧
        result.connection.request = none
  | .ok .complete =>
      result.outcome = some .respond ∧
        result.connection.buffer =
          Response.render host (reply (Parser.new.feed content).request) ∧
        result.connection.request = some (Parser.new.feed content).request

namespace Result.Settles

variable {host : Host}
variable {reply : Request → Reply}
variable {content : Bytes}
variable {result : Result}

theorem of_more
    (hreport : (Parser.new.feed content).report = .ok .more)
    (houtcome : result.outcome = some .abort)
    (hbuffer : result.connection.buffer = [])
    (hrequest : result.connection.request = none) :
    result.Settles host reply content := by
  unfold Settles
  rw [hreport]
  exact ⟨houtcome, hbuffer, hrequest⟩

theorem of_error
    {fault : RequestFault}
    (hreport : (Parser.new.feed content).report = .error fault)
    (houtcome : result.outcome = some .respond)
    (hbuffer : result.connection.buffer = Response.render host (.bare .badRequest))
    (hrequest : result.connection.request = none) :
    result.Settles host reply content := by
  unfold Settles
  rw [hreport]
  exact ⟨houtcome, hbuffer, hrequest⟩

theorem of_complete
    (hreport : (Parser.new.feed content).report = .ok .complete)
    (houtcome : result.outcome = some .respond)
    (hbuffer :
      result.connection.buffer =
        Response.render host (reply (Parser.new.feed content).request))
    (hrequest : result.connection.request = some (Parser.new.feed content).request) :
    result.Settles host reply content := by
  unfold Settles
  rw [hreport]
  exact ⟨houtcome, hbuffer, hrequest⟩

end Result.Settles

/-- The rounds of an exchange settle what the bytes of the client say. The
induction is on what is left to read. -/
theorem settles_rounds
    (site : Site) (bufferSize : Nat) {content before : Bytes}
    (exchange : Exchange) (connection : Connection)
    (hparser : exchange.parser = Parser.new.feed before)
    (hholds : Holds content before connection)
    (hrequest : connection.request = none)
    (hended : connection.stream.ending ≠ .ongoing) :
    (exchange.rounds site bufferSize connection).Settles site.host site.reply content := by
  induction hn : rest connection using Nat.strongRecOn
    generalizing before exchange connection with
  | _ n ih =>
      have hlooked := hholds.afterLook hparser site
      rw [rounds]
      split
      · next hlook =>
          rw [hlook] at hlooked
          cases hlooked with
          | closed hreport hempty => exact .of_more hreport rfl hempty hrequest
          | malformed hreport => exact .of_error hreport rfl rfl hrequest
          | complete hreport => exact .of_complete hreport rfl rfl rfl
      · next hlook =>
          rw [hlook] at hlooked
          cases hlooked with
          | starved hbuffer hawaits =>
              have hreceived := hawaits.afterReceive bufferSize
              have hreads := connection.readsOn_receive bufferSize
              have hkept := connection.request_receive bufferSize
              split
              · next count next hreceive =>
                  rw [hreceive] at hreceived hreads hkept
                  cases hreceived with
                  | bytes hnext _ =>
                      have hless : rest next < n := by
                        rw [← hn]
                        exact rest_lt_of_receive
                          (isEmpty_eq_false_of_look_eq_starved hlook) hreceive
                      refine ih (rest next) hless _ next rfl hnext (hkept.trans hrequest) ?_ rfl
                      rwa [ne_eq, hreads.stream_alike.ongoing_iff]
              · next fault next hreceive =>
                  rw [hreceive] at hreceived hkept
                  cases hreceived with
                  | failed hreport hempty _ =>
                      exact .of_more hreport rfl hempty (hkept.trans hrequest)
              · next next hreceive =>
                  rw [hreceive] at hreceived
                  cases hreceived with
                  | pending _ _ hongoing => contradiction

/-- Whatever an exchange and a slot were used for before, an exchange with a client
that has ended its side settles what the client's bytes say, however they are cut
into receives. -/
theorem settles_process
    (registry : Registry) (host : Host) (exchange : Exchange) (slot : Slot)
    (id bufferSize : Nat) (stream : Stream)
    (hended : stream.ending ≠ .ongoing) :
    let accepted : Connection :=
      { id := id
        stream := stream
        slot := slot.prepare
        request := none
        registered := true }
    (exchange.process { routes := registry.freeze, host := host } bufferSize
      (accepted.receive bufferSize).2).Settles host registry.reply stream.content := by
  intro accepted
  have hreply :
      ({ routes := registry.freeze, host := host } : Site).reply = registry.reply :=
    funext fun request => Site.reply_freeze registry host request
  have hparser : exchange.restart.parser = Parser.new.feed [] := by
    rw [restart, Parser.reset_eq_new, Parser.feed_nil_new]
  have hawaits : Awaits stream.content [] accepted := awaits_nil rfl
  have hholds := hawaits.holds_receive bufferSize
  have hreads := accepted.readsOn_receive bufferSize
  rw [← hreply]
  refine
    settles_rounds { routes := registry.freeze, host := host } bufferSize exchange.restart
      (accepted.receive bufferSize).2 hparser hholds (accepted.request_receive bufferSize) ?_
  rwa [ne_eq, hreads.stream_alike.ongoing_iff]

/-- An exchange that was left in the middle of a request, and a slot that was left
with a response in it, serve a client that breaks its stream off after a request in
two pieces. -/
theorem settles_process_of_reset :
    let stream : Stream :=
      { waiting := [Bytes.ofText "GET / HT", Bytes.ofText "TP/1.1\r\n\r\n"]
        ending := .reset
        sent := [] }
    let accepted : Connection :=
      { id := 7
        stream := stream
        slot := Slot.prepare { number := 0, buffer := [72], lastTransfer := some .send }
        request := none
        registered := true }
    let used : Exchange := { number := 0, parser := Parser.new.feed (Bytes.ofText "PUT /x") }
    let registry := Registry.empty.mapVerb .get (Bytes.ofText "/") (.crash .other)
    let host := Host.new (.v4 Ipv4.loopback 8080)
    stream.ending ≠ .ongoing ∧
      (Parser.new.feed stream.content).report = .ok .complete ∧
      (used.process { routes := registry.freeze, host := host } 4
        (accepted.receive 4).2).Settles host registry.reply stream.content := by
  intro stream accepted used registry host
  have hended : stream.ending ≠ .ongoing := by decide
  have hreport : (Parser.new.feed stream.content).report = .ok .complete := by decide +kernel
  exact ⟨hended, hreport, settles_process registry host used _ 7 4 stream hended⟩

end Exchange
end HttpEngine
