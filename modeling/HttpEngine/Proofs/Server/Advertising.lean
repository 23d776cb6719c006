import HttpEngine.Proofs.Response.Naming
import HttpEngine.Proofs.Service.Responses
import HttpEngine.Server.Life

/-!
# The advertised address of a running server

From the moment at which a start succeeds until the last client is done, the advertised
address is the one that the listener is bound to, and nobody can change it. So whatever
happens in the meantime and in whatever order, each response names that address.

Before the start, after the stop and after a start that failed, the address can be
changed, and the header line changes with it. At those times no response can be under
way, because no client is being served.
-/

namespace HttpEngine

theorem Machine.eq_of_bind
    {machine bound : Machine} {requested : SocketAddress}
    (hbind : machine.bind requested = .ok bound) :
    bound = { machine with bound := machine.localAddress requested :: machine.bound } := by
  simp only [bind] at hbind
  split at hbind
  · contradiction
  · split at hbind
    · contradiction
    · exact (Except.ok.inj hbind).symm

/-- The host of a server that runs at an address. -/
def Host.running (address : SocketAddress) : Host :=
  { address := address, line := lineOf address, listening := true }

/-- It makes no difference that a host is left alone if it has the address already. -/
theorem Host.Rendered.advertise_eq
    {host : Host} (h : host.Rendered) (address : SocketAddress) :
    Life.advertise host address = running address := by
  unfold Life.advertise
  split
  · next haddress =>
      subst haddress
      rw [setListening, running, ← h]
  · rfl

/-- The address at which a server runs, from a start that succeeded to its stop. -/
def Course.runningAt? : Course → Option SocketAddress
  | .accepting address => some address
  | .draining address => some address
  | _ => none

namespace Life

variable {life : Life}
variable {address : SocketAddress}

theorem course_setHost (life : Life) (host : Host) : (life.setHost host).course = life.course :=
  rfl

/-- What can be said about the advertised host at any time. -/
structure Advertised (life : Life) : Prop where
  rendered : life.host.Rendered
  listening_eq : life.host.listening = life.course.runningAt?.isSome
  address_eq : ∀ address, life.course.runningAt? = some address → life.host.address = address
  bound : ∀ address, life.course = .accepting address → address ∈ life.machine.bound
  idle : life.course.runningAt? = none → life.service.isIdle = true
  names : ∀ bytes ∈ life.service.responses, Response.Names life.host.address bytes

theorem Advertised.host_eq
    (h : life.Advertised) (hrunning : life.course.runningAt? = some address) :
    life.host = Host.running address := by
  have hlistening := h.listening_eq
  have hline : life.host.line = Host.lineOf life.host.address := h.rendered
  rw [hrunning, Option.isSome_some] at hlistening
  rw [Host.running, ← h.address_eq address hrunning, ← hline, ← hlistening]

theorem Advertised.runningAt?_eq_none
    (h : life.Advertised) (hlistening : life.host.listening = false) :
    life.course.runningAt? = none := by
  rwa [h.listening_eq, Option.isSome_eq_false_iff, Option.isNone_iff_eq_none] at hlistening

/-- Clients are served while the host is left alone. -/
theorem Advertised.serving
    (h : life.Advertised) (s : ServiceStep)
    (hidle :
      life.course.runningAt? = none → (life.service.step life.site s).1.isIdle = true) :
    Advertised { life with service := (life.service.step life.site s).1 } := by
  refine ⟨h.rendered, h.listening_eq, h.address_eq, h.bound, hidle, ?_⟩
  intro bytes hbytes
  rcases Service.responses_step s hbytes with hold | ⟨reply, rfl⟩
  · exact h.names bytes hold
  · exact h.rendered.names_render reply

/-- A server that does not run has no response under way. -/
theorem Advertised.not_mem_responses
    (h : life.Advertised) (hrunning : life.course.runningAt? = none) (bytes : Bytes) :
    bytes ∉ life.service.responses := by
  rw [Service.responses_of_isIdle (h.idle hrunning)]
  exact List.not_mem_nil

/-- While a server does not run its host may be replaced. -/
theorem Advertised.withHost
    {host : Host} (h : life.Advertised) (hrunning : life.course.runningAt? = none)
    (hrendered : host.Rendered) (hlistening : host.listening = false) :
    (life.setHost host).Advertised where
  rendered := hrendered
  listening_eq := by
    rw [course_setHost, hrunning]
    exact hlistening
  address_eq := fun address haddress => by
    rw [course_setHost, hrunning] at haddress
    contradiction
  bound := h.bound
  idle := h.idle
  names := fun bytes hbytes => absurd hbytes (h.not_mem_responses hrunning bytes)

/-- A server that did not run runs once its listener is bound. -/
theorem Advertised.accepting
    {machine : Machine} (h : life.Advertised) (hrunning : life.course.runningAt? = none)
    (hbound : address ∈ machine.bound) :
    Advertised
      { life.setHost (Host.running address) with
          machine := machine
          course := .accepting address } where
  rendered := rfl
  listening_eq := rfl
  address_eq := fun _ haddress => Option.some.inj haddress
  bound := fun _ haccepting => Course.accepting.inj haccepting ▸ hbound
  idle := fun hnone => by contradiction
  names := fun bytes hbytes => absurd hbytes (h.not_mem_responses hrunning bytes)

theorem Advertised.failed
    (h : life.Advertised) (hrunning : life.course.runningAt? = none) (fault : ServerFault) :
    Advertised { life with course := .failed fault } where
  rendered := h.rendered
  listening_eq := by
    have hlistening := h.listening_eq
    rwa [hrunning] at hlistening
  address_eq := fun _ haddress => by contradiction
  bound := fun _ haccepting => by contradiction
  idle := fun _ => h.idle hrunning
  names := h.names

/-- A server that accepts no more still runs at its address. -/
theorem Advertised.draining
    (h : life.Advertised) (hcourse : life.course = .accepting address) (machine : Machine) :
    Advertised { life with machine := machine, course := .draining address } where
  rendered := h.rendered
  listening_eq := by
    have hlistening := h.listening_eq
    rwa [hcourse] at hlistening
  address_eq := by
    have haddress := h.address_eq
    rwa [hcourse] at haddress
  bound := fun _ haccepting => by contradiction
  idle := fun hnone => by contradiction
  names := h.names

theorem Advertised.stopped
    (h : life.Advertised) (hidle : life.service.isIdle = true) (address : SocketAddress) :
    Advertised
      { life.setHost (life.host.setListening false) with course := .stopped address } where
  rendered := h.rendered
  listening_eq := rfl
  address_eq := fun _ haddress => by contradiction
  bound := fun _ haccepting => by contradiction
  idle := fun _ => hidle
  names := h.names

/-- A server that has just been configured, with a host that advertises an address. -/
theorem advertised_new
    {server : Server} (machine : Machine) (hhost : server.host = Host.new address) :
    (new machine server).Advertised where
  rendered := by
    rw [host, new, hhost]
    rfl
  listening_eq := by
    rw [host, new, hhost]
    rfl
  address_eq := fun _ hrunning => by contradiction
  bound := fun _ hcourse => by contradiction
  idle := fun _ => rfl
  names := fun _ hbytes => by contradiction

/-- A start that succeeds has bound the listener to the address that was asked for, or
to one with the port that the machine has chosen. -/
theorem address_of_prepare
    {machine prepared : Machine} {server : Server}
    (hprepare : prepare machine server = .ok (prepared, address)) :
    address = machine.localAddress server.host.address ∧ address ∈ prepared.bound := by
  simp only [prepare] at hprepare
  split at hprepare
  · contradiction
  · next bound hbind =>
      have hbound := Machine.eq_of_bind hbind
      split at hprepare
      · contradiction
      · split at hprepare
        · contradiction
        · obtain ⟨rfl, rfl⟩ := Prod.mk.inj (Except.ok.inj hprepare)
          rw [hbound]
          exact ⟨rfl, List.mem_cons_self⟩

/-- One event keeps what can be said about the host. -/
theorem Advertised.step (h : life.Advertised) (s : LifeStep) : (life.step s).1.Advertised := by
  cases s with
  | setAddress ip port =>
      simp only [Life.step]
      split
      · next host hset =>
          obtain ⟨hfree, hlistening⟩ := Host.listening_of_setAddress? hset
          exact
            h.withHost (h.runningAt?_eq_none hfree) (Host.Rendered.of_setAddress? hset) hlistening
      · exact h
  | start =>
      simp only [Life.step]
      split
      · next hcourse =>
          have hrunning : life.course.runningAt? = none := by rw [hcourse]; rfl
          split
          · exact h.failed hrunning _
          · next machine address hprepare =>
              -- The host may be refreshed here, because no response names the old address.
              rw [h.rendered.advertise_eq address]
              exact h.accepting hrunning (address_of_prepare hprepare).2
      · exact h
  | accept stream =>
      simp only [Life.step]
      split
      · next address hcourse =>
          refine h.serving (.accept stream) fun hnone => ?_
          rw [hcourse] at hnone
          contradiction
      · exact h
  | advance k =>
      refine h.serving (.advance k) fun hnone => ?_
      rw [Service.step_advance_of_isIdle (h.idle hnone)]
      exact h.idle hnone
  | abort k =>
      refine h.serving (.abort k) fun hnone => ?_
      rw [Service.step_abort_of_isIdle (h.idle hnone)]
      exact h.idle hnone
  | cancel => exact ⟨h.rendered, h.listening_eq, h.address_eq, h.bound, h.idle, h.names⟩
  | endAccepting =>
      simp only [Life.step]
      split
      · next address hcourse =>
          split
          · exact h.draining hcourse _
          · exact h
      · exact h
  | settle =>
      simp only [Life.step]
      split
      · next address hcourse =>
          split
          · next hidle => exact h.stopped hidle address
          · exact h
      · exact h

/-- Any number of events keep what can be said about the host. -/
theorem Advertised.run (h : life.Advertised) (steps : List LifeStep) :
    (life.run steps).Advertised := by
  induction steps generalizing life with
  | nil => exact h
  | cons s steps ih => exact ih (h.step s)

/-- Once a server has been started, it goes from accepting to draining and from there to
its stop. -/
theorem course_step (life : Life) (s : LifeStep) :
    (life.step s).1.course = life.course ∨
      life.course = .configured ∨
      (∃ address, life.course = .accepting address ∧
        (life.step s).1.course = .draining address) ∨
      ∃ address, life.course = .draining address ∧
        (life.step s).1.course = .stopped address := by
  cases s with
  | setAddress ip port =>
      simp only [step]
      split <;> exact Or.inl rfl
  | start =>
      simp only [step]
      split
      · next hcourse => exact Or.inr (Or.inl hcourse)
      · exact Or.inl rfl
  | accept stream =>
      simp only [step]
      split <;> exact Or.inl rfl
  | advance k => exact Or.inl rfl
  | abort k => exact Or.inl rfl
  | cancel => exact Or.inl rfl
  | endAccepting =>
      simp only [step]
      split
      · next address hcourse =>
          split
          · exact Or.inr (Or.inr (Or.inl ⟨address, hcourse, rfl⟩))
          · exact Or.inl rfl
      · exact Or.inl rfl
  | settle =>
      simp only [step]
      split
      · next address hcourse =>
          split
          · exact Or.inr (Or.inr (Or.inr ⟨address, hcourse, rfl⟩))
          · exact Or.inl rfl
      · exact Or.inl rfl

/-- The address at which a server has started is never another one. -/
theorem address?_run (haddress : life.address? = some address) (steps : List LifeStep) :
    (life.run steps).address? = some address := by
  induction steps generalizing life with
  | nil => exact haddress
  | cons s steps ih =>
      refine ih ?_
      rw [address?] at haddress ⊢
      rcases life.course_step s with hsame | hconfigured | ⟨own, hold, hnew⟩ | ⟨own, hold, hnew⟩
      · rwa [hsame]
      · rw [hconfigured] at haddress
        contradiction
      · rw [hold] at haddress
        rwa [hnew]
      · rw [hold] at haddress
        rwa [hnew]

theorem course_run_of_stopped (hcourse : life.course = .stopped address) (steps : List LifeStep) :
    (life.run steps).course = .stopped address := by
  induction steps generalizing life with
  | nil => exact hcourse
  | cons s steps ih =>
      refine ih ?_
      rcases life.course_step s with hsame | hconfigured | ⟨own, hold, -⟩ | ⟨own, hold, -⟩
      · rw [hsame, hcourse]
      · rw [hcourse] at hconfigured
        contradiction
      · rw [hcourse] at hold
        contradiction
      · rw [hcourse] at hold
        contradiction

/-- A server that has been started at an address: it runs and advertises that address,
or all its clients are done and it has stopped for good. -/
inductive StandsAt (address : SocketAddress) (life : Life) : Prop where
  | running
      (hcourse : life.course = .accepting address ∨ life.course = .draining address)
      (hhost : life.host = Host.running address)
  | stopped
      (hcourse : life.course = .stopped address)
      (hidle : life.service.isIdle = true)
      (hstays :
        ∀ steps,
          (life.run steps).course = .stopped address ∧
            (life.run steps).host.listening = false)

theorem Advertised.standsAt
    (h : life.Advertised) (haddress : life.address? = some address) :
    life.StandsAt address := by
  rw [address?] at haddress
  split at haddress
  · next hcourse =>
      obtain rfl := Option.some.inj haddress
      exact .running (Or.inl hcourse) (h.host_eq (by rw [hcourse]; rfl))
  · next hcourse =>
      obtain rfl := Option.some.inj haddress
      exact .running (Or.inr hcourse) (h.host_eq (by rw [hcourse]; rfl))
  · next hcourse =>
      obtain rfl := Option.some.inj haddress
      refine .stopped hcourse (h.idle (by rw [hcourse]; rfl)) fun steps => ?_
      have hstopped := course_run_of_stopped hcourse steps
      refine ⟨hstopped, ?_⟩
      rw [(h.run steps).listening_eq, hstopped]
      rfl
  · contradiction

/-- What the next event does to the advertised host. -/
structure Guards (life : Life) : Prop where
  refuses :
    life.host.listening = true →
      ∀ ip port, life.step (.setAddress ip port) = (life, .refused .listenerActive, [])
  takes :
    life.host.listening = false →
      ∀ ip port,
        life.step (.setAddress ip port) =
          (life.setHost (life.host.refresh (.ofIp ip port)), .done, [])
  /-- A start that fails leaves the host as it is. -/
  fails :
    ∀ fault, (life.step .start).2.1 = .failed fault → (life.step .start).1.host = life.host
  /-- When accepting has ended and all clients are done, the server can stop. -/
  settles :
    ∀ address, life.course = .draining address → life.service.isIdle = true →
      (life.step .settle).1.course = .stopped address

theorem guards (life : Life) : life.Guards where
  refuses := fun hlistening ip port => by
    simp only [step, Host.setAddress?, hlistening, if_true]
  takes := fun hlistening ip port => by
    simp only [step, Host.setAddress?, hlistening, Bool.false_eq_true, if_false]
  fails := fun fault hfailed => by
    simp only [step] at hfailed ⊢
    split
    · next hcourse =>
        rw [hcourse] at hfailed
        split
        · rfl
        · next hprepare =>
            rw [hprepare] at hfailed
            contradiction
    · rfl
  settles := fun address hcourse hidle => by
    simp only [step, hcourse, hidle, if_true]

theorem started_of_step
    (hstarted : (life.step .start).2.1 = .started address) :
    address = life.machine.localAddress life.host.address ∧
      (life.step .start).1.address? = some address := by
  simp only [step] at hstarted ⊢
  split at hstarted
  · next hcourse =>
      split at hstarted
      · contradiction
      · next machine bound hprepare =>
          obtain rfl := LifeAnswer.started.inj hstarted
          exact ⟨(address_of_prepare hprepare).1, rfl⟩
  · contradiction

/-- For every server that has been configured and at every moment of its life, whatever
has happened and in whatever order: a listener counts as bound exactly while the server
runs; until then and from then on the advertised address can be changed, in the meantime
it cannot, and every response names it. A server that starts does so at the address of
its listener and advertises it until it has stopped. -/
theorem address_fixed_while_listening
    {settings : Settings} {processors : Nat} {server : Server}
    (hbuild : settings.build processors = .ok server)
    (machine : Machine) (steps : List LifeStep) :
    let life := (new machine server).run steps
    life.Advertised ∧
      life.Guards ∧
      ∀ address, (life.step .start).2.1 = .started address →
        address = life.machine.localAddress life.host.address ∧
          ∀ later, ((life.step .start).1.run later).StandsAt address := by
  intro life
  have hhost : server.host = Host.new settings.effectiveAddress := by
    simp only [Settings.build] at hbuild
    split at hbuild
    · contradiction
    · exact (Except.ok.inj hbuild) ▸ rfl
  have hadvertised : life.Advertised := (advertised_new machine hhost).run steps
  refine ⟨hadvertised, life.guards, fun address hstarted => ?_⟩
  obtain ⟨hlocal, haddress⟩ := started_of_step hstarted
  refine ⟨hlocal, fun later => ?_⟩
  exact ((hadvertised.step .start).run later).standsAt (address?_run haddress later)

/-- A server with the standard settings that was told to stop while it had no clients
advertises its address until it has stopped. -/
theorem address_fixed_while_stopping :
    ∃ server, Settings.empty.build 1 = .ok server ∧
      ((new (Machine.standalone 1) server).run [.start, .cancel, .endAccepting]).StandsAt
        (.v4 Ipv4.loopback 8080) := by
  refine ⟨_, rfl, ?_⟩
  have hbuild : Settings.empty.build 1 = .ok _ := rfl
  obtain ⟨-, -, hstarted⟩ := address_fixed_while_listening hbuild (Machine.standalone 1) []
  exact (hstarted (.v4 Ipv4.loopback 8080) rfl).2 [.cancel, .endAccepting]

end Life
end HttpEngine
