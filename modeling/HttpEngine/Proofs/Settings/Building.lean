import HttpEngine.Proofs.Limits.Range
import HttpEngine.Settings
import Mathlib.Data.List.Induction

/-!
# Building from settings in any order

Settings are of six kinds. Of five of them the last one counts, and those that register
routes all count, in their order. So settings can be given in another order without any
difference to what is built, as long as the order within each kind stays.

The number of workers counts from the last setting of its own, if there is one, and else
from the last server limits, or the standard ones. With the limits that count a server is
built if all of them are in range, and otherwise the fault is the one of the first limit
that is not.
-/

namespace HttpEngine

/-- The kinds of settings. -/
inductive Setting.Kind where
  | address
  | port
  | workersCount
  | serverLimits
  | connectionLimits
  | routes
deriving Repr, DecidableEq

namespace Setting

/-- The kind of a setting. A route and a registry both register routes. -/
def kind : Setting → Kind
  | .address _ => .address
  | .port _ => .port
  | .workersCount _ => .workersCount
  | .serverLimits _ => .serverLimits
  | .connectionLimits _ => .connectionLimits
  | .route _ => .routes
  | .routes _ => .routes

def address? : Setting → Option IpAddress
  | .address ip => some ip
  | _ => none

def port? : Setting → Option UInt16
  | .port number => some number
  | _ => none

def workersCount? : Setting → Option Nat
  | .workersCount count => some count
  | _ => none

def serverLimits? : Setting → Option ServerLimits
  | .serverLimits limits => some limits
  | _ => none

def connectionLimits? : Setting → Option ConnectionLimits
  | .connectionLimits limits => some limits
  | _ => none

/-- Registers the routes of a setting. -/
def register (registry : Registry) : Setting → Registry
  | .route added => registry.add added
  | .routes other => registry.merge other
  | _ => registry

end Setting

namespace Settings

/-- The settings of one kind, in their order. -/
def ofKind (kind : Setting.Kind) (steps : List Setting) : List Setting :=
  steps.filter fun step => step.kind == kind

/-- The last setting of a kind. -/
def lastOf (kind : Setting.Kind) (steps : List Setting) : Option Setting :=
  (ofKind kind steps).getLast?

/-- The routes of the settings that register some. -/
def registered (steps : List Setting) : Registry :=
  (ofKind .routes steps).foldl Setting.register .empty

/-- The server limits that count: the number of workers of its own comes first. -/
def countedServerLimits (processors : Nat) (steps : List Setting) : ServerLimits :=
  let limits :=
    ((lastOf .serverLimits steps).bind Setting.serverLimits?).getD (.standard processors)
  { limits with
    workersCount :=
      ((lastOf .workersCount steps).bind Setting.workersCount?).getD limits.workersCount }

/-- The connection limits that count. -/
def countedConnectionLimits (steps : List Setting) : ConnectionLimits :=
  ((lastOf .connectionLimits steps).bind Setting.connectionLimits?).getD .standard

/-- The address and the port that count. -/
def countedAddress (steps : List Setting) : SocketAddress :=
  .ofIp (((lastOf .address steps).bind Setting.address?).getD standardAddress)
    (((lastOf .port steps).bind Setting.port?).getD standardPort)

/-- The server that some settings describe. -/
def described (processors : Nat) (steps : List Setting) : Server :=
  { host := .new (countedAddress steps)
    routes := (registered steps).freeze
    serverLimits := countedServerLimits processors steps
    connectionLimits := countedConnectionLimits steps }

/-- The same last setting of each kind, and the same settings that register routes. -/
structure SameLast (steps others : List Setting) : Prop where
  lastOf_eq : ∀ kind, kind ≠ .routes → lastOf kind steps = lastOf kind others
  routes_eq : ofKind .routes steps = ofKind .routes others

/-- The same settings of each kind, in the same order. -/
def SameOrder (steps others : List Setting) : Prop :=
  ∀ kind, ofKind kind steps = ofKind kind others

theorem SameOrder.sameLast
    {steps others : List Setting} (horder : SameOrder steps others) :
    SameLast steps others where
  lastOf_eq := fun kind _ => congrArg List.getLast? (horder kind)
  routes_eq := horder .routes

/-! ## What has been set -/

theorem ofKind_concat (kind : Setting.Kind) (steps : List Setting) (step : Setting) :
    ofKind kind (steps ++ [step]) =
      if step.kind = kind then ofKind kind steps ++ [step] else ofKind kind steps := by
  rw [ofKind, List.filter_append, ← ofKind]
  by_cases hkind : step.kind = kind
  · simp [hkind]
  · simp [hkind]

theorem lastOf_concat (kind : Setting.Kind) (steps : List Setting) (step : Setting) :
    lastOf kind (steps ++ [step]) =
      if step.kind = kind then some step else lastOf kind steps := by
  rw [lastOf, ofKind_concat]
  split
  · exact List.getLast?_concat
  · rfl

theorem registered_concat (steps : List Setting) (step : Setting) :
    registered (steps ++ [step]) = Setting.register (registered steps) step := by
  rw [registered, ofKind_concat]
  split
  · rw [List.foldl_append]
    rfl
  · next hkind =>
      cases step with
      | route added => exact absurd rfl hkind
      | routes other => exact absurd rfl hkind
      | _ => rfl

theorem applyAll_concat (settings : Settings) (steps : List Setting) (step : Setting) :
    settings.applyAll (steps ++ [step]) = (settings.applyAll steps).apply step := by
  rw [applyAll, List.foldl_append]
  rfl

/-- What has been set is the last of each kind, and all routes. -/
theorem applyAll_empty (steps : List Setting) :
    empty.applyAll steps =
      { address := (lastOf .address steps).bind Setting.address?
        port := (lastOf .port steps).bind Setting.port?
        workersCount := (lastOf .workersCount steps).bind Setting.workersCount?
        serverLimits := (lastOf .serverLimits steps).bind Setting.serverLimits?
        connectionLimits := (lastOf .connectionLimits steps).bind Setting.connectionLimits?
        routes := registered steps } := by
  induction steps using List.reverseRecOn with
  | nil => rfl
  | append_singleton steps step ih =>
      rw [applyAll_concat, ih]
      cases step <;>
        simp [apply, lastOf_concat, registered_concat, Setting.kind, Setting.register,
          Setting.address?, Setting.port?, Setting.workersCount?, Setting.serverLimits?,
          Setting.connectionLimits?]

/-- The same last settings and the same routes leave the same set. -/
theorem SameLast.applyAll_eq
    {steps others : List Setting} (hsame : SameLast steps others) :
    empty.applyAll others = empty.applyAll steps := by
  have hlast : ∀ kind, kind ≠ .routes → lastOf kind others = lastOf kind steps :=
    fun kind hkind => (hsame.lastOf_eq kind hkind).symm
  have hroutes : registered others = registered steps := by
    rw [registered, registered, hsame.routes_eq]
  rw [applyAll_empty, applyAll_empty, hroutes, hlast .address nofun, hlast .port nofun,
    hlast .workersCount nofun, hlast .serverLimits nofun, hlast .connectionLimits nofun]

/-! ## What is built -/

theorem effectiveServerLimits_applyAll (processors : Nat) (steps : List Setting) :
    (empty.applyAll steps).effectiveServerLimits processors =
      countedServerLimits processors steps := by
  rw [applyAll_empty, effectiveServerLimits, countedServerLimits]
  cases (lastOf .workersCount steps).bind Setting.workersCount? <;> rfl

/-- With all limits in range, the server is the one that the settings describe. -/
theorem build_applyAll (processors : Nat) (steps : List Setting) :
    (empty.applyAll steps).build processors =
      match Check.firstFault ((countedServerLimits processors steps).checks ++
        (countedConnectionLimits steps).checks) with
      | some fault => .error fault
      | none => .ok (described processors steps) := by
  rw [build, effectiveServerLimits_applyAll, described, applyAll_empty]
  rfl

/-- A server is built if no fault is found. -/
theorem build_eq_ok_iff {processors : Nat} {steps : List Setting} {server : Server} :
    (empty.applyAll steps).build processors = .ok server ↔
      (∀ limit : Limit, limit.InRange (countedServerLimits processors steps)
        (countedConnectionLimits steps)) ∧ server = described processors steps := by
  rw [← Limit.firstFault_eq_none_iff, build_applyAll]
  split
  · next found hfound => exact iff_of_false nofun fun h => by simp [hfound] at h
  · next hfound =>
      rw [Except.ok.injEq, eq_comm]
      exact (and_iff_right hfound).symm

/-- A fault is the one that is found. -/
theorem build_eq_error_iff {processors : Nat} {steps : List Setting} {fault : ConfigFault} :
    (empty.applyAll steps).build processors = .error fault ↔
      ∃ limit : Limit, limit.IsFirstOutOfRange (countedServerLimits processors steps)
        (countedConnectionLimits steps) ∧
          fault = limit.fault (countedServerLimits processors steps)
            (countedConnectionLimits steps) := by
  rw [← Limit.firstFault_eq_some_iff, build_applyAll]
  split
  · next found hfound => rw [hfound, Except.error.injEq, Option.some.injEq]
  · next hfound =>
      rw [hfound]
      exact iff_of_false nofun nofun

/-- What is built from some settings depends only on the last setting of each kind and on the
settings that register routes, so settings of different kinds can change places. A server is
built if and only if each of the limits that count is in range, and it is the one that the
settings describe; otherwise the fault is that of the first limit out of range. -/
theorem build_of_last_settings (processors : Nat) (steps : List Setting) :
    let outcome := (empty.applyAll steps).build processors
    let serverLimits := countedServerLimits processors steps
    let connectionLimits := countedConnectionLimits steps
    (∀ others, SameLast steps others → (empty.applyAll others).build processors = outcome) ∧
      (∀ others, SameOrder steps others → (empty.applyAll others).build processors = outcome) ∧
      (∀ server, outcome = .ok server ↔
        (∀ limit : Limit, limit.InRange serverLimits connectionLimits) ∧
          server = described processors steps) ∧
      ∀ fault, outcome = .error fault ↔
        ∃ limit : Limit, limit.IsFirstOutOfRange serverLimits connectionLimits ∧
          fault = limit.fault serverLimits connectionLimits := by
  intro outcome serverLimits connectionLimits
  have hlast : ∀ others, SameLast steps others →
      (empty.applyAll others).build processors = outcome := by
    intro others hsame
    rw [hsame.applyAll_eq]
  exact ⟨hlast, fun others horder => hlast others horder.sameLast,
    fun server => build_eq_ok_iff, fun fault => build_eq_error_iff⟩

/-- A number of workers of its own makes up for server limits without workers, whichever is set
first, so that the size of the buffers is the first limit out of range, before the backlog. -/
theorem build_of_swapped_settings :
    let limits : ServerLimits :=
      { workersCount := 0
        bufferSize := 0
        preallocatedSlots := 0
        listenBacklog := 0
        heartbeatInterval := .ofSeconds 86400 }
    let steps : List Setting := [.workersCount 2, .port 80, .serverLimits limits]
    let others : List Setting := [.serverLimits limits, .workersCount 2, .port 80]
    SameOrder steps others ∧
      (empty.applyAll others).build 4 =
        .error (.invalidLimit "buffer_size" "must be at least 1") := by
  intro limits steps others
  obtain ⟨-, hothers, -, herror⟩ := build_of_last_settings 4 steps
  have horder : SameOrder steps others := by
    intro kind
    cases kind <;> rfl
  have hfirst : Limit.IsFirstOutOfRange (countedServerLimits 4 steps)
      (countedConnectionLimits steps) .bufferSize :=
    ⟨by decide, [.workersCount], _, rfl, by decide⟩
  exact ⟨horder, (hothers others horder).trans ((herror _).mpr ⟨.bufferSize, hfirst, rfl⟩)⟩

end Settings
end HttpEngine
