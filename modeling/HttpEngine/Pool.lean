import HttpEngine.Text.Record

/-!
# Object pools

A pool keeps objects that are not in use. Whoever needs one takes the object
that was returned last; whoever finds the pool empty may wait. Waiters stand in
a queue. A returned object goes to the waiter that has stood there longest,
waiters that have been cancelled left out, and to the idle objects when nobody
waits.

A cancelled waiter stays in the queue, marked, until a returned object passes
it. Filling a pool adds to the idle objects without looking at the queue.
-/

namespace HttpEngine

/-- A place in the queue of a pool. -/
structure Waiter where
  ticket : Nat
  cancelled : Bool
deriving Repr, DecidableEq

/-- The idle objects, the one returned last first, and the queue, the longest
waiting first. -/
structure Pool (α : Type) where
  idle : List α
  queue : List Waiter
  nextTicket : Nat
deriving Repr, DecidableEq

/-- The reason why a handle cannot be released. -/
inductive PoolFault where
  | alreadyReleased
deriving Repr, DecidableEq

/-- The name of a fault. -/
def PoolFault.label : PoolFault → String
  | .alreadyReleased => "AlreadyReleased"

/-- The description of a fault. -/
def PoolFault.message : PoolFault → String
  | .alreadyReleased => "pooled object was already released"

namespace Pool

variable {α : Type}

/-- A pool without objects. -/
def empty : Pool α :=
  { idle := [], queue := [], nextTicket := 0 }

/-- Adds objects one after the other to the idle ones. -/
def fill (pool : Pool α) (values : List α) : Pool α :=
  { pool with idle := values.reverse ++ pool.idle }

/-- Takes the object that was returned last. -/
def take? (pool : Pool α) : Option (α × Pool α) :=
  match pool.idle with
  | [] => none
  | value :: rest => some (value, { pool with idle := rest })

/-- Joins the queue. -/
def enqueue (pool : Pool α) : Nat × Pool α :=
  (pool.nextTicket,
    { pool with
      queue := pool.queue ++ [{ ticket := pool.nextTicket, cancelled := false }]
      nextTicket := pool.nextTicket + 1 })

/-- Whether a ticket stands in the queue. -/
def isQueued (pool : Pool α) (ticket : Nat) : Bool :=
  pool.queue.any fun waiter => waiter.ticket == ticket

/-- Marks a waiter as cancelled. -/
def cancel (pool : Pool α) (ticket : Nat) : Pool α :=
  { pool with
    queue := pool.queue.map fun waiter =>
      if waiter.ticket = ticket then { waiter with cancelled := true } else waiter }

/-- Returns an object. When it goes to a waiter, the waiter's ticket is part of
the answer and the object is in the waiter's hands. -/
def release (pool : Pool α) (value : α) : Pool α × Option Nat :=
  match pool.queue.dropWhile Waiter.cancelled with
  | [] => ({ pool with idle := value :: pool.idle, queue := [] }, none)
  | waiter :: rest => ({ pool with queue := rest }, some waiter.ticket)

/-- How many objects are idle. -/
def idleCount (pool : Pool α) : Nat :=
  pool.idle.length

/-- How many waiters stand in the queue that have not been cancelled. -/
def waiterCount (pool : Pool α) : Nat :=
  (pool.queue.filter fun waiter => !waiter.cancelled).length

/-- The pool as text; the queue counts cancelled waiters too. -/
def text (pool : Pool α) : String :=
  Text.record "ObjectPool"
    [("idle", toString pool.idle.length), ("waiters", toString pool.queue.length)]

end Pool
end HttpEngine
