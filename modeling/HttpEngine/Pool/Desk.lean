import HttpEngine.Pool

/-!
# Using a pool

The desk of a pool is the pool together with everybody who uses it:

* handles, which hold objects; a raw handle is a bare object and is lost when
  it is dropped, an owning handle gives its object back when it is released or,
  at the latest, when it is dropped;
* tasks, which wait for an object; a task begins when it is first polled, and a
  task that is cancelled after an object was handed to it passes it on.

New objects are made by a factory, which is asked for one object after the
other. A task whose place in the queue is gone without an object having been
handed to it would wait for ever; it has an object made instead.

A step of the desk is one operation of one user; any interleaving of the users
is a list of steps.
-/

namespace HttpEngine

/-- Who holds an object. -/
inductive Handle (α : Type) where
  /-- A bare object. -/
  | raw (value : α)
  /-- An owning handle, empty once released. -/
  | owned (value : Option α)
deriving Repr, DecidableEq

/-- How far a task has come. -/
inductive Stage (α : Type) where
  /-- It has not begun. -/
  | fresh
  /-- It stands in the queue. -/
  | queued (ticket : Nat)
  /-- An object was handed to it that it has not taken yet. -/
  | served (value : α)
deriving Repr, DecidableEq

/-- A task that waits for an object, to be held by an owning handle or not. -/
structure Task (α : Type) where
  owning : Bool
  stage : Stage α
deriving Repr, DecidableEq

/-- A pool, the number of objects made so far, and the users by name. -/
structure Desk (α : Type) where
  pool : Pool α
  made : Nat
  handles : List (String × Handle α)
  tasks : List (String × Task α)
deriving Repr

/-- One operation of one user. -/
inductive DeskStep (α : Type) where
  /-- Takes an idle object or has one made. -/
  | acquire (name : String) (owning : Bool)
  /-- Takes an idle object if there is one. -/
  | tryAcquire (name : String) (owning : Bool)
  /-- Gives the object of a handle back. -/
  | release (name : String)
  /-- Drops a handle. -/
  | drop (name : String)
  /-- Looks at the object of a handle. -/
  | get (name : String)
  /-- Replaces the object of a handle. -/
  | set (name : String) (value : α)
  /-- Returns an object that came from elsewhere. -/
  | put (value : α)
  /-- Has objects made and adds them to the idle ones. -/
  | fill (count : Nat)
  /-- Makes a task. -/
  | wait (name : String) (owning : Bool)
  /-- Lets a task go on. -/
  | poll (name : String)
  /-- Drops a task. -/
  | cancel (name : String)
deriving Repr

/-- What an operation answers. -/
inductive DeskAnswer (α : Type) where
  | done
  | value (value : α)
  | nothing
  | pending
  | fault (fault : PoolFault)
  | usedAfterRelease
  | unknown
deriving Repr, DecidableEq

/-- The report of a use of a released handle. -/
def usedAfterReleaseText : String :=
  "pooled object used after release"

namespace Handle

variable {α : Type}

/-- A handle of the wanted kind. -/
def of (owning : Bool) (value : α) : Handle α :=
  if owning then .owned (some value) else .raw value

/-- The object of a handle. -/
def value? : Handle α → Option α
  | .raw value => some value
  | .owned value => value

/-- Whether the object has gone back. -/
def isReleased : Handle α → Bool
  | .raw _ => false
  | .owned value => value.isNone

/-- An owning handle as text. -/
def text (show_ : α → String) (handle : Handle α) : String :=
  Text.record "Pooled" [("value", Text.optional (handle.value?.map show_))]

end Handle

namespace Desk

variable {α : Type}

/-- A desk with a pool that was filled with a number of new objects. -/
def new (make : Nat → α) (count : Nat) : Desk α :=
  { pool := Pool.empty.fill ((List.range count).map make)
    made := count
    handles := []
    tasks := [] }

/-- The handle of that name. -/
def handle? (desk : Desk α) (name : String) : Option (Handle α) :=
  desk.handles.lookup name

/-- The task of that name. -/
def task? (desk : Desk α) (name : String) : Option (Task α) :=
  desk.tasks.lookup name

/-- The desk without the handle of that name. -/
def dropHandle (desk : Desk α) (name : String) : Desk α :=
  { desk with handles := desk.handles.filter fun entry => entry.1 != name }

/-- The desk without the task of that name. -/
def dropTask (desk : Desk α) (name : String) : Desk α :=
  { desk with tasks := desk.tasks.filter fun entry => entry.1 != name }

/-- Replaces the handle of a name. -/
def setHandle (desk : Desk α) (name : String) (handle : Handle α) : Desk α :=
  { desk.dropHandle name with handles := (name, handle) :: (desk.dropHandle name).handles }

/-- Replaces the task of a name. -/
def setTask (desk : Desk α) (name : String) (task : Task α) : Desk α :=
  { desk.dropTask name with tasks := (name, task) :: (desk.dropTask name).tasks }

/-- Puts an object into the hands of the task that holds a ticket. -/
def serve (ticket : Nat) (value : α) (entry : String × Task α) : String × Task α :=
  match entry.2.stage with
  | .queued held =>
      if held = ticket then (entry.1, { entry.2 with stage := .served value }) else entry
  | _ => entry

/-- Returns an object to the pool and hands it over when somebody waits. -/
def giveBack (desk : Desk α) (value : α) : Desk α :=
  match desk.pool.release value with
  | (pool, none) => { desk with pool := pool }
  | (pool, some ticket) =>
      { desk with pool := pool, tasks := desk.tasks.map (serve ticket value) }

/-- Gives back what a dropped handle still owns. -/
def settle (desk : Desk α) : Option (Handle α) → Desk α
  | some (.owned (some value)) => desk.giveBack value
  | _ => desk

/-- Gives an object to a user; a handle of the same name is dropped. -/
def hold
    (desk : Desk α) (name : String) (owning : Bool) (value : α) :
    Desk α :=
  (desk.setHandle name (.of owning value)).settle (desk.handle? name)

/-- Passes on what a dropped task was handed, or marks its place in the
queue. -/
def withdraw (desk : Desk α) : Option (Task α) → Desk α
  | some { stage := .queued ticket, .. } => { desk with pool := desk.pool.cancel ticket }
  | some { stage := .served value, .. } => desk.giveBack value
  | _ => desk

/-- Lets a task begin: it takes an idle object or joins the queue. -/
def begin
    (desk : Desk α) (name : String) (owning : Bool) :
    Desk α × DeskAnswer α :=
  match desk.pool.take? with
  | some (value, pool) =>
      (({ desk with pool := pool }.dropTask name).hold name owning value, .value value)
  | none =>
      let (ticket, pool) := desk.pool.enqueue
      ({ desk with pool := pool }.setTask name { owning := owning, stage := .queued ticket },
        .pending)

/-- Has an object made for a user. -/
def holdNew
    (make : Nat → α) (desk : Desk α) (name : String) (owning : Bool) :
    Desk α × DeskAnswer α :=
  let value := make desk.made
  ({ desk with made := desk.made + 1 }.hold name owning value, .value value)

/-- One operation. -/
def step (make : Nat → α) (desk : Desk α) : DeskStep α → Desk α × DeskAnswer α
  | .acquire name owning =>
      match desk.pool.take? with
      | some (value, pool) => ({ desk with pool := pool }.hold name owning value, .value value)
      | none => desk.holdNew make name owning
  | .tryAcquire name owning =>
      match desk.pool.take? with
      | some (value, pool) => ({ desk with pool := pool }.hold name owning value, .value value)
      | none => (desk, .nothing)
  | .release name =>
      match desk.handle? name with
      | some (.raw value) => ((desk.dropHandle name).giveBack value, .done)
      | some (.owned (some value)) =>
          ((desk.setHandle name (.owned none)).giveBack value, .done)
      | some (.owned none) => (desk, .fault .alreadyReleased)
      | none => (desk, .unknown)
  | .drop name =>
      match desk.handle? name with
      | some handle => ((desk.dropHandle name).settle (some handle), .done)
      | none => (desk, .unknown)
  | .get name =>
      match desk.handle? name with
      | some (.raw value) => (desk, .value value)
      | some (.owned (some value)) => (desk, .value value)
      | some (.owned none) => (desk, .usedAfterRelease)
      | none => (desk, .unknown)
  | .set name value =>
      match desk.handle? name with
      | some (.raw _) => (desk.setHandle name (.raw value), .done)
      | some (.owned (some _)) => (desk.setHandle name (.owned (some value)), .done)
      | some (.owned none) => (desk, .usedAfterRelease)
      | none => (desk, .unknown)
  | .put value => (desk.giveBack value, .done)
  | .fill count =>
      ({ desk with
          pool := desk.pool.fill ((List.range count).map fun i => make (desk.made + i))
          made := desk.made + count },
        .done)
  | .wait name owning =>
      ((desk.setTask name { owning := owning, stage := .fresh }).withdraw (desk.task? name),
        .pending)
  | .poll name =>
      match desk.task? name with
      | some { owning, stage := .fresh } => desk.begin name owning
      | some { owning, stage := .queued ticket } =>
          if desk.pool.isQueued ticket then (desk, .pending)
          else (desk.dropTask name).holdNew make name owning
      | some { owning, stage := .served value } =>
          ((desk.dropTask name).hold name owning value, .value value)
      | none => (desk, .unknown)
  | .cancel name =>
      match desk.task? name with
      | some task => ((desk.dropTask name).withdraw (some task), .done)
      | none => (desk, .unknown)

/-- Any number of operations, one after the other. -/
def run (make : Nat → α) (desk : Desk α) (steps : List (DeskStep α)) : Desk α :=
  steps.foldl (fun desk s => (desk.step make s).1) desk

end Desk
end HttpEngine
