import HttpEngine.Connection.Switchboard
import HttpEngine.Proofs.Connection.Opening
import HttpEngine.Proofs.Named

/-!
# What connections hold and what managers book

A connection stands for an entry in the table of its home and has a slot of it. Of
both the home keeps books, and why the books stay right while connections are held,
replaced, taken off and dropped is the same for both:

* a `Book` says what one connection holds, and when a manager agrees with what is
  held of it in all;
* in the middle of a step a connection may be off the switchboard and hold something
  all the same, so managers are compared with the connections on the switchboard and
  with what is in hand.
-/

namespace HttpEngine

/-- Something that connections hold and that their managers keep books of. -/
structure Book where
  share : Connection → List Nat
  Agrees : Manager → List Nat → Prop
  share_of_keeps :
    ∀ {connection next : Connection}, connection.Keeps next → share next = share connection
  of_perm :
    ∀ {manager : Manager} {held others : List Nat},
      Agrees manager held → held.Perm others → Agrees manager others
  /-- A connection that is dropped gives back what it holds. -/
  drop :
    ∀ {manager : Manager} {connection : Connection} {others : List Nat},
      Agrees manager (share connection ++ others) → Agrees (manager.drop connection).1 others

/-- The entries of the connections, in the tables. -/
def Book.entries : Book where
  share := Connection.entries
  Agrees := Manager.Enters
  share_of_keeps := fun hkeeps => hkeeps.entries_eq
  of_perm := Manager.Enters.of_perm
  drop := Manager.Enters.drop

/-- The slots of the connections, by their numbers. -/
def Book.slots : Book where
  share := fun connection => [connection.slot.number]
  Agrees := Manager.Lends
  share_of_keeps := fun hkeeps => congrArg (fun number => [number]) hkeeps.slot_eq
  of_perm := Pool.Accounts.of_perm
  drop := Manager.Lends.drop

/-- What a first receive leaves of what a connection holds. -/
def Opening.share (book : Book) : Opening → List Nat
  | .opened connection => book.share connection
  | .pending connection => book.share connection
  | .failed _ => []
  | .crashed _ => []

namespace Switchboard

variable {ι : Type}
variable {board : Switchboard ι}
variable {name : String}
variable {held : Held ι}

theorem open?_eq_some_iff :
    board.open? name = some held ↔
      board.held? name = some held ∧ held.connection.registered = true :=
  Option.filter_eq_some_iff

/-- Where a name is free, nothing is taken off. -/
theorem remove_eq_self (hfree : board.held? name = none) : board.remove name = board := by
  rw [remove, Named.filter_eq_self_of_lookup_eq_none hfree]

theorem held?_remove_self (board : Switchboard ι) (name : String) :
    (board.remove name).held? name = none :=
  Named.lookup_filter_self board.held name

theorem held?_hold_self (board : Switchboard ι) (name : String) (held : Held ι) :
    (board.hold name held).held? name = some held :=
  List.lookup_cons_self

theorem remove_hold (hfree : board.held? name = none) (held : Held ι) :
    (board.hold name held).remove name = board := by
  have hremoved : (board.hold name held).remove name = (board.remove name).remove name := by
    simp only [hold, remove]
    rw [List.filter_cons_of_neg (by simp)]
  rw [hremoved, remove_eq_self hfree, remove_eq_self hfree]

end Switchboard

variable {ι : Type} [DecidableEq ι]

/-- What a connection holds of a manager. -/
def Held.shareAt (held : Held ι) (book : Book) (i : ι) : List Nat :=
  if held.home = i then book.share held.connection else []

/-- What the connection that a first receive leaves holds of a manager. -/
def Opening.shareAt (opening : Opening) (book : Book) (home i : ι) : List Nat :=
  if home = i then opening.share book else []

theorem Held.shareAt_home (held : Held ι) (book : Book) :
    held.shareAt book held.home = book.share held.connection :=
  if_pos rfl

theorem Held.shareAt_of_ne {held : Held ι} {i : ι} (book : Book) (hne : i ≠ held.home) :
    held.shareAt book i = [] :=
  if_neg (Ne.symm hne)

theorem Held.shareAt_eq_of_keeps
    {next : Connection} (held : Held ι) (book : Book) (hkeeps : held.connection.Keeps next) :
    { held with connection := next }.shareAt book = held.shareAt book := by
  funext i
  rw [shareAt, shareAt, book.share_of_keeps hkeeps]

theorem Opening.shareAt_eq_nil
    {opening : Opening} {book : Book} {home : ι} (hshare : opening.share book = []) :
    opening.shareAt book home = fun _ => [] := by
  funext i
  rw [shareAt, hshare, ite_self]

namespace Switchboard

variable {board : Switchboard ι}
variable {book : Book}
variable {loose : ι → List Nat}
variable {name : String}
variable {held old next : Held ι}
variable {manager : Manager}
variable {i j : ι}

theorem managers_setManager_self : (board.setManager i manager).managers i = manager :=
  if_pos rfl

theorem managers_setManager_of_ne (hne : j ≠ i) :
    (board.setManager i manager).managers j = board.managers j :=
  if_neg hne

/-- What the connections on a switchboard hold of a manager. -/
def shares (board : Switchboard ι) (book : Book) (i : ι) : List Nat :=
  board.held.flatMap fun entry => entry.2.shareAt book i

/-- The managers agree with what is held and with what is in hand. -/
structure AgreesWith (board : Switchboard ι) (book : Book) (loose : ι → List Nat) : Prop where
  names : (board.held.map Prod.fst).Nodup
  agrees : ∀ i, book.Agrees (board.managers i) (loose i ++ board.shares book i)

/-- The managers agree with what is held. -/
abbrev Agrees (board : Switchboard ι) (book : Book) : Prop :=
  board.AgreesWith book fun _ => []

theorem shares_hold (board : Switchboard ι) (book : Book) (name : String) (held : Held ι) (i : ι) :
    (board.hold name held).shares book i =
      held.shareAt book i ++ (board.remove name).shares book i :=
  List.flatMap_cons

/-- A connection and all others. -/
theorem perm_shares_remove
    (hnames : (board.held.map Prod.fst).Nodup) (hheld : board.held? name = some held)
    (book : Book) (i : ι) :
    (board.shares book i).Perm (held.shareAt book i ++ (board.remove name).shares book i) :=
  (Named.perm_of_lookup hnames hheld).flatMap_right _

/-- One manager may be replaced together with what is in hand for it. -/
theorem AgreesWith.setManager
    {others : ι → List Nat}
    (h : board.AgreesWith book loose) (hothers : ∀ j, j ≠ i → others j = loose j)
    (hmanager : book.Agrees manager (others i ++ board.shares book i)) :
    (board.setManager i manager).AgreesWith book others := by
  refine ⟨h.names, ?_⟩
  intro j
  by_cases hj : j = i
  · subst hj
    rw [managers_setManager_self]
    exact hmanager
  · rw [managers_setManager_of_ne hj, hothers j hj]
    exact h.agrees j

/-- A connection that is taken off is in hand. -/
theorem AgreesWith.remove (h : board.Agrees book) (hheld : board.held? name = some held) :
    (board.remove name).AgreesWith book (held.shareAt book) :=
  { names := Named.nodup_filter h.names name
    agrees := fun i => book.of_perm (h.agrees i) (perm_shares_remove h.names hheld book i) }

/-- What a connection does to its buffer and its stream is in no book. -/
theorem AgreesWith.of_keeps
    {next : Connection} (h : board.AgreesWith book (held.shareAt book))
    (hkeeps : held.connection.Keeps next) :
    board.AgreesWith book ({ held with connection := next }.shareAt book) := by
  rwa [held.shareAt_eq_of_keeps book hkeeps]

/-- A connection in hand can be held under a free name. -/
theorem AgreesWith.hold
    (h : board.AgreesWith book (held.shareAt book)) (hfree : board.held? name = none) :
    (board.hold name held).Agrees book := by
  refine ⟨Named.nodup_cons_filter h.names name held, ?_⟩
  intro i
  rw [List.nil_append, shares_hold, remove_eq_self hfree]
  exact h.agrees i

/-- A connection in hand can be held under a name that is taken, and the other one
is in hand. -/
theorem AgreesWith.replace
    (h : board.AgreesWith book (held.shareAt book)) (hold : board.held? name = some old) :
    (board.hold name held).AgreesWith book (old.shareAt book) := by
  refine ⟨Named.nodup_cons_filter h.names name held, ?_⟩
  intro i
  have hperm := (perm_shares_remove h.names hold book i).append_left (held.shareAt book i)
  rw [shares_hold]
  exact book.of_perm (h.agrees i) (hperm.trans (List.perm_append_comm_assoc _ _ _))

theorem AgreesWith.update
    (h : board.Agrees book) (hheld : board.held? name = some held)
    (hsame : next.shareAt book = held.shareAt book) :
    (board.hold name next).Agrees book := by
  refine ⟨Named.nodup_cons_filter h.names name next, ?_⟩
  intro i
  rw [List.nil_append, shares_hold, hsame]
  exact book.of_perm (h.agrees i) (perm_shares_remove h.names hheld book i)

/-- A connection in hand can be dropped: its home takes back what it holds. -/
theorem AgreesWith.dropHeld (h : board.AgreesWith book (held.shareAt book)) :
    (board.dropHeld held).1.Agrees book := by
  have hhome := h.agrees held.home
  rw [held.shareAt_home] at hhome
  exact h.setManager (fun j hj => (Held.shareAt_of_ne book hj).symm) (book.drop hhome)

theorem AgreesWith.put (h : board.AgreesWith book (held.shareAt book)) (name : String) :
    (board.put name held).1.Agrees book := by
  unfold Switchboard.put
  split
  · next hfree => exact h.hold hfree
  · next hold => exact (h.replace hold).dropHeld

/-- What a client does is in no book. -/
theorem AgreesWith.withClient (h : board.Agrees book) (name : String) (act : Stream → Stream) :
    (board.withClient name act).1.Agrees book := by
  unfold Switchboard.withClient
  split
  · exact h
  · next held hheld =>
      have hkeeps :
          held.connection.Keeps
            { held.connection with stream := act held.connection.stream } :=
        ⟨rfl, rfl, rfl⟩
      exact h.update hheld (held.shareAt_eq_of_keeps book hkeeps)

theorem AgreesWith.dropName (h : board.Agrees book) (name : String) :
    (board.dropName name).1.Agrees book := by
  unfold Switchboard.dropName
  split
  · exact h
  · next hheld => exact (h.remove hheld).dropHeld

/-- What a first receive leaves can be held, and what it has closed is gone. -/
theorem AgreesWith.takeOpening
    {opening : Opening} {events : List Event}
    (h : (board.setManager i manager).AgreesWith book (opening.shareAt book i)) :
    (board.takeOpening i name (manager, opening, events)).1.Agrees book := by
  cases opening with
  | opened connection =>
      have hplaced :
          (board.setManager i manager).AgreesWith book
            (Held.shareAt { home := i, opening := false, connection := connection } book) := h
      exact hplaced.put name
  | pending connection =>
      have hplaced :
          (board.setManager i manager).AgreesWith book
            (Held.shareAt { home := i, opening := true, connection := connection } book) := h
      exact hplaced.put name
  | failed fault => rwa [Opening.shareAt_eq_nil rfl] at h
  | crashed fault => rwa [Opening.shareAt_eq_nil rfl] at h

end Switchboard
end HttpEngine
