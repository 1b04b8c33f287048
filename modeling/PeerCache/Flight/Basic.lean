import Std.Data.ExtTreeMap

/-! # Flights

A flight coalesces calls: of all calls on one key, at most one computes at any time, and those that
come while it does wait for its value. A call that is polled for the first time leads if nobody else
does, and otherwise leaves a mailbox in the record of its key. When the leader concludes, its value
goes to every mailbox in the record. When the leader is dropped, those mailboxes are closed, and a
waiter that finds its mailbox closed starts over within the same poll.

Mailboxes are numbered and never reused, so a record may name mailboxes whose owners are gone, and a
value stays in its mailbox however many leaders the key has had since.
-/

namespace PeerCache

/-- What is in the mailbox of a waiting call. -/
inductive Mail (α : Type) where
  /-- Nothing yet: the leader is at work. -/
  | awaited
  /-- The value of the leader, which has concluded. -/
  | delivered (value : α)
  /-- Nothing ever: the leader was dropped. -/
  | closed
deriving DecidableEq, Repr

/-- How a live call takes part in a flight. -/
inductive Stance where
  /-- It was never polled. -/
  | fresh
  /-- It waits for mail in the mailbox of this number. -/
  | waiting (mailbox : Nat)
  /-- Its own computation runs. -/
  | leading
deriving DecidableEq, Repr

/-- A live call. -/
structure FlightCall where
  key : String
  stance : Stance
deriving DecidableEq, Repr

/-- The live calls by number, a record for every key that has a leader, and the mailboxes in use. -/
structure Flight (α : Type) where
  calls : Std.ExtTreeMap Nat FlightCall
  /-- The mailboxes that wait for the leader of a key, in the order of their arrival. -/
  records : Std.ExtTreeMap String (List Nat)
  mailboxes : Std.ExtTreeMap Nat (Mail α)
  nextMailbox : Nat

/-- What a call meets when it is polled. -/
inductive Attendance (α : Type) where
  /-- There is no such call. -/
  | absent
  /-- It has just become the leader: its computation starts. -/
  | started
  /-- It is the leader, and its computation goes on. -/
  | leading
  /-- It waits for the leader. -/
  | waiting
  /-- Its leader concluded with this value. The call is over. -/
  | received (value : α)
deriving DecidableEq, Repr

namespace Flight

variable {α : Type}

/-- The flight without calls. -/
def empty : Flight α := { calls := ∅, records := ∅, mailboxes := ∅, nextMailbox := 0 }

/-- The key of a live call. -/
def key? (flight : Flight α) (call : Nat) : Option String := flight.calls[call]?.map FlightCall.key

/-- Create a call without polling it. A number in use keeps its call. -/
def enter (flight : Flight α) (call : Nat) (key : String) : Flight α :=
  if call ∈ flight.calls then flight
  else { flight with calls := flight.calls.insert call ⟨key, .fresh⟩ }

/-- Let a call lead its key if nobody does, and otherwise wait for the leader. -/
def join (flight : Flight α) (call : Nat) (key : String) : Flight α × Attendance α :=
  match flight.records[key]? with
  | none =>
    ({ flight with
        calls := flight.calls.insert call ⟨key, .leading⟩
        records := flight.records.insert key [] }, .started)
  | some waiters =>
    ({ calls := flight.calls.insert call ⟨key, .waiting flight.nextMailbox⟩
       records := flight.records.insert key (waiters ++ [flight.nextMailbox])
       mailboxes := flight.mailboxes.insert flight.nextMailbox .awaited
       nextMailbox := flight.nextMailbox + 1 }, .waiting)

/-- Poll a call as far as the flight decides: up to the point where a computation has to go on. -/
def attend (flight : Flight α) (call : Nat) : Flight α × Attendance α :=
  match flight.calls[call]? with
  | none => (flight, .absent)
  | some ⟨key, .fresh⟩ => flight.join call key
  | some ⟨_, .leading⟩ => (flight, .leading)
  | some ⟨key, .waiting mailbox⟩ =>
    match flight.mailboxes[mailbox]? with
    | some .awaited => (flight, .waiting)
    | some (.delivered value) =>
      ({ flight with
          calls := flight.calls.erase call
          mailboxes := flight.mailboxes.erase mailbox }, .received value)
    | some .closed | none =>
      { flight with mailboxes := flight.mailboxes.erase mailbox }.join call key

/-- Put mail into those of the listed mailboxes that are still in use. -/
def post (mailboxes : Std.ExtTreeMap Nat (Mail α)) (listed : List Nat) (mail : Mail α) :
    Std.ExtTreeMap Nat (Mail α) :=
  listed.foldl (fun mailboxes mailbox => mailboxes.modify mailbox fun _ => mail) mailboxes

/-- End the flight of a key, with mail for everyone in its record. -/
def land (flight : Flight α) (key : String) (mail : Mail α) : Flight α :=
  { flight with
    records := flight.records.erase key
    mailboxes := post flight.mailboxes (flight.records[key]?.getD []) mail }

/-- Let a leading call return its value. The call is over, and its waiters get the value. -/
def conclude (flight : Flight α) (call : Nat) (value : α) : Flight α :=
  match flight.calls[call]? with
  | some ⟨key, .leading⟩ =>
    { flight with calls := flight.calls.erase call }.land key (.delivered value)
  | _ => flight

/-- Cancel a call. The waiters of a cancelled leader find their mailboxes closed. -/
def drop (flight : Flight α) (call : Nat) : Flight α :=
  match flight.calls[call]? with
  | none => flight
  | some ⟨_, .fresh⟩ => { flight with calls := flight.calls.erase call }
  | some ⟨_, .waiting mailbox⟩ =>
    { flight with
      calls := flight.calls.erase call
      mailboxes := flight.mailboxes.erase mailbox }
  | some ⟨key, .leading⟩ => { flight with calls := flight.calls.erase call }.land key .closed

end Flight

end PeerCache
