import PeerCache.Proofs.Flight.Delivery

/-! # Where returned values come from

A call returns the value of its own computation, or that of the one computation in whose record it
left its mailbox, which was then underway. Calls that registered with one computation agree on its
value, at whatever time they are polled and whatever the key has seen in the meantime.
-/

namespace PeerCache.Flight

variable {α : Type}

/-- The computation is the call's own and ends now, or it was underway when the call registered for
the mailbox at which it waits now, and has ended since. -/
def Supplies (actions : List (Action α)) (created call : Nat) (key : String) (time : Nat)
    (computation : Computation) : Prop :=
  (computation.call = call ∧ created < computation.started ∧ computation.finished = time) ∨
    ∃ registered mailbox, created < registered ∧ Awaits actions registered call key mailbox time ∧
      computation.started < registered ∧ registered < computation.finished ∧
      computation.finished < time

variable {actions : List (Action α)} {time started created call registered mailbox : Nat}
  {key : String} {computation : Computation} {value : α}

/-- What it means for a run that the calls on a key agree with its computations. -/
structure Agreement (actions : List (Action α)) : Prop where
  /-- What returns is a call that was created for some key. -/
  traced : ∀ time call value, Returns actions time call value →
    ∃ created key, Lives actions created call key time
  /-- A call that returns was supplied by exactly one computation of its key, which ended at or
  after a poll of the call. -/
  supplied : ∀ created call key time value, Lives actions created call key time →
    Returns actions time call value →
    ∃ computation, Computes actions computation key value ∧
      Supplies actions created call key time computation ∧
      (∃ polled, created < polled ∧ polled ≤ computation.finished ∧ Polls actions polled call) ∧
      ∀ other value', Computes actions other key value' →
        Supplies actions created call key time other → other = computation
  /-- A call that registered with a computation which returned gets that value at its first poll
  afterwards and nothing before, whatever became of the record and the key in the meantime. -/
  shared : ∀ computation key value registered call mailbox time,
    Computes actions computation key value → Registers actions registered call key mailbox →
    computation.started < registered → registered < computation.finished →
    registered < time →
    (∀ moment, registered < moment → moment ≤ time → call ∈ (trajectory actions moment).calls) →
    Polls actions time call →
    ∀ value', Returns actions time call value' ↔ computation.finished < time ∧ value' = value

/-- A call that returns what it computed was supplied by itself. -/
private theorem supplied_by_itself (lives : Lives actions created call key time)
    (underway : Underway actions started call key time ∨
      started = time ∧ Starts actions time call)
    (finishes : Finishes actions time call value) :
    Computes actions ⟨call, started, time⟩ key value ∧ created < started := by
  rcases underway with underway | ⟨rfl, starts⟩
  · exact ⟨⟨underway.starts, underway.key, underway.earlier.le, underway.runs, finishes⟩,
      lives.started_after underway⟩
  · refine ⟨⟨starts, lives.key?_eq, le_rfl, ?_, finishes⟩, lives.earlier⟩
    intro moment since before
    simp only at since before
    omega

/-- A call that returns was supplied by some computation. -/
private theorem Returns.supplied (returns : Returns actions time call value)
    (lives : Lives actions created call key time) :
    ∃ computation, Computes actions computation key value ∧
      Supplies actions created call key time computation := by
  obtain ⟨ready, outcome, found, answer, turn⟩ := returns.turn
  rcases turn.returned answer with ⟨finished, leads | started⟩ | ⟨-, key', mailbox, waits, mail⟩
  · obtain ⟨key', leads⟩ := leads
    obtain ⟨started, underway⟩ := leads_iff_underway.mp leads
    obtain rfl : key' = key := by simpa using leads.key?_eq.symm.trans lives.key?_eq
    obtain ⟨computes, since⟩ := supplied_by_itself lives (.inl underway) ⟨outcome, found, finished⟩
    exact ⟨_, computes, .inl ⟨rfl, since, rfl⟩⟩
  · obtain ⟨computes, since⟩ :=
      supplied_by_itself lives (.inr ⟨rfl, outcome, found, started⟩) ⟨outcome, found, finished⟩
    exact ⟨_, computes, .inl ⟨rfl, since, rfl⟩⟩
  · obtain ⟨registered, leader, started, awaits, underway, delivery⟩ :=
      explained_of_waits actions time _ key' mailbox waits
    obtain rfl : key' = key := by simpa using waits.key?_eq.symm.trans lives.key?_eq
    have after := awaits.registered_after lives
    cases delivery with
    | underway runs empty => simp [mail] at empty
    | delivered finished value' since before computes again =>
      obtain rfl : value' = value := by simpa using again.symm.trans mail
      exact ⟨_, computes,
        .inr ⟨registered, mailbox, after, awaits, underway.earlier, since, before⟩⟩
    | closed dropped before runs drops again => simp [mail] at again

/-- A call is polled no later than the computation ends that supplies it. -/
theorem Supplies.polled (supplies : Supplies actions created call key time computation)
    (earlier : created < time) (polls : Polls actions time call) :
    ∃ polled, created < polled ∧ polled ≤ computation.finished ∧ Polls actions polled call := by
  rcases supplies with ⟨-, -, rfl⟩ | ⟨registered, mailbox, after, awaits, -, before, -⟩
  · exact ⟨_, earlier, le_rfl, polls⟩
  · exact ⟨registered, after, before.le, awaits.registers.polls⟩

/-- A call that returns mail has not computed anything. -/
theorem Awaits.not_finishes (awaits : Awaits actions registered call key mailbox time)
    (computes : Computes actions computation key value) (since : computation.started < registered)
    (unfinished : registered < computation.finished) (before : computation.finished < time)
    (polls : Polls actions time call) {value' : α} : ¬ Finishes actions time call value' := by
  rintro ⟨outcome, found, finished⟩
  obtain ⟨ready, polled⟩ := polls
  obtain ⟨action, taken, turn, -⟩ := turn_of_outcomeAt? found
  obtain rfl : action = .poll call ready := by simpa using taken.symm.trans polled
  have waits := awaits.waits time awaits.earlier le_rfl
  rcases awaits.mail_of_computes computes since unfinished with ⟨late, -⟩ | ⟨-, mail⟩
  · omega
  · simp [(turn.delivered waits mail).2] at finished

/-- No two computations supply a call. -/
theorem Supplies.unique (supplies : Supplies actions created call key time computation)
    (computes : Computes actions computation key value) (polls : Polls actions time call)
    (lives : Lives actions created call key time) {other : Computation} {value' : α}
    (again : Supplies actions created call key time other)
    (computes' : Computes actions other key value') : other = computation := by
  rcases supplies with ⟨rfl, after, rfl⟩ | ⟨registered, mailbox, -, awaits, since, ends, before⟩
  · rcases again with ⟨same, after', ends'⟩ | ⟨registered, mailbox, -, awaits, since, ends, before⟩
    · have starts' := computes'.starts
      rw [same] at starts'
      have ordered' := computes'.ordered
      have start_eq := lives.start_unique starts' after' (by omega) computes.starts after
        computes.ordered
      exact computes.unique computes' same start_eq
    · exact (awaits.not_finishes computes' since ends before polls computes.finishes).elim
  · rcases again with
      ⟨rfl, after', rfl⟩ | ⟨registered', mailbox', -, awaits', since', ends', before'⟩
    · exact (awaits.not_finishes computes since ends before polls computes'.finishes).elim
    · have waits := awaits.waits time awaits.earlier le_rfl
      have waits' := awaits'.waits time awaits'.earlier le_rfl
      obtain ⟨-, rfl⟩ := waits.unique waits'
      obtain rfl := awaits.registered_eq awaits'
      obtain ⟨call_eq, start_eq⟩ :=
        (computes'.underway since' ends'.le).unique (computes.underway since ends.le)
      exact computes.unique computes' call_eq start_eq

/-- In every run, the calls on a key agree with its computations. -/
theorem run_agreement (actions : List (Action α)) : Agreement actions where
  traced := by
    intro time call value returns
    obtain ⟨ready, outcome, -, answer, turn⟩ := returns.turn
    exact mem_calls_iff.mp (turn.live_of_returned (trajectory_consistent actions time) answer)
  supplied := by
    intro created call key time value lives returns
    obtain ⟨computation, computes, supplies⟩ := returns.supplied lives
    refine ⟨computation, computes, supplies, supplies.polled lives.earlier returns.1, ?_⟩
    intro other value' computes' again
    exact supplies.unique computes returns.1 lives again computes'
  shared := by
    intro computation key value registered call mailbox time computes registers since unfinished
      later live polls value'
    have awaits := registers.awaits computes since unfinished later live
    have waits := awaits.waits time awaits.earlier le_rfl
    obtain ⟨ready, polled⟩ := polls
    have turn := (trajectory_consistent actions time).turn (.poll call ready)
    have found := outcomeAt?_of_found polled
    rcases awaits.mail_of_computes computes since unfinished with ⟨early, mail⟩ | ⟨before, mail⟩
    · constructor
      · rintro ⟨-, outcome, same, answer⟩
        obtain rfl : _ = outcome := by simpa using found.symm.trans same
        rw [turn.awaited waits mail] at answer
        cases answer
      · rintro ⟨late, -⟩
        omega
    · have answer := (turn.delivered waits mail).1
      constructor
      · rintro ⟨-, outcome, same, answer'⟩
        obtain rfl : _ = outcome := by simpa using found.symm.trans same
        exact ⟨before, by simpa using answer'.symm.trans answer⟩
      · rintro ⟨-, rfl⟩
        exact ⟨⟨ready, polled⟩, _, found, answer⟩

/-- A call that is polled late returns what its own leader computed, although another computation of
the key has returned something else by then. -/
example : ((empty : Flight Nat).run [.call 1 "k", .call 2 "k", .poll 1 none, .poll 2 none,
      .poll 1 (some 7), .call 3 "k", .poll 3 (some 8), .poll 2 none]).2.map Prod.fst =
    [.created, .created, .pending, .pending, .returned 7, .created, .returned 8, .returned 7] := by
  decide +kernel

end PeerCache.Flight
