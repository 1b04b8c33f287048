import Mathlib.Data.Nat.Count
import PeerCache.Proofs.Group.Bookkeeping
import PeerCache.Proofs.Group.Provenance

/-! # The counters of a group add up

Each get is turned away, hits, or enters the flight, and each computation that goes past its second
look ends in one of the ways that are counted, is cancelled, or is still under way. With the events
that have no counter of their own, this is an account of all counters at all times.
-/

namespace PeerCache.Group

namespace History

section Definitions

variable (history : History)

/-- The event that the action at a moment is. -/
def event? (moment : Nat) : Option Event :=
  (history.actions[moment]?).bind (history.group moment).event?

/-- How many events of a kind there were before a time. -/
def tally (event : Event) (time : Nat) : Nat := Nat.count (history.event? · = some event) time

/-- An action on a get counts a hit. -/
def Hits (moment call : Nat) : Prop :=
  (∃ action, history.actions[moment]? = some action ∧ action.get? = some call) ∧
    (history.group (moment + 1)).stats.cacheHits ≠ (history.group moment).stats.cacheHits

/-- What it means for the counters of a group that they add up at all times. -/
structure Balance : Prop where
  runs : history.Runs
  /-- A get that was polled was turned away, hit at its first look, or entered the flight. -/
  gets : ∀ time, (history.group time).stats.gets =
    history.tally .rejection time + history.tally .firstHit time + (history.group time).stats.loads
  /-- Hits are those of the first look and those of the second one. -/
  hits : ∀ time, (history.group time).stats.cacheHits =
    history.tally .firstHit time + history.tally .secondHit time
  /-- No get is more than one of these: turned away, answered by a hit, or the first to need its
  key. -/
  covered : ∀ time, (history.group time).stats.cacheHits + (history.group time).stats.loadsDeduped +
    history.tally .rejection time ≤ (history.group time).stats.gets
  /-- A computation that went past its second look was answered by a peer or by the loader, or was
  cancelled, or is outstanding. -/
  computed : ∀ time, (history.group time).stats.loadsDeduped =
    (history.group time).stats.peerLoads + (history.group time).stats.localLoads +
      (history.group time).stats.localLoadErrors + history.tally .abandonment time +
      (history.group time).errands.size
  /-- A computation is answered by one peer at most. -/
  asked : ∀ time, (history.group time).stats.peerLoads + (history.group time).stats.peerErrors ≤
    (history.group time).stats.loadsDeduped
  /-- When no get is live and no live one was cancelled, every computation was answered. -/
  settled : ∀ time, (∀ call, (history.group time).isLive call = false) →
    (∀ moment call, moment < time → history.actions[moment]? = some (.drop call) →
      (history.group moment).isLive call = false) →
    (history.group time).stats.loadsDeduped = (history.group time).stats.peerLoads +
      (history.group time).stats.localLoads + (history.group time).stats.localLoadErrors
  /-- Hits are counted one by one, each for a get that ends with a value. -/
  counted : ∀ time,
    (history.group (time + 1)).stats.cacheHits = (history.group time).stats.cacheHits ∨
      (history.group (time + 1)).stats.cacheHits = (history.group time).stats.cacheHits + 1 ∧
        ∃ call value, history.Hits time call ∧ history.Completes time call (.ok value)
  /-- A get hits at most once. -/
  once : ∀ created begun begun' call key key' first second,
    history.Gets created begun call key first → history.Gets created begun' call key' second →
    history.Hits first call → history.Hits second call → first = second

end Definitions

variable {history : History} {time call created begun : Nat} {key : String}

private theorem tally_succ (history : History) (event : Event) (time : Nat) :
    history.tally event (time + 1) =
      history.tally event time + if history.event? time = some event then 1 else 0 :=
  Nat.count_succ ..

theorem balanced (history : History) (time : Nat) :
    (history.group time).Balanced fun event => history.tally event time := by
  induction time with
  | zero =>
    have none : (fun event => history.tally event 0) = fun _ => 0 := by
      funext event
      exact Nat.count_zero _
    rw [none]
    exact balanced_create history.name history.plan
  | succ time ih =>
    cases found : history.actions[time]? with
    | none =>
      have same : (fun event => history.tally event (time + 1)) =
          fun event => history.tally event time := by
        funext event
        simp [tally_succ, event?, found]
      rwa [same, group_succ_of_none found]
    | some action =>
      obtain ⟨outcome, stepped, -, next⟩ := history.advances found
      have more : (fun event => history.tally event (time + 1)) =
          (history.group time).count action fun event => history.tally event time := by
        funext event
        simp [tally_succ, count, event?, found]
      rw [more, next]
      exact ih.step (history.sound time) stepped

private theorem Gets.live (gets : history.Gets created begun call key time) {moment : Nat}
    (after : created < moment) (before : moment ≤ time) :
    (history.group moment).arrivals[call]? ≠ none ∨
      (history.group moment).flight.calls[call]? ≠ none := by
  rcases Nat.lt_or_ge begun moment with later | earlier
  · right
    intro gone
    simpa [Flight.key?, gone] using gets.flies moment later before
  · left
    simp [gets.arrives.stays moment after earlier]

private theorem Hits.gone (hits : history.Hits time call) :
    (history.group (time + 1)).arrivals[call]? = none ∧
      (history.group (time + 1)).flight.calls[call]? = none := by
  obtain ⟨⟨action, found, about⟩, raised⟩ := hits
  obtain ⟨outcome, stepped, -, next⟩ := history.advances found
  rw [next] at raised ⊢
  rcases hit_of_step (history.sound time) stepped with same | ⟨-, call', value, about', -, gone⟩
  · exact absurd same raised
  · obtain rfl : call' = call := by simpa using about'.symm.trans about
    exact gone

private theorem Hits.not_later {first second : Nat} (hits : history.Hits first call)
    (gets : history.Gets created begun call key second) (created_lt : created < first) :
    ¬ first < second := by
  intro later
  obtain ⟨unarrived, gone⟩ := hits.gone
  rcases gets.live (show created < first + 1 by omega) later with arrived | flying
  · exact arrived unarrived
  · exact flying gone

/-- In every history of a group the counters add up. -/
theorem balance (history : History) : history.Balance where
  runs := history.runs
  gets time := (history.balanced time).gets
  hits time := (history.balanced time).hits
  covered := by
    intro time
    obtain ⟨gets, hits, flying, computed, asked⟩ := history.balanced time
    have fewer := (history.sound time).size_errands_le
    omega
  computed time := (history.balanced time).computed
  asked := by
    intro time
    have asked := (history.balanced time).asked
    omega
  settled := by
    intro time idle undropped
    have computed := (history.balanced time).computed
    have abandoned : history.tally .abandonment time = 0 := by
      refine Nat.count_of_forall_not fun moment before event => ?_
      obtain ⟨action, found, event⟩ := Option.bind_eq_some_iff.mp event
      obtain ⟨call, rfl, live⟩ := drop_of_abandonment (history.sound moment) event
      simp [undropped moment call before found] at live
    have outstanding := (history.sound time).size_errands_le
    rw [Std.ExtTreeMap.eq_empty_iff_size_eq_zero.mp (calls_eq_empty idle)] at outstanding
    omega
  counted := by
    intro time
    cases found : history.actions[time]? with
    | none => exact .inl (by rw [group_succ_of_none found])
    | some action =>
      obtain ⟨outcome, stepped, -, next⟩ := history.advances found
      rw [next]
      refine (hit_of_step (history.sound time) stepped).imp_right ?_
      rintro ⟨raised, call, value, about, ends, -⟩
      refine ⟨raised, call, value, ⟨⟨action, found, about⟩, ?_⟩, action, outcome, found, about,
        stepped, ends⟩
      rw [next, raised]
      omega
  once := by
    intro created begun begun' call key key' first second gets gets' hits hits'
    have after := gets.arrives.earlier.trans_le gets.reached
    have after' := gets'.arrives.earlier.trans_le gets'.reached
    have notLater := hits.not_later gets' after
    have notEarlier := hits'.not_later gets after'
    omega

/-- A get that waited for one that was cancelled finds at its second look what a third one has
loaded meanwhile. -/
example :
    let history : History := ⟨"scores", {}, [.call 1 "Tom", .call 2 "Tom", .poll 1 none,
      .poll 2 none, .drop 1, .call 3 "Tom", .poll 3 none, .loaded 3 (.ok [54]), .poll 2 none]⟩
    history.tally .abandonment 9 = 1 ∧ history.tally .secondHit 9 = 1 ∧
      (history.group 9).stats.cacheHits = 1 ∧ (history.group 9).stats.loadsDeduped = 2 := by
  decide +kernel

end History

end PeerCache.Group
