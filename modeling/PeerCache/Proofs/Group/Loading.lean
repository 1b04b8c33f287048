import Mathlib.Data.Nat.Count
import PeerCache.Proofs.Group.Errands
import PeerCache.Proofs.Group.Projection

/-! # How often a group loads

No load is redundant. A computation looks into the storage before it asks for anything, and it leads
its key, so that no other load can store a value for the key before its own ends. Hence what a
computation waits for is never stored, every load inserts, and of the values that were loaded for a
key each has left the storage but for the one that is stored. Loads and departures of a key are kept
account of like this along the whole history.
-/

namespace PeerCache.Group

/-- What the computations wait for is not stored. -/
def Needed (group : Group) : Prop :=
  ∀ (call : Nat) (request : Request), group.errands[call]? = some request →
    group.peek request.key = none

/-! ## Where errands come from -/

section Errands

variable {group : Group} {call other : Nat} {key : String} {request : Request}

/-- Every errand was there already, up to a fetch that has become a load, or was asked for by a
poll that did not find its key. -/
private theorem errand_of_step (sound : group.Sound) {action : Action} {outcome : Outcome}
    (stepped : group.step action = .ok outcome)
    (errand : outcome.group.errands[other]? = some request) :
    (∃ earlier, group.errands[other]? = some earlier ∧ earlier.key = request.key) ∨
      (∃ owner, action = .poll other owner) ∧ group.peek request.key = none := by
  cases before : group.errands[other]? with
  | some earlier =>
    have after := (errand_after sound stepped before).symm.trans errand
    exact .inl ⟨earlier, rfl, (Request.key_of_after after).symm⟩
  | none =>
    obtain ⟨about, asks⟩ := asks_of_errand sound stepped before errand
    rcases asks_of_step sound stepped asks with
      ⟨call, owner, rfl, -, -, missing, -⟩ | ⟨call, peer, cause, rfl, fetches, -⟩
    all_goals obtain rfl : call = other := Option.some.inj about
    · exact .inr ⟨⟨owner, rfl⟩, missing⟩
    · simp [before] at fetches

private theorem errand_of_loaded (sound : group.Sound) {result : Except String Bytes}
    {outcome : Outcome} (loads : group.errands[call]? = some (.load key))
    (stepped : group.step (.loaded call result) = .ok outcome) :
    outcome.group.errands[call]? = none := by
  rw [errand_after sound stepped loads]
  simp [Request.after, Request.remaining, Action.get?]

theorem Sound.errand_unique {group : Group} (sound : group.Sound) {first second : Request}
    (errand : group.errands[call]? = some first) (errand' : group.errands[other]? = some second)
    (same : first.key = second.key) : call = other :=
  sound.consistent.single second.key call other
    ((sound.errand.leads call second.key).mpr ⟨first, errand, same⟩)
    ((sound.errand.leads other second.key).mpr ⟨second, errand', rfl⟩)

/-- No action stores what a computation still waits for. -/
theorem Needed.step (needed : group.Needed) (sound : group.Sound) {action : Action}
    {outcome : Outcome} (stepped : group.step action = .ok outcome)
    (advances : Advances group action outcome) : outcome.group.Needed := by
  intro call request errand
  by_contra stored
  obtain ⟨value, stored⟩ := Option.ne_none_iff_exists'.mp stored
  have origin := errand_of_step sound stepped errand
  have missing : group.peek request.key = none := by
    rcases origin with ⟨earlier, kept, same⟩ | ⟨-, missing⟩
    · rw [← same]
      exact needed call earlier kept
    · exact missing
  -- The value is new, so it is that of a load, and the load was that of the computation itself.
  rcases advances.stored request.key value stored with before | ⟨loader, rfl, loads⟩
  · simp [missing] at before
  · rcases origin with ⟨earlier, kept, same⟩ | ⟨⟨owner, polls⟩, -⟩
    · obtain rfl := sound.errand_unique kept loads same
      simp [errand_of_loaded sound loads stepped] at errand
    · cases polls

end Errands

/-! ## Account of the storage -/

private theorem present_holding (group : Group) (key : String) :
    Storage.present group.holding.index key = if (group.peek key).isSome then 1 else 0 := by
  obtain ⟨-, -, shown⟩ := shown_holding group
  rw [shown, Storage.peek, Option.isSome_map, Storage.present]
  simp only [Std.ExtTreeMap.mem_iff_isSome_getElem?]

namespace Handles

variable {group next : Group} {use : Option Storage.Action} {departures : List Departure}

private theorem count_add_present (handles : Handles group next use departures) (key : String) :
    (departures.map Departure.key).count key + Storage.present next.holding.index key =
      if use.bind Storage.Action.added? = some key then 1
      else Storage.present group.holding.index key := by
  cases handles with
  | nothing plan same => simp [holding, same, plan]
  | once action answer plan stepped =>
    exact (Storage.performs_of_step stepped).count_add_present key

private theorem holding_plan (handles : Handles group next use departures) :
    next.holding.plan = group.holding.plan := by
  cases handles with
  | nothing plan same => rw [holding, holding, same, plan]
  | once action answer plan stepped => exact (Storage.performs_of_step stepped).plan_eq

private theorem departures_eq_nil (handles : Handles group next use departures)
    (unbounded : group.holding.plan.capacity = 0) : departures = [] := by
  cases handles with
  | nothing => rfl
  | once action answer plan stepped =>
    exact (Storage.performs_of_step stepped).departures_eq_nil unbounded

end Handles

namespace History

section Definitions

variable (history : History)

/-- The loader gives a value for the key. -/
def Supplies (moment : Nat) (key : String) : Prop := ∃ value, history.Loads moment key (.ok value)

theorem supplies_iff {moment : Nat} {key : String} : history.Supplies moment key ↔
    (history.use? moment).bind Storage.Action.added? = some key := by
  constructor
  · rintro ⟨value, loads⟩
    rw [use?_eq_add_iff.mpr loads]
    rfl
  · intro added
    obtain ⟨action, used, added⟩ := Option.bind_eq_some_iff.mp added
    cases action with
    | add other value =>
      obtain rfl : other = key := by simpa [Storage.Action.added?] using added
      exact ⟨value, use?_eq_add_iff.mp used⟩
    | get other => cases added
    | peek other => cases added

instance (moment : Nat) (key : String) : Decidable (history.Supplies moment key) :=
  decidable_of_iff _ history.supplies_iff.symm

/-- What it means for the loads of a group that none is redundant. -/
structure Thrift : Prop where
  runs : history.Runs
  /-- At all times, the values that were loaded for a key are those that left and the one that is
  stored. -/
  balanced : ∀ time key, Nat.count (history.Supplies · key) time =
    ((history.departures time).map Departure.key).count key +
      if ((history.group time).peek key).isSome then 1 else 0
  /-- Between two loads of a key, its entry leaves. -/
  evicted : ∀ first second key, first < second → history.Supplies first key →
    history.Supplies second key →
    ∃ moment, first ≤ moment ∧ moment < second ∧
      key ∈ (history.departuresAt moment).map Departure.key
  /-- Without a budget, a value is loaded for a key once and for all. -/
  unbounded : history.plan.capacity = 0 → ∀ first second key, history.Supplies first key →
    history.Supplies second key → first = second
  /-- A load inserts its key, and never overwrites it. -/
  inserts : ∀ moment key value, history.Loads moment key (.ok value) →
    (history.group moment).holding.index[key]? = none ∧
      (history.group moment).holding.insertNew key value =
        .ok (history.departuresAt moment, (history.group (moment + 1)).holding)
  /-- What is stored for a key is what the loader gave. -/
  filled : ∀ moment key value, (history.group (moment + 1)).peek key = some value →
    (history.group moment).peek key = some value ∨ history.Loads moment key (.ok value)
  /-- Without a load, nothing comes and nothing leaves. -/
  kept : ∀ moment, (∀ key, ¬ history.Supplies moment key) → history.departuresAt moment = [] ∧
    ∀ key, (history.group (moment + 1)).peek key = (history.group moment).peek key
  /-- What arrives for a get that was cancelled is lost, until another get has its number. -/
  cancelled : ∀ dropped time call, history.actions[dropped]? = some (.drop call) → dropped < time →
    (∀ moment key, dropped < moment → moment < time →
      history.actions[moment]? ≠ some (.call call key)) →
    ((∃ result, history.actions[time]? = some (.fetched call result)) ∨
      ∃ result, history.actions[time]? = some (.loaded call result)) →
    history.group (time + 1) = history.group time

end Definitions

variable {history : History} {first second time moment call : Nat} {key : String}

theorem needed (history : History) (time : Nat) : (history.group time).Needed := by
  induction time with
  | zero =>
    intro call request errand
    simp [group, create] at errand
  | succ time ih =>
    cases found : history.actions[time]? with
    | none =>
      rw [group_succ_of_none found]
      exact ih
    | some action =>
      obtain ⟨outcome, stepped, advances, next⟩ := history.advances found
      rw [next]
      exact ih.step (history.sound time) stepped advances

theorem Loads.missing {result : Except String Bytes} (loads : history.Loads moment key result) :
    (history.group moment).peek key = none := by
  obtain ⟨call, -, errand⟩ := loads
  exact history.needed moment call (.load key) errand

/-- At all times, the values that were loaded for a key are those that left and the one that is
stored. -/
theorem count_supplies (history : History) (time : Nat) (key : String) :
    Nat.count (history.Supplies · key) time =
      ((history.departures time).map Departure.key).count key +
        if ((history.group time).peek key).isSome then 1 else 0 := by
  rw [← present_holding]
  induction time with
  | zero => rfl
  | succ time ih =>
    have account := (history.handles time).count_add_present key
    rw [Nat.count_succ, ih, departures_succ, List.map_append, List.count_append, Nat.add_assoc,
      Nat.add_assoc, account]
    by_cases supplies : history.Supplies time key
    · obtain ⟨value, loads⟩ := supplies
      have absent : Storage.present (history.group time).holding.index key = 0 := by
        rw [present_holding, loads.missing]
        rfl
      rw [if_pos ⟨value, loads⟩, if_pos (history.supplies_iff.mp ⟨value, loads⟩), absent]
    · rw [if_neg supplies, if_neg (mt history.supplies_iff.mpr supplies), Nat.add_zero]

private theorem count_departures (bound : first ≤ second)
    (stays : ∀ moment, first ≤ moment → moment < second →
      key ∉ (history.departuresAt moment).map Departure.key) :
    ((history.departures second).map Departure.key).count key =
      ((history.departures first).map Departure.key).count key := by
  induction second, bound using Nat.le_induction with
  | base => rfl
  | succ second bound ih =>
    rw [departures_succ, List.map_append, List.count_append,
      List.count_eq_zero.mpr (stays second bound (Nat.lt_succ_self _)), Nat.add_zero]
    exact ih fun moment since before => stays moment since (Nat.lt_succ_of_lt before)

theorem evicted_between (before : first < second) (supplies : history.Supplies first key)
    (supplies' : history.Supplies second key) : ∃ moment, first ≤ moment ∧ moment < second ∧
      key ∈ (history.departuresAt moment).map Departure.key := by
  by_contra stays
  push Not at stays
  obtain ⟨value, loads⟩ := supplies
  obtain ⟨value', loads'⟩ := supplies'
  have early := history.count_supplies first key
  have late := history.count_supplies second key
  rw [loads.missing] at early
  rw [loads'.missing, count_departures before.le stays] at late
  have more : Nat.count (history.Supplies · key) first <
      Nat.count (history.Supplies · key) second := Nat.count_strict_mono ⟨value, loads⟩ before
  omega

private theorem holding_plan (history : History) (time : Nat) :
    (history.group time).holding.plan = history.plan := by
  induction time with
  | zero => rfl
  | succ time ih => rw [(history.handles time).holding_plan, ih]

theorem Loads.inserts {value : Bytes} (loads : history.Loads moment key (.ok value)) :
    (history.group moment).holding.index[key]? = none ∧
      (history.group moment).holding.insertNew key value =
        .ok (history.departuresAt moment, (history.group (moment + 1)).holding) := by
  have absent : (history.group moment).holding.index[key]? = none := by
    have missing := loads.missing
    rwa [(shown_holding _).2.2, Storage.peek, Option.map_eq_none_iff] at missing
  refine ⟨absent, ?_⟩
  have handles := history.handles moment
  rw [use?_eq_add_iff.mpr loads] at handles
  generalize history.departuresAt moment = departures at handles ⊢
  cases handles with
  | once action answer plan stepped =>
    obtain ⟨⟨left, after⟩, added, stepped⟩ := Checked.bind_eq_ok_iff.mp stepped
    cases stepped
    rw [Storage.add, absent] at added
    exact added

theorem kept_of_unsupplied (unsupplied : ∀ key, ¬ history.Supplies moment key) :
    history.departuresAt moment = [] ∧
      ∀ key, (history.group (moment + 1)).peek key = (history.group moment).peek key := by
  have handles := history.handles moment
  simp only [supplies_iff] at unsupplied
  generalize history.use? moment = use, history.departuresAt moment = departures at *
  simp only [(shown_holding _).2.2]
  cases handles with
  | nothing plan same => exact ⟨rfl, fun key => by rw [holding, holding, same, plan]⟩
  | once action answer plan stepped =>
    generalize (history.group (moment + 1)).holding = after at stepped ⊢
    cases Storage.performs_of_step stepped with
    | add key value => exact absurd rfl (unsupplied key)
    | get key value _ reads => cases reads <;> exact ⟨rfl, fun _ => rfl⟩
    | peek key => exact ⟨rfl, fun _ => rfl⟩

/-- A get that was cancelled is gone until another get has its number. -/
theorem gone_of_dropped (dropped : history.actions[first]? = some (.drop call))
    (after : first < time) (unused : ∀ moment key, first < moment → moment < time →
      history.actions[moment]? ≠ some (.call call key)) :
    (history.group time).arrivals[call]? = none ∧
      ∀ key, (history.group time).flight.key? call ≠ some key := by
  induction time, after using Nat.le_induction with
  | base =>
    obtain ⟨outcome, stepped, -, next⟩ := history.advances dropped
    cases stepped
    have gone : ((history.group first).flight.drop call).calls[call]? = none :=
      ((history.sound first).consistent.turn (.drop call)).gone_of_dropped
    rw [next]
    exact ⟨Std.ExtTreeMap.getElem?_erase_self, by simp [Group.drop, Flight.key?, gone]⟩
  | succ time after ih =>
    obtain ⟨unarrived, absent⟩ := ih fun moment key since before =>
      unused moment key since (Nat.lt_succ_of_lt before)
    cases found : history.actions[time]? with
    | none =>
      rw [group_succ_of_none found]
      exact ⟨unarrived, absent⟩
    | some action =>
      obtain ⟨outcome, -, advances, next⟩ := history.advances found
      rw [next]
      constructor
      · by_contra arrived
        obtain ⟨key, arrived⟩ := Option.ne_none_iff_exists'.mp arrived
        rcases advances.arrivals call key arrived with before | ⟨rfl, -⟩
        · simp [unarrived] at before
        · exact unused time key after (Nat.lt_succ_self _) found
      · intro key known
        rcases advances.calls call key known with before | ⟨-, before, -⟩
        · exact absent key before
        · simp [unarrived] at before

/-- No load of a group is redundant. -/
theorem thrift (history : History) : history.Thrift where
  runs := history.runs
  balanced := history.count_supplies
  evicted _ _ _ := evicted_between
  unbounded := by
    intro unbounded first second key supplies supplies'
    have leaves : ∀ moment, history.departuresAt moment = [] := fun moment =>
      (history.handles moment).departures_eq_nil (by rw [holding_plan, unbounded])
    rcases Nat.lt_trichotomy first second with before | same | before
    · obtain ⟨moment, -, -, left⟩ := evicted_between before supplies supplies'
      simp [leaves] at left
    · exact same
    · obtain ⟨moment, -, -, left⟩ := evicted_between before supplies' supplies
      simp [leaves] at left
  inserts _ _ _ loads := loads.inserts
  filled := by
    intro moment key value stored
    cases found : history.actions[moment]? with
    | none =>
      rw [group_succ_of_none found] at stored
      exact .inl stored
    | some action =>
      obtain ⟨outcome, -, advances, next⟩ := history.advances found
      rw [next] at stored
      refine (advances.stored key value stored).imp_right ?_
      rintro ⟨call, rfl, errand⟩
      exact ⟨call, found, errand⟩
  kept _ := kept_of_unsupplied
  cancelled := by
    intro dropped time call drops after unused answer
    obtain ⟨-, absent⟩ := gone_of_dropped drops after unused
    have lost : (history.group time).errands[call]? = none := by
      by_contra errand
      obtain ⟨request, errand⟩ := Option.ne_none_iff_exists'.mp errand
      have leads := (history.sound time).leads_of_errand errand
      exact absent request.key leads.key?_eq
    rcases answer with ⟨result, found⟩ | ⟨result, found⟩ <;>
      rw [group_succ found, advance] <;> simp only [step, lost]

end History

end PeerCache.Group
