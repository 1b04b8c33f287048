import PeerCache.Proofs.Storage.Queue
import PeerCache.Proofs.Storage.Succession

/-! # Victims

An addition makes no more entries leave than it has to. Those who leave are in front of the queue,
and they are as few as make the rest fit the budget, or all of them if that takes an empty storage.
A new entry is not in line while room is made for it, so that it leaves only if it exceeds the
budget alone, and an entry that gets another value stands in line where this touch puts it. All
others keep their places among each other.
-/

namespace PeerCache.Storage

open Eviction (Policy Residence Tracker)

/-- Of the entries in a line, the fewest in front are gone whose departure makes the rest fit. If
even nothing would not fit, all are gone. -/
structure Fewest (fits : List Departure → Prop) (line gone rest : List Departure) : Prop where
  split : line = gone ++ rest
  enough : fits rest ∨ rest = []
  fewest : ∀ front back, line = front ++ back → fits back → gone.length ≤ front.length

/-- The entries of all keys but one. -/
def besides (key : String) (line : List Departure) : List Departure :=
  line.filter fun departure => departure.key ≠ key

/-- What it means for an addition to a storage that it chooses its victims well. -/
structure Chooses (storage : Storage) (key : String) (value : Bytes) : Prop where
  /-- For a new key, as few entries leave as make room for it, and it follows them only if it
  exceeds the budget alone. All others stay in the order in which they were. -/
  inserted : 0 < storage.capacity → storage.peek key = none →
    ∃ line gone rest after kept, storage.Queue line ∧
      Fewest (fun rest => heft rest + weight key value ≤ storage.capacity) line gone rest ∧
      storage.add key value = .ok
        (gone ++ (if storage.capacity < weight key value then [⟨key, value⟩] else []), after) ∧
      after.Queue kept ∧ besides key kept = rest ∧
      (⟨key, value⟩ ∈ kept ↔ weight key value ≤ storage.capacity)
  /-- For a stored key, as few entries leave as make the storage fit with the new value. They leave
  in the order that the touch of the key leads to, which is the old one for all others. -/
  overwritten : 0 < storage.capacity → ∀ entry, storage.index[key]? = some entry →
    ∃ before tracker line gone rest after, storage.Queue before ∧
      storage.tracker.touch entry.slot = .ok tracker ∧
      Queue { storage with index := storage.index.insert key { entry with value }, tracker } line ∧
      besides key line = besides key before ∧
      Fewest (fun rest => heft rest ≤ storage.capacity) line gone rest ∧
      storage.add key value = .ok (gone, after) ∧ after.Queue rest
  /-- Without a budget nobody leaves. -/
  unlimited : storage.capacity = 0 →
    ∃ before after kept, storage.Queue before ∧ storage.add key value = .ok ([], after) ∧
      after.Queue kept ∧ besides key kept = besides key before ∧ ⟨key, value⟩ ∈ kept
  /-- A listener hears of everybody who leaves, in this order and once. -/
  heard : storage.plan.listens = true → ∀ departures after,
    storage.add key value = .ok (departures, after) →
    storage.plan.reported departures = departures ∧ (departures.map Departure.key).Nodup

/-! ## The fewest in front -/

namespace Fewest

variable {fits : List Departure → Prop} {line gone rest : List Departure} {head : Departure}

private theorem nil (enough : fits line ∨ line = []) : Fewest fits line [] line :=
  ⟨rfl, enough, fun _ _ _ _ => Nat.zero_le _⟩

private theorem cons (later : Fewest fits line gone rest) (unfit : ¬ fits (head :: line)) :
    Fewest fits (head :: line) (head :: gone) rest where
  split := by rw [later.split, List.cons_append]
  enough := later.enough
  fewest := by
    intro front back split fit
    cases front with
    | nil => exact absurd (split ▸ fit) unfit
    | cons first front =>
      obtain ⟨-, same⟩ := List.cons.inj split
      exact Nat.succ_le_succ (later.fewest front back same fit)

private theorem eq_of_fits (fewest : Fewest fits line gone rest) (fit : fits line) :
    gone = [] ∧ rest = line := by
  have none := List.eq_nil_of_length_eq_zero
    (Nat.le_zero.mp (fewest.fewest [] line rfl fit))
  exact ⟨none, by rw [fewest.split, none, List.nil_append]⟩

private theorem eq_of_unfit (fewest : Fewest fits [head] gone rest) (unfit : ¬ fits [head]) :
    gone = [head] ∧ rest = [] := by
  rcases List.append_eq_singleton_iff.mp fewest.split.symm with ⟨-, whole⟩ | alone
  · rw [whole] at fewest
    rcases fewest.enough with fit | nothing
    · exact absurd fit unfit
    · cases nothing
  · exact alone

end Fewest

variable {storage after : Storage} {residents : String → Option Residence} {now : Nat}
  {line kept : List Departure} {departures : List Departure} {key : String} {value : Bytes}

theorem Queue.counting (queue : storage.Queue line) (usage : Nat) :
    Queue { storage with usage } line :=
  ⟨queue.order, queue.nodup, queue.stored⟩

/-- Eviction takes the fewest in front, whatever the usage counts beyond the entries. -/
theorem Sheds.fewest (sheds : Sheds storage departures after)
    (follows : storage.Follows residents now) (ordered : storage.tracker.Ordered)
    (bounded : 0 < storage.capacity) {surplus : Nat}
    (usage : storage.usage = total storage.index + surplus) (queue : storage.Queue line) :
    ∃ rest, Fewest (fun rest => heft rest + surplus ≤ storage.capacity) line departures rest ∧
      after.Queue rest ∧ after.usage = total after.index + surplus := by
  induction sheds generalizing residents line with
  | ends storage met =>
    refine ⟨line, .nil ?_, queue, usage⟩
    rcases met with within | nothing
    · rw [overBudget_eq_false_iff, usage, ← queue.heft_eq] at within
      exact .inl (within bounded)
    · rcases follows.indexed.pop with ⟨-, vacant⟩ | ⟨_, _, _, popped, -⟩
      · refine .inr (List.eq_nil_iff_forall_not_mem.mpr fun departure member => ?_)
        have held := queue.mem_iff.mp member
        simp [peek, vacant] at held
      · cases nothing.symm.trans popped
  | @sheds storage after key entry tracker usage' later exceeds popped found subtracted _ ih =>
    obtain ⟨rest, rfl, queue'⟩ := queue.pop follows ordered popped found usage'
    have lighter := total_erase found
    rw [Checked.subtract_eq_ok_iff] at subtracted
    obtain ⟨last, fewest, queue'', usage''⟩ := ih (follows.pop popped usage')
      (ordered.pop follows.indexed.sound popped) bounded (by simp only; omega) queue'
    refine ⟨last, fewest.cons ?_, queue'', usage''⟩
    have surpassed : storage.capacity < storage.usage := by
      simpa [overBudget, bounded] using exceeds
    rw [queue.heft_eq, ← usage]
    exact Nat.not_le.mpr surpassed

/-! ## Additions -/

private theorem mem_besides {departure : Departure} :
    departure ∈ besides key line ↔ departure ∈ line ∧ departure.key ≠ key := by
  rw [besides, List.mem_filter, decide_eq_true_eq]

/-- The others keep their places when one key is touched or stored. -/
theorem Queue.besides_eq {other : Storage} {line' : List Departure}
    {residents' : String → Option Residence} {now' : Nat} (queue : storage.Queue line)
    (follows : storage.Follows residents now) (queue' : other.Queue line')
    (follows' : other.Follows residents' now') (policy : other.plan.policy = storage.plan.policy)
    (resident : ∀ behind, behind ≠ key → residents' behind = residents behind)
    (held : ∀ behind, behind ≠ key → other.peek behind = storage.peek behind) :
    besides key line' = besides key line :=
  queue.filter_eq follows queue' follows' policy (fun behind => behind ≠ key)
    (fun behind chosen => resident behind (of_decide_eq_true chosen))
    fun behind chosen => held behind (of_decide_eq_true chosen)

private theorem besides_of_absent (queue : storage.Queue line) (absent : storage.peek key = none) :
    besides key line = line := by
  rw [besides, List.filter_eq_self]
  rintro departure member
  rw [decide_eq_true_eq]
  rintro rfl
  rw [queue.mem_iff, absent] at member
  cases member

private theorem Queue.eq_singleton (queue : storage.Queue line)
    (held : storage.peek key = some value)
    (alone : besides key line = []) : line = [⟨key, value⟩] := by
  refine List.perm_singleton.mp ((List.perm_ext_iff_of_nodup (.of_map _ queue.nodup)
    (List.nodup_singleton _)).mpr ?_)
  rintro ⟨other, value'⟩
  rw [List.mem_singleton]
  constructor
  · intro member
    have same : other = key := by
      by_contra different
      have listed := mem_besides.mpr ⟨member, different⟩
      rw [alone] at listed
      cases listed
    subst same
    rw [queue.stored, held, Option.some.injEq] at member
    rw [member]
  · rintro same
    rw [same, queue.stored, held]

private theorem Stores.nodup (stores : Stores storage key value departures after) :
    (departures.map Departure.key).Nodup := by
  rw [List.nodup_iff_count_le_one]
  intro other
  have account := stores.count_add_present other
  have few : (if other = key then 1 else present storage.index other) ≤ 1 := by
    unfold present
    split_ifs <;> omega
  omega

/-- A key that is put behind all who stay after room was made for it. -/
theorem Follows.insert {middle : Storage} (follows : middle.Follows residents now)
    (queue : middle.Queue line) (absent : middle.index[key]? = none) {slot : Nat}
    {tracker : Tracker} (pushed : middle.tracker.push key = .ok (slot, tracker)) (value : Bytes) :
    ∃ line', Queue { middle with index := middle.index.insert key ⟨value, slot⟩, tracker } line' ∧
      besides key line' = line ∧ heft line' = heft line + weight key value := by
  have placed := follows.push absent pushed value
  obtain ⟨line', queue'⟩ := placed.indexed.exists_queue
  refine ⟨line', queue', ?_, ?_⟩
  · have same := queue.besides_eq follows queue' placed rfl
      (fun behind distinct => Function.update_of_ne distinct ..)
      fun behind distinct => by rw [peek, peek, getElem?_insert_of_ne distinct]
    rw [same, besides_of_absent queue (peek_eq_none_iff.mpr absent)]
  · rw [queue'.heft_eq, queue.heft_eq, total_insert, erase_of_absent absent, Nat.add_comm]

/-- Once there is room beside all others, or no other is left, a new entry stays if it fits the
budget alone, and otherwise it is the only one that goes. -/
theorem Queue.newcomer (queue : storage.Queue line) (held : storage.peek key = some value)
    (heavier : heft line = heft (besides key line) + weight key value) {capacity : Nat}
    (room : heft (besides key line) + weight key value ≤ capacity ∨ besides key line = [])
    {itself : List Departure}
    (fewest : Fewest (fun rest => heft rest ≤ capacity) line itself kept) :
    itself = (if capacity < weight key value then [⟨key, value⟩] else []) ∧
      besides key kept = besides key line ∧
      (⟨key, value⟩ ∈ kept ↔ weight key value ≤ capacity) := by
  by_cases light : weight key value ≤ capacity
  · have fit : heft line ≤ capacity := by
      rw [heavier]
      rcases room with fit | alone
      · exact fit
      · simpa [alone, heft] using light
    obtain ⟨rfl, rfl⟩ := fewest.eq_of_fits fit
    rw [if_neg (Nat.not_lt.mpr light)]
    exact ⟨rfl, rfl, iff_of_true ((queue.stored key value).mpr held) light⟩
  · have alone : besides key line = [] := room.resolve_left fun fit =>
      light ((Nat.le_add_left ..).trans fit)
    obtain rfl := queue.eq_singleton held alone
    obtain ⟨rfl, rfl⟩ := fewest.eq_of_unfit (by simpa [heft] using light)
    rw [if_pos (Nat.not_le.mp light)]
    exact ⟨rfl, alone.symm, iff_of_false List.not_mem_nil light⟩

theorem Stores.chooses_inserted (stores : Stores storage key value departures after)
    (follows : storage.Follows residents now) (ordered : storage.tracker.Ordered)
    (usage : storage.usage = total storage.index) (bounded : 0 < storage.capacity)
    (absent : storage.peek key = none) :
    ∃ line gone rest kept, storage.Queue line ∧
      Fewest (fun rest => heft rest + weight key value ≤ storage.capacity) line gone rest ∧
      departures = gone ++ (if storage.capacity < weight key value then [⟨key, value⟩] else []) ∧
      after.Queue kept ∧ besides key kept = rest ∧
      (⟨key, value⟩ ∈ kept ↔ weight key value ≤ storage.capacity) := by
  cases stores with
  | overwrites entry found =>
    rw [peek_of_found found] at absent
    cases absent
  | inserts absent' older middle shedsOlder slot tracker pushed itself _ shedsItself =>
    -- room is made while the new entry is counted but not in line
    obtain ⟨line, queue⟩ := follows.indexed.exists_queue
    have counted := follows.counting (storage.usage + weight key value)
    obtain ⟨rest, fewest, queueMiddle, usageMiddle⟩ := shedsOlder.fewest counted ordered bounded
      (show storage.usage + _ = _ by rw [usage]) (queue.counting _)
    have roomy := shedsOlder.follows counted
    have missing := shedsOlder.absent absent'
    have capacity : middle.capacity = storage.capacity :=
      congrArg Plan.capacity shedsOlder.plan_eq
    -- then it is put in line, and the line is looked at again
    obtain ⟨line', queue', rfl, heavier⟩ := roomy.insert queueMiddle missing pushed value
    have ordered' := (shedsOlder.ordered counted ordered).push roomy.indexed.sound pushed
    have usage' : middle.usage = total (middle.index.insert key ⟨value, slot⟩) + 0 := by
      rw [usageMiddle, ← queueMiddle.heft_eq, ← heavier]
      exact queue'.heft_eq
    obtain ⟨kept, fewest', queueAfter, -⟩ := shedsItself.fewest (roomy.push missing pushed value)
      ordered' (capacity.symm ▸ bounded) usage' queue'
    obtain ⟨rfl, others, stays⟩ := queue'.newcomer (by simp [peek]) heavier fewest.enough
      (show Fewest (fun rest => heft rest ≤ storage.capacity) line' itself kept by
        rw [← capacity]
        exact fewest')
    exact ⟨line, older, _, kept, queue, fewest, rfl, queueAfter, others, stays⟩

theorem Stores.chooses_overwritten (stores : Stores storage key value departures after)
    (follows : storage.Follows residents now) (ordered : storage.tracker.Ordered)
    (usage : storage.usage = total storage.index) (bounded : 0 < storage.capacity) {entry : Entry}
    (found : storage.index[key]? = some entry) :
    ∃ before tracker line rest, storage.Queue before ∧
      storage.tracker.touch entry.slot = .ok tracker ∧
      Queue { storage with index := storage.index.insert key { entry with value }, tracker } line ∧
      besides key line = besides key before ∧
      Fewest (fun rest => heft rest ≤ storage.capacity) line departures rest ∧
      after.Queue rest := by
  cases stores with
  | inserts absent => cases found.symm.trans absent
  | overwrites entry' found' subtrahend subtracted tracker touched _ _ sheds =>
    cases found.symm.trans found'
    obtain ⟨before, queue⟩ := follows.indexed.exists_queue
    obtain ⟨residence, resides, -, overwritten⟩ :=
      follows.touch found touched value (subtrahend + value.length)
    obtain ⟨line, queue'⟩ := overwritten.indexed.exists_queue
    have others := queue.besides_eq follows queue' overwritten rfl
      (fun behind distinct => Function.update_of_ne distinct ..)
      fun behind distinct => by rw [peek, peek, getElem?_insert_of_ne distinct]
    have lighter := total_erase found
    have heavier := total_insert storage.index key { entry with value }
    rw [Checked.subtract_eq_ok_iff] at subtracted
    obtain ⟨rest, fewest, queueAfter, -⟩ := sheds.fewest overwritten
      (follows.ordered_touch ordered found touched) bounded
      (show subtrahend + value.length = total _ + 0 by
        simp only [weight] at lighter heavier ⊢
        omega) queue'
    exact ⟨before, tracker, line, rest, queue, touched, queue'.counting storage.usage, others,
      fewest, queueAfter⟩

/-- Every addition to a storage in order chooses its victims well. -/
theorem Sound.chooses (sound : storage.Sound) (follows : storage.Follows residents now)
    (ordered : storage.tracker.Ordered) (key : String) (value : Bytes) :
    storage.Chooses key value := by
  obtain ⟨departures, after, added, -, adds⟩ := add_ok sound key value
  have stores := stores_of_add added
  refine ⟨fun bounded absent => ?_, fun bounded entry found => ?_, fun unbounded => ?_, ?_⟩
  · obtain ⟨line, gone, rest, kept, queue, fewest, rfl, queue', others, stays⟩ :=
      stores.chooses_inserted follows ordered sound.usage bounded absent
    exact ⟨line, gone, rest, after, kept, queue, fewest, added, queue', others, stays⟩
  · obtain ⟨before, tracker, line, rest, queue, touched, queue', others, fewest, queueAfter⟩ :=
      stores.chooses_overwritten follows ordered sound.usage bounded found
    exact ⟨before, tracker, line, departures, rest, after, queue, touched, queue', others, fewest,
      added, queueAfter⟩
  · obtain rfl : departures = [] :=
      (Performs.add key value departures after stores).departures_eq_nil unbounded
    have follows' := stores.follows follows
    obtain ⟨before, queue⟩ := follows.indexed.exists_queue
    obtain ⟨kept, queue'⟩ := follows'.indexed.exists_queue
    refine ⟨before, after, kept, queue, added, queue', ?_, ?_⟩
    · refine queue.besides_eq follows queue' follows' (by rw [stores.plan_eq])
        (fun behind distinct => ?_) fun behind distinct => ?_
      · simp [renewed, Ne.symm distinct]
      · simp [adds.peek, distinct]
    · rw [queue'.stored, adds.peek]
      simp
  · intro listens departures after added
    exact ⟨if_pos listens, (stores_of_add added).nodup⟩

namespace History

private theorem ordered (history : History) (time : Nat) :
    (history.storage time).tracker.Ordered := by
  induction time with
  | zero => exact Tracker.ordered_empty history.plan.policy
  | succ time ih =>
    cases found : history.actions[time]? with
    | none => rwa [storage_succ_of_none found]
    | some action =>
      obtain ⟨answer, stepped, -⟩ := history.advances found
      exact (performs_of_step stepped).ordered (history.follows time) ih

end History

/-- Whatever was added and read, the next addition chooses its victims well. -/
theorem run_chooses (plan : Plan) (actions : List Action) :
    ∃ storage answers, plan.build.run actions = .ok (storage, answers) ∧ storage.plan = plan ∧
      ∀ key value, storage.Chooses key value := by
  let history : History := ⟨plan, actions⟩
  obtain ⟨answers, ran⟩ := history.run_ok actions.length
  rw [List.take_length] at ran
  exact ⟨_, answers, ran, history.plan_eq _, (history.sound _).chooses (history.follows _)
    (history.ordered _)⟩

/-- A new key is touched less often than the others, but it is not in line while room is made. -/
example : (Plan.build { policy := .lfu, capacity := 9 }).run
      [.add "Sam" [1], .get "Sam", .add "Tom" [2], .get "Tom", .add "Jack" [3]] >>=
        (fun (storage, answers) => do return (← storage.order, answers.getLast?)) =
    .ok (["Jack", "Tom"], some (.departed [⟨"Sam", [1]⟩])) := by
  cbv

end PeerCache.Storage
