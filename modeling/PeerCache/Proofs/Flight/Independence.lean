import PeerCache.Proofs.Flight.Roster
import PeerCache.Proofs.Flight.Trajectory

/-! # Independence of calls

Calls on different keys do not notice each other, and nobody notices a call that never computes: if
its actions are deleted from a run, all other actions answer as before and bring about the same
events. A run and what is left of it go through rosters that differ in the hidden calls only. That
is kept by an action which stays, since no hidden call leads the key of its call, and by a deleted
one, since it changes nothing but hidden calls.
-/

namespace PeerCache

variable {α : Type}

open Classical in
/-- The items of a list that do not stand at deleted positions. -/
noncomputable def without {β : Type} (deleted : Nat → Prop) (items : List β) : List β :=
  (items.zipIdx.filter fun item => ¬ deleted item.2).map Prod.fst

section Without

variable {β : Type} {deleted : Nat → Prop} {items : List β} {item : β}

private theorem without_concat_of_deleted (gone : deleted items.length) :
    without deleted (items ++ [item]) = without deleted items := by
  simp [without, List.zipIdx_append, gone]

private theorem without_concat_of_kept (kept : ¬ deleted items.length) :
    without deleted (items ++ [item]) = without deleted items ++ [item] := by
  simp [without, List.zipIdx_append, kept]

end Without

/-! ## Hiding calls -/

namespace Roster

open Classical in
/-- A roster without some of its calls. -/
noncomputable def hide (roster : Roster α) (hidden : Nat → Prop) : Roster α :=
  fun call => if hidden call then none else roster call

variable {roster : Roster α} {hidden : Nat → Prop} {call other : Nat} {key : String}
  {action : Flight.Action α}

theorem hide_of_shown (shown : ¬ hidden call) : roster.hide hidden call = roster call :=
  if_neg shown

theorem hide_of_hidden (covered : hidden call) : roster.hide hidden call = none :=
  if_pos covered

private theorem hide_of_missing (missing : roster call = none) :
    roster.hide hidden call = none := by
  rw [hide, missing, ite_self]

private theorem hide_congr {roster' : Roster α} {hidden' : Nat → Prop}
    (alike : hidden' call ↔ hidden call) (same : roster' call = roster call) :
    roster'.hide hidden' call = roster.hide hidden call := by
  by_cases covered : hidden call
  · rw [hide_of_hidden covered, hide_of_hidden (alike.mpr covered)]
  · rw [hide_of_shown covered, hide_of_shown (alike.not.mpr covered), same]

private theorem hide_update (shown : ¬ hidden call) (entry : Option (String × Standing α)) :
    hide (Function.update roster call entry) hidden =
      Function.update (roster.hide hidden) call entry := by
  funext other
  by_cases same : other = call
  · subst same
    simp [hide, shown]
  · simp [hide, same]

private theorem hide_retire (mail : Mail α) :
    (roster.retire call key mail).hide hidden = (roster.hide hidden).retire call key mail := by
  funext other
  by_cases same : other = call
  · simp [hide, retire, same]
  · by_cases covered : hidden other <;> simp [hide, retire, same, covered]

private theorem led_hide
    (shown : ∀ leader, roster leader = some (key, .leading) → ¬ hidden leader) :
    (roster.hide hidden).Led key ↔ roster.Led key := by
  constructor
  · rintro ⟨leader, leads⟩
    by_cases covered : hidden leader
    · rw [hide_of_hidden covered] at leads
      cases leads
    · exact ⟨leader, by rwa [hide_of_shown covered] at leads⟩
  · rintro ⟨leader, leads⟩
    exact ⟨leader, by rwa [hide_of_shown (shown leader leads)]⟩

private theorem compute_hide (shown : ¬ hidden call) (key : String) (events : List (Flight.Event α))
    (ready : Option α) :
    (roster.hide hidden).compute call key events ready =
      ((roster.compute call key events ready).1.hide hidden,
        (roster.compute call key events ready).2) := by
  cases ready with
  | none => simp only [compute, hide_update shown]
  | some value => simp only [compute, hide_retire]

private theorem join_hide (shown : ¬ hidden call)
    (leaders : ∀ leader, roster leader = some (key, .leading) → ¬ hidden leader)
    (ready : Option α) :
    (roster.hide hidden).join call key ready =
      ((roster.join call key ready).1.hide hidden, (roster.join call key ready).2) := by
  unfold join
  rw [led_hide leaders]
  split
  · simp only [hide_update shown]
  · exact compute_hide shown ..

/-- An action does not notice hidden calls, unless one of them leads the key of its call. -/
theorem step_hide (shown : ¬ hidden action.subject)
    (leaders : ∀ key standing leader, roster action.subject = some (key, standing) →
      roster leader = some (key, .leading) → ¬ hidden leader) :
    (roster.hide hidden).step action =
      ((roster.step action).1.hide hidden, (roster.step action).2) := by
  cases action with
  | call call key =>
    rw [Flight.Action.subject_call] at shown
    simp only [step, hide_of_shown shown]
    cases roster call with
    | none => simp only [hide_update shown]
    | some entry => rfl
  | poll call ready =>
    rw [Flight.Action.subject_poll] at shown leaders
    simp only [step, hide_of_shown shown]
    rcases found : roster call with _ | ⟨key, _ | (_ | value | _) | _⟩
    · rfl
    · exact join_hide shown (fun leader => leaders key _ leader found) ready
    · rfl
    · simp only [hide_update shown]
    · exact join_hide shown (fun leader => leaders key _ leader found) ready
    · exact compute_hide shown ..
  | drop call =>
    rw [Flight.Action.subject_drop] at shown
    simp only [step, hide_of_shown shown]
    rcases roster call with _ | ⟨key, _ | mail | _⟩
    · rfl
    · simp only [hide_update shown]
    · simp only [hide_update shown]
    · simp only [hide_retire]

private theorem retire_of_ne (other_ne : call ≠ other) (mail : Mail α) :
    roster.retire call key mail other = roster other ∨
      roster other = some (key, .waiting .awaited) := by
  rw [retire, Function.update_of_ne (Ne.symm other_ne)]
  rcases roster other with _ | ⟨key', _ | (_ | value | _) | _⟩
  case some.waiting.awaited =>
    by_cases same : key' = key
    · exact .inr (by rw [same])
    · exact .inl (by simp [served, same])
  all_goals exact .inl rfl

private theorem compute_of_ne (other_ne : call ≠ other) (key : String)
    (events : List (Flight.Event α)) (ready : Option α) :
    (roster.compute call key events ready).1 other = roster other ∨
      roster other = some (key, .waiting .awaited) := by
  cases ready with
  | none => exact .inl (Function.update_of_ne (Ne.symm other_ne) ..)
  | some value => exact retire_of_ne other_ne _

private theorem join_of_ne (other_ne : call ≠ other) (key : String) (ready : Option α) :
    (roster.join call key ready).1 other = roster other ∨
      roster other = some (key, .waiting .awaited) ∧
        .started call ∈ (roster.join call key ready).2.2 := by
  unfold join
  split
  · exact .inl (Function.update_of_ne (Ne.symm other_ne) ..)
  · refine (compute_of_ne other_ne ..).imp_right fun waits => ⟨waits, ?_⟩
    cases ready <;> simp [compute]

/-- An action changes no call but its own, and those that wait for the computation of its own. -/
theorem step_of_ne (other_ne : action.subject ≠ other) :
    (roster.step action).1 other = roster other ∨
      ∃ key standing, roster action.subject = some (key, standing) ∧
        roster other = some (key, .waiting .awaited) ∧
        (standing = .leading ∨ .started action.subject ∈ (roster.step action).2.2) := by
  cases action with
  | call call key =>
    rw [Flight.Action.subject_call] at other_ne
    simp only [step]
    cases roster call with
    | none => exact .inl (Function.update_of_ne (Ne.symm other_ne) ..)
    | some entry => exact .inl rfl
  | poll call ready =>
    rw [Flight.Action.subject_poll] at other_ne ⊢
    simp only [step]
    rcases found : roster call with _ | ⟨key, _ | (_ | value | _) | _⟩
    case none | some.waiting.awaited => exact .inl rfl
    case some.waiting.delivered => exact .inl (Function.update_of_ne (Ne.symm other_ne) ..)
    case some.fresh | some.waiting.closed =>
      exact (join_of_ne other_ne key ready).imp_right fun both =>
        ⟨key, _, rfl, both.1, .inr both.2⟩
    case some.leading =>
      exact (compute_of_ne other_ne key [] ready).imp_right fun waits =>
        ⟨key, _, rfl, waits, .inl rfl⟩
  | drop call =>
    rw [Flight.Action.subject_drop] at other_ne ⊢
    simp only [step]
    rcases found : roster call with _ | ⟨key, _ | mail | _⟩
    case none => exact .inl rfl
    case some.fresh | some.waiting => exact .inl (Function.update_of_ne (Ne.symm other_ne) ..)
    case some.leading =>
      exact (retire_of_ne other_ne _).imp_right fun waits => ⟨key, _, rfl, waits, .inl rfl⟩

end Roster

/-! ## Deleting actions -/

namespace Flight

/-- If the actions at some times are deleted from a run, the others answer as before and bring about
the same events. -/
def Unaffected (actions : List (Action α)) (deleted : Nat → Prop) : Prop :=
  (empty.run (without deleted actions)).2 = without deleted (empty.run actions).2

/-- Calls that can be hidden at each time while the actions at some times are deleted. -/
structure Screens (actions : List (Action α)) (deleted : Nat → Prop) (hidden : Nat → Nat → Prop) :
    Prop where
  /-- The actions that stay are on calls that are not hidden. -/
  shown : ∀ time action, actions[time]? = some action → ¬ deleted time →
    ¬ hidden time action.subject
  /-- No hidden call leads the key of such a call. -/
  leaders : ∀ time action key leader, actions[time]? = some action → ¬ deleted time →
    (trajectory actions time).key? action.subject = some key →
    (trajectory actions time).Leads leader key → ¬ hidden time leader
  /-- An action that stays neither hides a call nor reveals one. -/
  steady : ∀ time action call, actions[time]? = some action → ¬ deleted time →
    (trajectory actions (time + 1)).calls[call]? ≠ none →
    (hidden (time + 1) call ↔ hidden time call)
  /-- A deleted action changes nothing but hidden calls. -/
  unseen : ∀ time action, actions[time]? = some action → deleted time →
    (trajectory actions (time + 1)).roster.hide (hidden (time + 1)) =
      (trajectory actions time).roster.hide (hidden time)

section Deleting

variable {actions : List (Action α)} {deleted : Nat → Prop} {hidden : Nat → Nat → Prop}
  {time created call : Nat} {key : String}

private theorem length_run (flight : Flight α) (actions : List (Action α)) :
    (flight.run actions).2.length = actions.length := by
  induction actions generalizing flight with
  | nil => rfl
  | cons action rest ih => simp [run, ih]

private theorem run_concat (flight : Flight α) (actions : List (Action α)) (action : Action α) :
    flight.run (actions ++ [action]) =
      (((flight.run actions).1.step action).flight, (flight.run actions).2 ++
        [(((flight.run actions).1.step action).answer,
          ((flight.run actions).1.step action).events)]) := by
  rw [run_append]
  rfl

private theorem consistent_run (actions : List (Action α)) : (empty.run actions).1.Consistent :=
  run_eq_trajectory actions ▸ trajectory_consistent actions actions.length

theorem Screens.hide_succ (screens : Screens actions deleted hidden) {action : Action α}
    (found : actions[time]? = some action) (kept : ¬ deleted time) :
    (trajectory actions (time + 1)).roster.hide (hidden time) =
      (trajectory actions (time + 1)).roster.hide (hidden (time + 1)) := by
  funext call
  by_cases missing : (trajectory actions (time + 1)).calls[call]? = none
  · rw [Roster.hide_of_missing (roster_of_missing missing),
      Roster.hide_of_missing (roster_of_missing missing)]
  · exact Roster.hide_congr (screens.steady time action call found kept missing).symm rfl

/-- At every time, the run without the deleted actions is at the roster of the other one without the
hidden calls. -/
theorem Screens.run_take (screens : Screens actions deleted hidden)
    (within : time ≤ actions.length) :
    (empty.run (without deleted (actions.take time))).1.roster =
        (trajectory actions time).roster.hide (hidden time) ∧
      Unaffected (actions.take time) deleted := by
  induction time with
  | zero =>
    refine ⟨?_, rfl⟩
    funext call
    simp [without, run, trajectory_zero, roster, Roster.hide, empty]
  | succ time ih =>
    obtain ⟨same, unaffected⟩ := ih (Nat.le_of_succ_le within)
    obtain ⟨action, found⟩ : ∃ action, actions[time]? = some action :=
      ⟨_, List.getElem?_eq_getElem within⟩
    have reached : (actions.take time).length = time := List.length_take_of_le (by omega)
    have reached' : (empty.run (actions.take time)).2.length = time :=
      (length_run ..).trans reached
    unfold Unaffected at unaffected ⊢
    rw [List.take_add_one, found, Option.toList_some]
    by_cases gone : deleted time
    · rw [without_concat_of_deleted (reached.symm ▸ gone), run_concat,
        without_concat_of_deleted (reached'.symm ▸ gone)]
      exact ⟨same.trans (screens.unseen time action found gone).symm, unaffected⟩
    · have full := (trajectory_consistent actions time).step_roster action
      have fewer := (consistent_run (without deleted (actions.take time))).step_roster action
      have shown := screens.shown time action found gone
      rw [same, Roster.step_hide shown, full] at fewer
      · obtain ⟨roster_eq, answer_eq⟩ := Prod.mk.inj fewer
        rw [without_concat_of_kept (reached.symm ▸ gone), run_concat, run_concat,
          without_concat_of_kept (reached'.symm ▸ gone), ← unaffected]
        refine ⟨roster_eq.symm.trans ?_, ?_⟩
        · rw [← trajectory_succ found]
          exact screens.hide_succ found gone
        · rw [← answer_eq]
          rfl
      · intro key standing leader stands leads
        refine screens.leaders time action key leader found gone ?_ (leads_iff_roster.mpr leads)
        rw [← roster_map_fst, stands, Option.map_some]

theorem Screens.unaffected (screens : Screens actions deleted hidden) :
    Unaffected actions deleted := by
  have run := (screens.run_take (Nat.le_refl actions.length)).2
  rwa [List.take_length] at run

/-! ## The actions on a call -/

/-- The action at a time is one on the call of this number that was created at some time for a key,
or creates that call. -/
structure StepsOn (actions : List (Action α)) (created call : Nat) (key : String) (time : Nat) :
    Prop where
  creates : Creates actions created call key
  acts : ∃ action, actions[time]? = some action ∧ action.subject = call
  alive : time = created ∨ Lives actions created call key time

/-- The action at a time is on some call on a key. -/
def StepsOnKey (actions : List (Action α)) (key : String) (time : Nat) : Prop :=
  ∃ created call, StepsOn actions created call key time

private theorem stepsOnKey_iff {action : Action α} (found : actions[time]? = some action) :
    StepsOnKey actions key time ↔ (trajectory actions time).key? action.subject = some key ∨
      Creates actions time action.subject key := by
  constructor
  · rintro ⟨created, call, creates, ⟨action', found', rfl⟩, rfl | lives⟩
    all_goals obtain rfl : action = action' := by simpa using found.symm.trans found'
    · exact .inr creates
    · exact .inl lives.key?_eq
  · rintro (known | creates)
    · have live : action.subject ∈ (trajectory actions time).calls := by
        rw [Std.ExtTreeMap.mem_iff_isSome_getElem?, ← Option.isSome_map]
        exact Option.isSome_of_eq_some known
      obtain ⟨created, key', lives⟩ := mem_calls_iff.mp live
      obtain rfl : key' = key := by simpa using lives.key?_eq.symm.trans known
      exact ⟨created, _, lives.creates, ⟨action, found, rfl⟩, .inr lives⟩
    · exact ⟨time, _, creates, ⟨action, found, rfl⟩, .inl rfl⟩

namespace StepsOn

/-- A call that is acted on was alive before, unless the action creates it. -/
theorem missing_or_lives (steps : StepsOn actions created call key time) :
    (trajectory actions time).calls[call]? = none ∨ Lives actions created call key time := by
  obtain ⟨creates, -, rfl | lives⟩ := steps
  · exact .inl (getElem?_eq_none creates.2)
  · exact .inr lives

theorem lives_succ (steps : StepsOn actions created call key time)
    (live : (trajectory actions (time + 1)).calls[call]? ≠ none) :
    Lives actions created call key (time + 1) := by
  rw [← Option.isSome_iff_ne_none, ← Std.ExtTreeMap.mem_iff_isSome_getElem?] at live
  obtain ⟨creates, -, rfl | lives⟩ := steps
  · refine ⟨creates, Nat.lt_succ_self time, fun moment since bound => ?_⟩
    obtain rfl : moment = time + 1 := by omega
    exact live
  · exact lives.extend live

/-- A call is not seen when its life is hidden. -/
theorem hide_eq_none (steps : StepsOn actions created call key time) {hidden : Nat → Prop}
    (covers : Lives actions created call key time → hidden call) :
    (trajectory actions time).roster.hide hidden call = none := by
  rcases steps.missing_or_lives with missing | lives
  · exact Roster.hide_of_missing (roster_of_missing missing)
  · exact Roster.hide_of_hidden (covers lives)

theorem hide_succ_eq_none (steps : StepsOn actions created call key time) {hidden : Nat → Prop}
    (covers : Lives actions created call key (time + 1) → hidden call) :
    (trajectory actions (time + 1)).roster.hide hidden call = none := by
  by_cases missing : (trajectory actions (time + 1)).calls[call]? = none
  · exact Roster.hide_of_missing (roster_of_missing missing)
  · exact Roster.hide_of_hidden (covers (steps.lives_succ missing))

end StepsOn

/-- What an action changes about other calls has to do with a computation of its own call. -/
theorem roster_succ_of_ne {action : Action α} {other : Nat} (found : actions[time]? = some action)
    (other_ne : action.subject ≠ other) :
    (trajectory actions (time + 1)).roster other = (trajectory actions time).roster other ∨
      ∃ key, (trajectory actions time).key? action.subject = some key ∧
        (trajectory actions time).key? other = some key ∧
        ((trajectory actions time).Leads action.subject key ∨
          Starts actions time action.subject) := by
  have same := (trajectory_consistent actions time).step_roster action
  have frame := (trajectory actions time).roster.step_of_ne other_ne
  rw [same] at frame
  rw [trajectory_succ found]
  refine frame.imp_right fun ⟨key, standing, stands, waits, computes⟩ => ⟨key, ?_, ?_, ?_⟩
  · rw [← roster_map_fst, stands, Option.map_some]
  · rw [← roster_map_fst, waits, Option.map_some]
  · rw [leads_iff_roster, stands, starts_iff found]
    exact computes.imp_left fun leading => by rw [leading]

theorem key?_succ_of_ne {action : Action α} {other : Nat} (found : actions[time]? = some action)
    (other_ne : action.subject ≠ other) :
    (trajectory actions (time + 1)).key? other = (trajectory actions time).key? other := by
  have turn := (trajectory_consistent actions time).turn action
  rw [trajectory_succ found, key?, key?, turn.getElem?_of_ne other_ne]

namespace StepsOn

/-- What an action on a call changes about others has to do with its computation of their key. -/
theorem roster_succ_of_ne (steps : StepsOn actions created call key time) {other : Nat}
    (other_ne : call ≠ other) :
    (trajectory actions (time + 1)).roster other = (trajectory actions time).roster other ∨
      Lives actions created call key time ∧ (trajectory actions time).key? other = some key ∧
        ((trajectory actions time).Leads call key ∨ Starts actions time call) := by
  obtain ⟨action, found, rfl⟩ := steps.acts
  refine (Flight.roster_succ_of_ne found other_ne).imp_right ?_
  rintro ⟨key', known, known', computes⟩
  rcases steps.missing_or_lives with missing | lives
  · simp [key?, missing] at known
  · obtain rfl := Option.some.inj (lives.key?_eq.symm.trans known)
    exact ⟨lives, known', computes⟩

/-- An action on a call is not seen if the call is hidden and nothing is seen of it elsewhere. -/
theorem hide_succ (steps : StepsOn actions created call key time) (hidden : Nat → Nat → Prop)
    (covers : ∀ time, Lives actions created call key time → hidden time call)
    (elsewhere : ∀ other, call ≠ other →
      (trajectory actions (time + 1)).roster.hide (hidden (time + 1)) other =
        (trajectory actions time).roster.hide (hidden time) other) :
    (trajectory actions (time + 1)).roster.hide (hidden (time + 1)) =
      (trajectory actions time).roster.hide (hidden time) := by
  funext other
  by_cases own : call = other
  · subst own
    rw [steps.hide_eq_none (covers time), steps.hide_succ_eq_none (covers (time + 1))]
  · exact elsewhere other own

end StepsOn

/-- A call is on another key than the given one. -/
def OnOther (actions : List (Action α)) (key : String) (time call : Nat) : Prop :=
  ∃ other ≠ key, (trajectory actions time).key? call = some other

/-- The calls on other keys can be hidden. -/
theorem screens_otherKeys (actions : List (Action α)) (key : String) :
    Screens actions (fun time => ∃ other ≠ key, StepsOnKey actions other time)
      (OnOther actions key) where
  shown := by
    rintro time action found kept ⟨other, different, known⟩
    exact kept ⟨other, different, (stepsOnKey_iff found).mpr (.inl known)⟩
  leaders := by
    rintro time action key' leader found kept known leads ⟨other, different, known'⟩
    obtain rfl : key' = other := by simpa using leads.key?_eq.symm.trans known'
    exact kept ⟨key', different, (stepsOnKey_iff found).mpr (.inl known)⟩
  steady := by
    intro time action call found kept live
    have turn := (trajectory_consistent actions time).turn action
    rw [trajectory_succ found] at live
    simp only [OnOther, trajectory_succ found]
    cases known : (trajectory actions time).key? call with
    | some other =>
      rw [(turn.key?_stays known).resolve_left live]
    | none =>
      have missing : (trajectory actions time).calls[call]? = none :=
        Option.map_eq_none_iff.mp known
      obtain ⟨other, rfl, fresh⟩ := turn.created missing live
      simp only [key?, fresh, Option.map_some, Option.some.injEq, reduceCtorEq, and_false,
        exists_false, iff_false]
      rintro ⟨_, different, rfl⟩
      refine kept ⟨other, different, (stepsOnKey_iff found).mpr (.inr ⟨found, ?_⟩)⟩
      simpa using missing
  unseen := by
    rintro time action found ⟨other, different, created, subject, steps⟩
    refine steps.hide_succ _ (fun time lives => ⟨other, different, lives.key?_eq⟩) ?_
    intro call own
    have key_eq :
        (trajectory actions (time + 1)).key? call = (trajectory actions time).key? call := by
      obtain ⟨action', found', rfl⟩ := steps.acts
      exact key?_succ_of_ne found' own
    rcases steps.roster_succ_of_ne own with same | ⟨-, known, -⟩
    · exact Roster.hide_congr (by rw [OnOther, OnOther, key_eq]) same
    · have covered : OnOther actions key time call := ⟨other, different, known⟩
      have covered' : OnOther actions key (time + 1) call := ⟨other, different, key_eq.trans known⟩
      exact (Roster.hide_of_hidden covered').trans (Roster.hide_of_hidden covered).symm

/-- A call that never computes can be hidden. -/
theorem screens_follower (follows : ∀ time, Lives actions created call key time →
    ¬ Starts actions time call) :
    Screens actions (StepsOn actions created call key)
      (fun time other => other = call ∧ Lives actions created call key time) := by
  have never : ∀ {time key'}, Lives actions created call key time →
      ¬ (trajectory actions time).Leads call key' := by
    intro time key' lives leads
    obtain ⟨started, underway⟩ := leads_iff_underway.mp leads
    have since := lives.started_after underway
    exact follows started (lives.restrict since underway.earlier.le) underway.starts
  refine ⟨?_, ?_, ?_, ?_⟩
  · rintro time action found kept ⟨same, lives⟩
    exact kept ⟨lives.creates, ⟨action, found, same⟩, .inr lives⟩
  · rintro time action key' leader found kept known leads ⟨rfl, lives⟩
    exact never lives leads
  · rintro time action other found kept live
    refine and_congr_right fun same => ⟨fun lives => ?_, fun lives => ?_⟩
    · rcases Nat.lt_succ_iff_lt_or_eq.mp lives.earlier with earlier | rfl
      · exact lives.restrict earlier (Nat.le_succ time)
      · exact absurd ⟨lives.creates, ⟨_, lives.creates.1, rfl⟩, .inl rfl⟩ kept
    · rw [← Option.isSome_iff_ne_none, ← Std.ExtTreeMap.mem_iff_isSome_getElem?, same] at live
      exact lives.extend live
  · rintro time action found steps
    refine steps.hide_succ
      (fun time other => other = call ∧ Lives actions created call key time)
      (fun _ lives => ⟨rfl, lives⟩) fun other own => ?_
    have exposed : ∀ time, ¬ (other = call ∧ Lives actions created call key time) :=
      fun time covered => own covered.1.symm
    refine Roster.hide_congr (iff_of_false (exposed _) (exposed _)) ?_
    refine (steps.roster_succ_of_ne own).resolve_right ?_
    rintro ⟨lives, -, computes⟩
    exact computes.elim (never lives) (follows time lives)

/-- What it means for a run that calls are independent of each other. -/
structure Independent (actions : List (Action α)) : Prop where
  /-- The calls on a key do not notice the calls on other keys. -/
  keys : ∀ key, Unaffected actions fun time => ∃ other ≠ key, StepsOnKey actions other time
  /-- No call notices a call whose own computation never starts, whatever becomes of it. -/
  followers : ∀ created call key,
    (∀ time, Lives actions created call key time → ¬ Starts actions time call) →
    Unaffected actions (StepsOn actions created call key)

/-- In every run, calls on different keys are independent, and so is everybody from those who only
wait. -/
theorem run_independent (actions : List (Action α)) : Independent actions where
  keys key := (screens_otherKeys actions key).unaffected
  followers _ _ _ follows := (screens_follower follows).unaffected

end Deleting

end Flight

end PeerCache
