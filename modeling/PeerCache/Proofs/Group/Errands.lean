import PeerCache.Proofs.Group.Polls

/-! # What computations need

A computation that has started needs one thing at a time. What it needs changes with the answer to
what it asked for and with the end of its get, and no other action touches it. It asks for something
new at two points only: when it starts, in a poll that does not find the key, and when a peer fails
it.
-/

namespace PeerCache.Group

/-- What a computation needs after an action on its get, unless it is over then. -/
def Request.remaining : Request → Action → Option Request
  | .fetch _ _ _, .fetched _ (.ok _) => none
  | .fetch _ _ key, .fetched _ (.error _) => some (.load key)
  | .load _, .loaded _ _ => none
  | _, .drop _ => none
  | request, _ => some request

/-- What a computation of a get needs after any action, unless it is over then. -/
def Request.after (request : Request) (call : Nat) (action : Action) : Option Request :=
  if action.get? = some call then request.remaining action else some request

theorem Request.key_of_after {request next : Request} {call : Nat} {action : Action}
    (after : request.after call action = some next) : next.key = request.key := by
  unfold Request.after at after
  split at after
  · unfold Request.remaining at after
    split at after <;> cases after <;> rfl
  · rw [Option.some.inj after]

/-- What a computation needs changes while it goes on only if a peer fails it. -/
theorem Request.after_cases {request next : Request} {call : Nat} {action : Action}
    (after : request.after call action = some next) : next = request ∨
      ∃ peer name key cause, request = .fetch peer name key ∧
        action = .fetched call (.error cause) ∧ next = .load key := by
  unfold Request.after at after
  split at after
  case isTrue about =>
    unfold Request.remaining at after
    split at after <;> cases after
    case h_2 peer name key other cause =>
      obtain rfl : other = call := Option.some.inj about
      exact .inr ⟨peer, name, key, cause, rfl, rfl, rfl⟩
    case h_5 => exact .inl rfl
  case isFalse => exact .inl (Option.some.inj after).symm

/-! ## Errands from one action to the next -/

section Steps

variable {group next : Group} {call other : Nat} {key : String} {owner : Option String}
  {progress : Progress} {request : Request} {action : Action} {outcome : Outcome}

theorem errand_of_erase_ne (other_ne : call ≠ other) :
    (group.errands.erase call)[other]? = group.errands[other]? := by
  rw [Std.ExtTreeMap.getElem?_erase, if_neg (by simpa using other_ne)]

theorem errand_of_insert_ne (other_ne : call ≠ other) :
    (group.errands.insert call request)[other]? = group.errands[other]? := by
  rw [Std.ExtTreeMap.getElem?_insert, if_neg (by simpa using other_ne)]

private theorem Proceeds.errand_ne (proceeds : Proceeds group call owner next progress)
    (other_ne : call ≠ other) : next.errands[other]? = group.errands[other]? := by
  cases proceeds with
  | absent | remains | waits | receives => rfl
  | hits => exact errand_of_erase_ne other_ne
  | asks => exact errand_of_insert_ne other_ne

private theorem Polls.errand_ne (polls : Polls group call owner next progress)
    (other_ne : call ≠ other) :
    next.errands[other]? = group.errands[other]? := by
  cases polls with
  | rejects | hits => rfl
  | misses key storage next progress _ _ _ _ _ proceeds => exact proceeds.errand_ne other_ne
  | resumes next progress _ proceeds => exact proceeds.errand_ne other_ne

theorem Sound.leads_of_errand (sound : group.Sound) (errand : group.errands[call]? = some request) :
    group.flight.Leads call request.key :=
  (sound.errand.leads call request.key).mpr ⟨request, errand, rfl⟩

theorem Sound.isLive_of_errand (sound : group.Sound)
    (errand : group.errands[call]? = some request) : group.isLive call = true := by
  have leads := sound.leads_of_errand errand
  have present : call ∈ group.flight.calls := by
    rw [Std.ExtTreeMap.mem_iff_isSome_getElem?, show group.flight.calls[call]? = _ from leads]
    rfl
  simp [isLive, present]

private theorem Polls.of_errand (polls : Polls group call owner next progress) (sound : group.Sound)
    (errand : group.errands[call]? = some request) :
    next = group ∧ progress = .remains request := by
  have leads := sound.leads_of_errand errand
  have unarrived := sound.arrived_of_leads leads
  cases polls with
  | rejects arrived | hits _ _ _ arrived | misses _ _ _ _ arrived => simp [unarrived] at arrived
  | resumes next progress _ proceeds =>
    cases proceeds with
    | absent missing => simpa using leads.symm.trans missing
    | remains again errand' => exact ⟨rfl, by rw [Option.some.inj (errand.symm.trans errand')]⟩
    | waits flight attends => exact (attends.not_leads (by simp) leads).elim
    | receives flight result attends => exact (attends.not_leads (by simp) leads).elim
    | hits flight key value attends => exact (attends.not_leads (by simp) leads).elim
    | asks flight key attends => exact (attends.not_leads (by simp) leads).elim

/-- A computation that asks for something when it is polled has just started, without finding its
key. -/
private theorem Proceeds.asks_iff (proceeds : Proceeds group call owner next progress)
    (unasked : group.errands[call]? = none) :
    progress = .asks request ↔ next.errands[call]? = some request := by
  cases proceeds with
  | remains again errand => simp [unasked] at errand
  | absent | waits | receives => simp [unasked]
  | hits => simp [conclude]
  | asks => simp [ask, eq_comm]

private theorem Proceeds.opens (proceeds : Proceeds group call owner next (.asks request)) :
    request = group.opening request.key owner ∧ group.peek request.key = none := by
  cases proceeds with
  | asks flight key attends known missing =>
    rw [key_opening]
    exact ⟨rfl, missing⟩

private theorem Polls.asks_iff (polls : Polls group call owner next progress)
    (unasked : group.errands[call]? = none) :
    progress = .asks request ↔ next.errands[call]? = some request := by
  cases polls with
  | rejects => simp [turnAway, unasked]
  | hits => simp [turnAway, unasked]
  | misses key storage next progress _ _ _ _ _ proceeds => exact proceeds.asks_iff unasked
  | resumes next progress _ proceeds => exact proceeds.asks_iff unasked

private theorem Polls.opens (polls : Polls group call owner next (.asks request)) :
    request = group.opening request.key owner ∧ group.peek request.key = none := by
  cases polls with
  | misses key storage next progress _ _ _ _ peeks proceeds =>
    obtain ⟨same, missing⟩ := proceeds.opens
    exact ⟨same, (peeks request.key).symm.trans missing⟩
  | resumes next progress _ proceeds => exact proceeds.opens

theorem errand_of_elsewhere (sound : group.Sound) (stepped : group.step action = .ok outcome)
    (elsewhere : action.get? ≠ some call) :
    outcome.group.errands[call]? = group.errands[call]? := by
  cases occurs_of_step stepped <;>
    simp only [Action.get?, ne_eq, Option.some.injEq] at elsewhere
  case calls other key =>
    unfold Group.call
    split <;> rfl
  case begins other owner key next progress arrived begun =>
    have polled : group.poll other owner = .ok (next, progress) := by
      simp only [poll, arrived, begun]
    exact (polls_of_poll sound polled).errand_ne elsewhere
  case resumes other owner next progress unarrived answered =>
    exact (proceeds_of_pollFlight sound answered).errand_ne elsewhere
  case turns => exact errand_of_insert_ne elsewhere
  case loads other key value stats departures filled errand populated =>
    obtain ⟨added, -, populated⟩ := Checked.bind_eq_ok_iff.mp populated
    cases populated
    exact errand_of_erase_ne elsewhere
  case fetches | fails | drops => exact errand_of_erase_ne elsewhere
  case unfetched | unloaded | registers | registered => rfl

/-- What was asked for changes with its answer and with the end of the get, and with nothing
else. -/
theorem errand_after (sound : group.Sound) (stepped : group.step action = .ok outcome)
    (errand : group.errands[call]? = some request) :
    outcome.group.errands[call]? = request.after call action := by
  by_cases about : action.get? = some call
  case neg => rw [errand_of_elsewhere sound stepped about, errand, Request.after, if_neg about]
  case pos =>
    rw [Request.after, if_pos about]
    cases occurs_of_step stepped <;> simp only [Action.get?, Option.some.injEq] at about <;>
      try subst about
    case calls other key =>
      simp only [Group.call, sound.isLive_of_errand errand, if_true, errand]
      cases request <;> rfl
    case begins other owner key next progress arrived begun =>
      have leads := sound.leads_of_errand errand
      simp [sound.arrived_of_leads leads] at arrived
    case resumes other owner next progress unarrived answered =>
      obtain ⟨rfl, -⟩ :=
        (Polls.resumes next progress unarrived (proceeds_of_pollFlight sound answered)).of_errand
          sound errand
      simp only [errand]
      cases request <;> rfl
    case fetches other peer name key value stats fetch =>
      obtain rfl : request = .fetch peer name key := Option.some.inj (errand.symm.trans fetch)
      exact Std.ExtTreeMap.getElem?_erase_self
    case turns other peer name key cause stats fetch =>
      obtain rfl : request = .fetch peer name key := Option.some.inj (errand.symm.trans fetch)
      exact Std.ExtTreeMap.getElem?_insert_self
    case loads other key value stats departures filled load populated =>
      obtain rfl : request = .load key := Option.some.inj (errand.symm.trans load)
      exact Std.ExtTreeMap.getElem?_erase_self
    case fails other key text stats load =>
      obtain rfl : request = .load key := Option.some.inj (errand.symm.trans load)
      exact Std.ExtTreeMap.getElem?_erase_self
    case unfetched other result unasked =>
      cases request with
      | fetch peer name key => exact absurd errand (unasked peer name key)
      | load key => exact errand
    case unloaded other result unasked =>
      cases request with
      | load key => exact absurd errand (unasked key)
      | fetch peer name key => exact errand
    case drops other =>
      cases request <;> exact Std.ExtTreeMap.getElem?_erase_self
    case registers | registered => cases about

/-- A get asks for something when its computation starts, in a poll, and when its fetch fails. -/
theorem asks_of_step (sound : group.Sound) (stepped : group.step action = .ok outcome)
    (asks : outcome.progress = some (.asks request)) :
    (∃ call owner, action = .poll call owner ∧ group.errands[call]? = none ∧
        request = group.opening request.key owner ∧ group.peek request.key = none ∧
        outcome.group.errands[call]? = some request) ∨
      ∃ call peer cause, action = .fetched call (.error cause) ∧
        group.errands[call]? = some (.fetch peer group.name request.key) ∧
        request = .load request.key := by
  have polled : ∀ call owner next, Polls group call owner next (.asks request) →
      action = .poll call owner → outcome.group = next → ∃ call owner, action = .poll call owner ∧
        group.errands[call]? = none ∧ request = group.opening request.key owner ∧
        group.peek request.key = none ∧ outcome.group.errands[call]? = some request := by
    rintro call owner next polls rfl rfl
    have unasked : group.errands[call]? = none := by
      by_contra errand
      obtain ⟨earlier, errand⟩ := Option.ne_none_iff_exists'.mp errand
      simpa using (polls.of_errand sound errand).2
    exact ⟨call, owner, rfl, unasked, polls.opens.1, polls.opens.2, (polls.asks_iff unasked).mp rfl⟩
  cases occurs_of_step stepped with
  | begins call owner key next progress arrived begun =>
    cases asks
    have answered : group.poll call owner = .ok (next, .asks request) := by
      simp only [poll, arrived, begun]
    exact .inl (polled call owner next (polls_of_poll sound answered) rfl rfl)
  | resumes call owner next progress unarrived answered =>
    cases asks
    exact .inl (polled call owner next
      (.resumes next _ unarrived (proceeds_of_pollFlight sound answered)) rfl rfl)
  | turns call peer name key cause stats fetch =>
    cases asks
    obtain rfl : name = group.name := sound.errand.named call _ fetch
    exact .inr ⟨call, peer, cause, rfl, fetch, rfl⟩
  | calls | loads | fails | fetches | unfetched | unloaded | drops | registers | registered =>
    cases asks

theorem asks_of_errand (sound : group.Sound) (stepped : group.step action = .ok outcome)
    (unasked : group.errands[call]? = none)
    (errand : outcome.group.errands[call]? = some request) :
    action.get? = some call ∧ outcome.progress = some (.asks request) := by
  have about : action.get? = some call := by
    by_contra elsewhere
    simp [errand_of_elsewhere sound stepped elsewhere, unasked] at errand
  refine ⟨about, ?_⟩
  cases occurs_of_step stepped <;> simp only [Action.get?, Option.some.injEq] at about <;>
    try subst about
  case begins other owner key next progress arrived begun =>
    have polled : group.poll other owner = .ok (next, progress) := by
      simp only [poll, arrived, begun]
    rw [((polls_of_poll sound polled).asks_iff unasked).mpr errand]
  case resumes other owner next progress unarrived answered =>
    rw [((proceeds_of_pollFlight sound answered).asks_iff unasked).mpr errand]
  case calls other key =>
    unfold Group.call at errand
    split at errand <;> simp [unasked] at errand
  case turns other peer name key cause stats fetch => simp [unasked] at fetch
  case fetches other peer name key value stats fetch => simp [unasked] at fetch
  case loads other key value stats departures filled load populated => simp [unasked] at load
  case fails other key text stats load => simp [unasked] at load
  case drops other => simp [Group.drop] at errand
  case unfetched | unloaded => simp [unasked] at errand
  case registers | registered => cases about

/-- A peer that is asked was asked before, or was named as the owner of the key just now. -/
theorem fetch_origin {peer name : String} (sound : group.Sound)
    (stepped : group.step action = .ok outcome)
    (errand : outcome.group.errands[call]? = some (.fetch peer name key)) :
    group.errands[call]? = some (.fetch peer name key) ∨ action = .poll call (some peer) := by
  cases before : group.errands[call]? with
  | some request =>
    left
    have after := (errand_after sound stepped before).symm.trans errand
    rcases Request.after_cases after with same | ⟨_, _, _, _, -, -, other⟩
    · rw [same]
    · cases other
  | none =>
    right
    obtain ⟨about, asks⟩ := asks_of_errand sound stepped before errand
    rcases asks_of_step sound stepped asks with
      ⟨other, owner, rfl, -, opens, -⟩ | ⟨_, _, _, -, -, other⟩
    · obtain rfl : other = call := Option.some.inj about
      unfold opening Request.first at opens
      split at opens
      · next named =>
        split at named
        · cases opens
          rw [named]
        · cases named
      · cases opens
    · cases other

end Steps

end PeerCache.Group
