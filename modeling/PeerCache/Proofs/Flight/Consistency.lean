import PeerCache.Proofs.Flight.Changes

/-! # Consistent flights

The three tables of a flight say the same thing three times: who leads, who waits, and who hears
from whom. A flight is consistent when they agree. The record of a key exists exactly while some
call leads it, and a waiting call is listed in the record of its key exactly while its mailbox is
empty, so mail that has arrived no longer depends on any record. Every change of a flight keeps it
consistent.
-/

namespace PeerCache.Flight

variable {α : Type}

/-- Calls, records and mailboxes agree. -/
structure Consistent (flight : Flight α) : Prop where
  /-- A record stands for a leader. -/
  recorded : ∀ key, key ∈ flight.records ↔ ∃ call, flight.Leads call key
  /-- A key has one leader. -/
  single : ∀ key first second, flight.Leads first key → flight.Leads second key → first = second
  /-- Numbers of mailboxes in use were handed out. -/
  numbered : ∀ mailbox, mailbox ∈ flight.mailboxes → mailbox < flight.nextMailbox
  /-- Numbers of listed mailboxes were handed out. -/
  issued : ∀ key mailbox, flight.Listed key mailbox → mailbox < flight.nextMailbox
  /-- A waiting call has its mailbox. -/
  held : ∀ call key mailbox, flight.Waits call key mailbox → mailbox ∈ flight.mailboxes
  /-- No two calls share a mailbox. -/
  apart : ∀ first second key key' mailbox, flight.Waits first key mailbox →
    flight.Waits second key' mailbox → first = second
  /-- A mailbox is empty exactly while the leader is going to write to it. -/
  awaited : ∀ call key mailbox, flight.Waits call key mailbox →
    (flight.mailboxes[mailbox]? = some .awaited ↔ flight.Listed key mailbox)
  /-- Nobody but the leader of its key writes to a waiting call. -/
  home : ∀ call key key' mailbox, flight.Waits call key mailbox → flight.Listed key' mailbox →
    key' = key

theorem consistent_empty : (empty : Flight α).Consistent := by
  constructor <;> simp [empty, Leads, Waits, Listed]

/-! ## The changes keep a flight consistent -/

theorem Consistent.leave {flight : Flight α} (consistent : flight.Consistent) {call mailbox : Nat}
    {key : String} (waits : flight.Waits call key mailbox) :
    (flight.leave call mailbox).Consistent := by
  obtain ⟨recorded, single, numbered, issued, held, apart, awaited, home⟩ := consistent
  constructor <;> try simp only [leads_leave, waits_leave, listed_leave]
  case recorded =>
    intro key'
    refine (recorded key').trans ⟨?_, ?_⟩
    · rintro ⟨leader, leads⟩
      refine ⟨leader, ?_, leads⟩
      rintro rfl
      exact leads.not_waits waits
    · rintro ⟨leader, -, leads⟩
      exact ⟨leader, leads⟩
  case single => exact fun key' first second leads again => single key' first second leads.2 again.2
  case numbered =>
    intro box used
    rw [Std.ExtTreeMap.mem_iff_isSome_getElem?, mailboxes_leave] at used
    exact numbered box (by grind)
  case issued => exact issued
  case held =>
    intro other key' box again
    rw [Std.ExtTreeMap.mem_iff_isSome_getElem?, mailboxes_leave]
    grind
  case apart => grind
  case awaited =>
    intro other key' box again
    rw [mailboxes_leave]
    grind
  case home => grind

/-- Mail neither opens nor removes a mailbox. -/
private theorem mem_mailboxes_retire {flight : Flight α} {call box : Nat} {key : String}
    {mail : Mail α} :
    box ∈ (flight.retire call key mail).mailboxes ↔ box ∈ flight.mailboxes := by
  simp only [Std.ExtTreeMap.mem_iff_isSome_getElem?]
  by_cases listed : flight.Listed key box
  · rw [mailboxes_retire_of_listed _ _ _ _ _ listed, Option.isSome_map]
  · rw [mailboxes_retire_of_not_listed _ _ _ _ _ listed]

theorem Consistent.retire {flight : Flight α} (consistent : flight.Consistent) {call : Nat}
    {key : String} (leads : flight.Leads call key) (mail : Mail α) (settled : mail ≠ .awaited) :
    (flight.retire call key mail).Consistent := by
  obtain ⟨recorded, single, numbered, issued, held, apart, awaited, home⟩ := consistent
  constructor <;> try simp only [leads_retire, waits_retire, listed_retire, mem_mailboxes_retire]
  case recorded =>
    intro key'
    rw [Std.ExtTreeMap.mem_iff_isSome_getElem?, records_retire]
    by_cases same : key = key'
    · subst same
      simp only [if_pos, Option.isSome_none, Bool.false_eq_true, false_iff]
      rintro ⟨other, different, again⟩
      exact different (single key call other leads again)
    · rw [if_neg same, ← Std.ExtTreeMap.mem_iff_isSome_getElem?, recorded]
      constructor
      · rintro ⟨other, again⟩
        refine ⟨other, ?_, again⟩
        rintro rfl
        exact same (leads.key_eq again)
      · rintro ⟨other, -, again⟩
        exact ⟨other, again⟩
  case single => exact fun key' first second one two => single key' first second one.2 two.2
  case numbered => exact numbered
  case issued => exact fun key' box listed => issued key' box listed.2
  case held => exact fun other key' box waits => held other key' box waits.2
  case apart =>
    exact fun first second key' key'' box one two => apart first second key' key'' box one.2 two.2
  case awaited =>
    intro other key' box waits
    by_cases listed : flight.Listed key box
    · rw [mailboxes_retire_of_listed _ _ _ _ _ listed]
      have same := home other key' key box waits.2 listed
      simp [same, settled]
    · rw [mailboxes_retire_of_not_listed _ _ _ _ _ listed, awaited other key' box waits.2]
      grind
  case home =>
    exact fun other key' key'' box waits listed => home other key' key'' box waits.2 listed.2

theorem Consistent.lead {flight : Flight α} (consistent : flight.Consistent) {call : Nat}
    {key : String} (idle : flight.Idle call) (absent : flight.records[key]? = none) :
    (flight.lead call key).Consistent := by
  obtain ⟨recorded, single, numbered, issued, held, apart, awaited, home⟩ := consistent
  have vacant : ∀ leader, ¬ flight.Leads leader key := by
    intro leader leads
    have present := (recorded key).mpr ⟨leader, leads⟩
    simp [Std.ExtTreeMap.mem_iff_isSome_getElem?, absent] at present
  constructor <;> try simp only [leads_lead, waits_lead, listed_lead, mailboxes_lead]
  case recorded =>
    intro key'
    rw [Std.ExtTreeMap.mem_iff_isSome_getElem?, records_lead]
    by_cases same : key = key'
    · simpa [same] using ⟨call, by simp⟩
    · rw [if_neg same, ← Std.ExtTreeMap.mem_iff_isSome_getElem?, recorded]
      constructor
      · rintro ⟨other, again⟩
        exact ⟨other, by rwa [if_neg (idle.ne_of_leads again)]⟩
      · rintro ⟨other, again⟩
        exact ⟨other, by grind⟩
  case single => grind
  case numbered => exact numbered
  case issued => exact fun key' box listed => issued key' box listed.2
  case held => exact fun other key' box waits => held other key' box waits.2
  case apart =>
    exact fun first second key' key'' box one two => apart first second key' key'' box one.2 two.2
  case awaited =>
    intro other key' box waits
    have unlisted : ¬ flight.Listed key box := by
      rintro ⟨waiters, found, -⟩
      simp [absent] at found
    rw [awaited other key' box waits.2]
    grind
  case home =>
    exact fun other key' key'' box waits listed => home other key' key'' box waits.2 listed.2

theorem Consistent.queue {flight : Flight α} (consistent : flight.Consistent) {call : Nat}
    {key : String} {waiters : List Nat} (idle : flight.Idle call)
    (found : flight.records[key]? = some waiters) :
    (flight.queue call key waiters).Consistent := by
  obtain ⟨recorded, single, numbered, issued, held, apart, awaited, home⟩ := consistent
  constructor <;> try simp only [leads_queue, waits_queue, listed_queue _ _ _ found]
  case recorded =>
    intro key'
    have present : key' ∈ (flight.queue call key waiters).records ↔ key' ∈ flight.records := by
      simp only [Std.ExtTreeMap.mem_iff_isSome_getElem?, records_queue]
      by_cases same : key = key'
      · simp [← same, found]
      · rw [if_neg same]
    rw [present, recorded]
    constructor
    · rintro ⟨leader, leads⟩
      exact ⟨leader, idle.ne_of_leads leads, leads⟩
    · rintro ⟨leader, -, leads⟩
      exact ⟨leader, leads⟩
  case single => exact fun key' first second one two => single key' first second one.2 two.2
  case numbered =>
    intro box used
    rw [Std.ExtTreeMap.mem_iff_isSome_getElem?, mailboxes_queue] at used
    change box < flight.nextMailbox + 1
    grind
  case issued =>
    rintro key' box (listed | ⟨-, rfl⟩)
    · exact Nat.lt_succ_of_lt (issued key' box listed)
    · exact Nat.lt_succ_self _
  case held =>
    intro other key' box waits
    rw [Std.ExtTreeMap.mem_iff_isSome_getElem?, mailboxes_queue]
    grind
  -- The number that is handed out is new to every waiter and every record.
  case apart => grind
  case awaited =>
    intro other key' box waits
    rw [mailboxes_queue]
    grind
  case home => grind

/-- A call that was never polled enters or leaves without a trace. -/
theorem Consistent.of_views {flight next : Flight α} (consistent : flight.Consistent)
    (records : next.records = flight.records) (mailboxes : next.mailboxes = flight.mailboxes)
    (numbers : next.nextMailbox = flight.nextMailbox)
    (leads : ∀ call key, next.Leads call key ↔ flight.Leads call key)
    (waits : ∀ call key mailbox, next.Waits call key mailbox ↔ flight.Waits call key mailbox) :
    next.Consistent := by
  obtain ⟨recorded, single, numbered, issued, held, apart, awaited, home⟩ := consistent
  have listed : ∀ key mailbox, next.Listed key mailbox ↔ flight.Listed key mailbox := by
    simp only [Listed, records, implies_true]
  constructor <;> simp only [records, mailboxes, numbers, leads, waits, listed] <;> assumption

/-- A call that was never polled comes without a trace. -/
theorem Consistent.enter {flight : Flight α} (consistent : flight.Consistent) {call : Nat}
    (key : String) (new : call ∉ flight.calls) : (flight.enter call key).Consistent := by
  have same : (flight.enter call key).records = flight.records ∧
      (flight.enter call key).nextMailbox = flight.nextMailbox := by
    simp [Flight.enter, new]
  exact consistent.of_views same.1 (mailboxes_enter ..) same.2 (fun _ _ => leads_enter new)
    fun _ _ _ => waits_enter new

/-- A call that was never polled goes without a trace. -/
theorem Consistent.forget {flight : Flight α} (consistent : flight.Consistent) {call : Nat}
    {key : String} (fresh : flight.calls[call]? = some ⟨key, .fresh⟩) :
    { flight with calls := flight.calls.erase call }.Consistent := by
  refine @Consistent.of_views _ flight _ consistent rfl rfl rfl ?_ ?_
  · intro other key'
    simp only [Leads, Std.ExtTreeMap.getElem?_erase]
    split <;> simp_all
  · intro other key' mailbox
    simp only [Waits, Std.ExtTreeMap.getElem?_erase]
    split <;> simp_all

end PeerCache.Flight
