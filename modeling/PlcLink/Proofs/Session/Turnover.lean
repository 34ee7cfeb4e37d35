import Mathlib
import PlcLink.Proofs.Session.Tickets

/-!
# How jobs and permits of a service change

Jobs come, end with outcomes, or are forgotten because their callers gave up.
A job holds a permit from when it is admitted until it leaves the service.
Whatever a service does, the free permits and those that jobs hold stay as many
as they were.
-/

namespace PlcLink

variable {Ticket : Type}

theorem JobTable.length_tickets (table : JobTable Ticket) :
    table.tickets.length = table.size := by
  rw [tickets_eq_map_entries, List.length_map, entries, List.length_map,
    Std.TreeMap.length_toList]
  rfl

@[simp] theorem JobTable.tickets_clear (table : JobTable Ticket) :
    table.clear.tickets = [] := by
  rw [tickets, clear]
  rfl

/-- Erasing the first asked for job erases one. -/
theorem jobTickets_eraseP_of_any [DecidableEq Ticket] {ticket : Ticket}
    {jobs : List (Job Ticket)}
    (someAsked : jobs.any (fun job => job.ticket == ticket) = true) :
    {ticket} + jobTickets (jobs.eraseP fun job => job.ticket == ticket)
      = jobTickets jobs := by
  obtain ⟨job, found⟩ := Option.isSome_iff_exists.1
    (List.find?_isSome.2 (List.any_eq_true.1 someAsked))
  have isAsked : job.ticket = ticket := eq_of_beq (List.find?_some found :)
  have among := found
  rw [← List.take_length (l := jobs)] at among
  have erased := jobTickets_eraseP jobs.length jobs among
  rw [isAsked] at erased
  exact erased

/-- The outcomes of taking a frame. -/
def Reception.outcomes : Reception Ticket -> List (Outcome Ticket)
  | .answered outcome => [outcome]
  | .ignored | .missed _ | .overflowed _ | .disconnected => []

namespace Service

/-- The tickets of the jobs that hold permits. -/
def holders (service : Service Ticket) : Multiset Ticket :=
  jobTickets service.admitted + jobTickets service.queue
    + service.table.tickets

theorem tickets_eq (service : Service Ticket) :
    service.tickets = jobTickets service.waiting + service.holders := by
  rw [tickets, holders, add_assoc, add_assoc, add_assoc]

theorem card_jobTickets (jobs : List (Job Ticket)) :
    (jobTickets jobs).card = jobs.length := by
  rw [jobTickets, Multiset.coe_card, List.length_map]

theorem card_holders (service : Service Ticket) :
    service.holders.card
      = service.admitted.length + service.queue.length
        + service.table.size := by
  rw [holders, Multiset.card_add, Multiset.card_add, card_jobTickets,
    card_jobTickets, Multiset.coe_card, JobTable.length_tickets]

/-- How a service becomes another: which jobs come, how jobs end, and whose
callers leave. -/
structure Turnover
    (before after : Service Ticket)
    (came : Multiset Ticket)
    (outcomes : List (Outcome Ticket))
    (left : List Ticket) : Prop where
  context_eq : after.context = before.context
  /-- No job waits for a permit again. -/
  waiting_le : jobTickets after.waiting ≤ came + jobTickets before.waiting
  /-- A job that leaves has its outcome, or its caller gave up. -/
  places : ∃ forgotten : Multiset Ticket,
    outcomeTickets outcomes + forgotten + after.tickets
        = came + before.tickets
      ∧ ∀ ticket ∈ forgotten, ticket ∈ before.absent ∨ ticket ∈ left
  absent_sub : ∀ ticket ∈ after.absent,
    ticket ∈ before.absent ∨ ticket ∈ left
  balance :
    after.permits + after.holders.card
      = before.permits + before.holders.card

variable {service before middle after : Service Ticket}
  {outcomes : List (Outcome Ticket)}

/-- No job is forgotten, and no caller gives up. -/
theorem Turnover.ofTickets {came : Multiset Ticket}
    (context : after.context = before.context)
    (waiting : jobTickets after.waiting ≤ came + jobTickets before.waiting)
    (tickets :
      outcomeTickets outcomes + after.tickets = came + before.tickets)
    (absent : after.absent = before.absent)
    (balance :
      after.permits + after.holders.card
        = before.permits + before.holders.card) :
    Turnover before after came outcomes [] where
  context_eq := context
  waiting_le := waiting
  places := by
    refine ⟨0, by rw [add_zero, tickets], ?_⟩
    intro ticket member
    exact absurd member (Multiset.notMem_zero ticket)
  absent_sub := by
    intro ticket isAbsent
    rw [absent] at isAbsent
    exact .inl isAbsent
  balance := balance

/-! ## Giving permits back -/

/-- What permits that are given back leave as it is. -/
structure Released (before after : Service Ticket) (count : Nat) : Prop where
  context_eq : after.context = before.context
  waiting_le : jobTickets after.waiting ≤ jobTickets before.waiting
  tickets_eq : after.tickets = before.tickets
  absent_eq : after.absent = before.absent
  balance :
    after.permits + after.holders.card
      = before.permits + before.holders.card + count

theorem released_release (service : Service Ticket) :
    Released service service.release 1 := by
  have tickets := (release_frame service).1
  unfold release at tickets ⊢
  split at tickets
  · rename_i job waiting isWaiting
    refine ⟨rfl, ?_, tickets, rfl, ?_⟩
    · rw [isWaiting, jobTickets_cons]
      exact Multiset.le_add_left _ _
    · simp only [card_holders, List.length_append, List.length_singleton]
      omega
  · refine ⟨rfl, le_refl _, tickets, rfl, ?_⟩
    simp only [card_holders]
    omega

theorem released_releaseMany (count : Nat) (service : Service Ticket) :
    Released service (releaseMany count service) count := by
  induction count generalizing service with
  | zero => exact ⟨rfl, le_refl _, rfl, rfl, rfl⟩
  | succ count inductionHypothesis =>
      have first := released_release service
      have others := inductionHypothesis service.release
      refine ⟨others.context_eq.trans first.context_eq,
        others.waiting_le.trans first.waiting_le,
        others.tickets_eq.trans first.tickets_eq,
        others.absent_eq.trans first.absent_eq, ?_⟩
      change (releaseMany count service.release).permits
        + (releaseMany count service.release).holders.card = _
      rw [others.balance, first.balance]
      omega

/-- Jobs with permits leave, and as many permits are given back. -/
theorem Released.turnover {count : Nat}
    (released : Released middle after count)
    (before : Service Ticket)
    (outcomes : List (Outcome Ticket)) (forgotten : Multiset Ticket)
    (context : middle.context = before.context)
    (waiting : middle.waiting = before.waiting)
    (permits : middle.permits = before.permits)
    (absent : middle.absent = before.absent)
    (holders :
      outcomeTickets outcomes + forgotten + middle.holders = before.holders)
    (counted : outcomes.length + forgotten.card = count)
    {left : List Ticket}
    (gone : ∀ ticket ∈ forgotten, ticket ∈ before.absent ∨ ticket ∈ left) :
    Turnover before after 0 outcomes left where
  context_eq := released.context_eq.trans context
  waiting_le := by
    rw [zero_add, ← waiting]
    exact released.waiting_le
  places := by
    refine ⟨forgotten, ?_, gone⟩
    rw [released.tickets_eq, middle.tickets_eq, before.tickets_eq, waiting,
      ← holders]
    abel
  absent_sub := by
    rw [released.absent_eq, absent]
    exact fun ticket isAbsent => .inl isAbsent
  balance := by
    have cards := congrArg Multiset.card holders
    rw [Multiset.card_add, Multiset.card_add] at cards
    have ended : (outcomeTickets outcomes).card = outcomes.length := by
      rw [outcomeTickets, Multiset.coe_card, List.length_map]
    rw [released.balance, permits]
    omega

/-- Jobs with permits end, and as many permits are given back. -/
theorem Released.turnover_ended
    (released : Released middle after outcomes.length)
    (before : Service Ticket)
    (context : middle.context = before.context)
    (waiting : middle.waiting = before.waiting)
    (permits : middle.permits = before.permits)
    (absent : middle.absent = before.absent)
    (holders : outcomeTickets outcomes + middle.holders = before.holders) :
    Turnover before after 0 outcomes [] := by
  refine released.turnover before outcomes 0 context waiting permits absent
    ?_ (by rw [Multiset.card_zero, add_zero]) ?_
  · rw [add_zero, holders]
  · intro ticket member
    exact absurd member (Multiset.notMem_zero ticket)

/-- Jobs with permits may change their places. -/
theorem Turnover.ofHolders
    (context : after.context = before.context)
    (waiting : after.waiting = before.waiting)
    (permits : after.permits = before.permits)
    (absent : after.absent = before.absent)
    (holders : after.holders = before.holders) :
    Turnover before after 0 [] [] := by
  apply (released_releaseMany 0 after).turnover_ended before context waiting
    permits absent
  rw [outcomeTickets_nil, zero_add, holders]

/-- Payloads under way do not matter. -/
theorem Turnover.of_reassembler {next : Reassembler} {came : Multiset Ticket}
    {left : List Ticket}
    (turnover :
      Turnover { service with reassembler := next } after came outcomes left) :
    Turnover service after came outcomes left :=
  ⟨turnover.context_eq, turnover.waiting_le, turnover.places,
    turnover.absent_sub, turnover.balance⟩

/-! ## What each event does -/

/-- A table may be looked at or strike jobs out, whose permits are given
back. -/
theorem turnover_strikes {table : JobTable Ticket}
    {ended : List (UInt16 × Ticket)}
    (strikes : JobTable.Strikes service.table table ended)
    (reported : outcomes.map Outcome.ticket = ended.map Prod.snd)
    (released :
      Released { service with table } after outcomes.length) :
    Turnover service after 0 outcomes [] := by
  apply released.turnover_ended service rfl rfl rfl rfl
  have tickets := strikes.tickets_eq
  rw [← reported] at tickets
  rw [holders, holders, tickets, outcomeTickets]
  abel

theorem turnover_submit {job : Job Ticket}
    (submitted : service.submit job = some after) :
    Turnover service after {job.ticket} [] [] := by
  have tickets : outcomeTickets [] + after.tickets
      = {job.ticket} + service.tickets := by
    rw [(submit_frame submitted).1, outcomeTickets_nil, zero_add]
  unfold submit at submitted
  split at submitted
  · cases submitted
  · split at submitted
    · cases submitted
      refine .ofTickets rfl ?_ tickets rfl rfl
      rw [jobTickets_append, add_comm]
      exact le_refl _
    · rename_i somePermit
      cases submitted
      refine .ofTickets rfl (Multiset.le_add_left _ _) tickets rfl ?_
      simp only [card_holders, List.length_append, List.length_singleton]
      omega

section

variable [DecidableEq Ticket]

theorem turnover_enqueue (service : Service Ticket) (ticket : Ticket) :
    Turnover service (service.enqueue ticket) 0 [] [] := by
  unfold enqueue
  dsimp only
  split
  · rename_i job found
    have holders : holders
          { service with
            admitted := service.admitted.eraseP
              fun job => job.ticket == ticket
            queue := service.queue ++ [job] }
        = service.holders := by
      simp only [Service.holders, jobTickets_append, jobTickets_cons,
        jobTickets_nil, ← jobTickets_eraseP _ _ found]
      abel
    exact .ofHolders rfl rfl rfl rfl holders
  · exact .ofHolders rfl rfl rfl rfl rfl

/-- The caller's job is forgotten if it has not reached the queue. -/
theorem turnover_giveUp (service : Service Ticket) (ticket : Ticket) :
    Turnover service (service.giveUp ticket) 0 [] [ticket] := by
  have isLeft : ∀ other ∈ ({ticket} : Multiset Ticket),
      other ∈ service.absent ∨ other ∈ [ticket] :=
    fun other member =>
      .inr (List.mem_singleton.2 (Multiset.mem_singleton.1 member))
  unfold giveUp
  dsimp only
  split
  · rename_i isWaiting
    have waiting := jobTickets_eraseP_of_any isWaiting
    refine ⟨rfl, ?_, ⟨{ticket}, ?_, isLeft⟩, fun _ isAbsent => .inl isAbsent,
      rfl⟩
    · rw [zero_add]
      exact jobTickets_eraseP_le _ _
    · rw [tickets_eq, tickets_eq, ← waiting, outcomeTickets_nil]
      change _ + (_ + service.holders) = _
      abel
  · split
    · rename_i isAdmitted
      have admitted := jobTickets_eraseP_of_any isAdmitted
      have released := released_release
        { service with
          admitted := service.admitted.eraseP
            fun job => job.ticket == ticket }
      refine released.turnover service [] {ticket} rfl rfl rfl rfl ?_ rfl
        isLeft
      simp only [holders, ← admitted, outcomeTickets_nil]
      abel
    · have same : Turnover service
          { service with absent := ticket :: service.absent } 0 [] [ticket] :=
        { context_eq := rfl
          waiting_le := Multiset.le_add_left _ _
          places := ⟨0, rfl,
            fun _ member => absurd member (Multiset.notMem_zero _)⟩
          absent_sub := fun other isAbsent =>
            (List.mem_cons.1 isAbsent).symm.imp_right List.mem_singleton.2
          balance := rfl }
      exact same

/-- A job that is taken from the queue goes into the table, ends, or is
forgotten. -/
theorem turnover_dispatch {now : Nat} {dispatch : Dispatch Ticket}
    (dispatched : service.dispatch? now = some (after, dispatch)) :
    Turnover service after 0 dispatch.outcomes [] := by
  obtain ⟨job, queue, table, isQueue, pending, cases⟩ :=
    dispatch_cases dispatched
  have sameTickets : table.tickets = service.table.tickets := by
    rw [JobTable.tickets, JobTable.tickets, pending]
  have taken : {job.ticket} + holders { service with queue, table }
      = service.holders := by
    simp only [holders, isQueue, jobTickets_cons, sameTickets]
    abel
  obtain ⟨rfl, ended⟩ | ⟨reference, datagrams, free, rfl, rfl⟩ := cases
  · -- A job that is not sent gives its permit back at once.
    have released := released_release { service with queue, table }
    obtain ⟨isAbsent, rfl⟩ | ⟨error, rfl⟩ := ended
    · refine released.turnover service [] {job.ticket} rfl rfl rfl rfl ?_ rfl
        ?_
      · rw [outcomeTickets_nil, zero_add, taken]
      · intro ticket member
        rw [Multiset.mem_singleton.1 member]
        exact .inl isAbsent
    · have oneEnded : Released { service with queue, table }
          (release { service with queue, table })
          [failure error job].length := released
      refine oneEnded.turnover_ended service rfl rfl rfl rfl ?_
      rw [← taken]
      rfl
  · -- A job that is sent takes its permit with it into the table.
    refine .ofHolders rfl rfl rfl rfl ?_
    rw [← taken]
    simp only [holders, JobTable.tickets_register free]
    abel

end

/-- Jobs lapse that wait or are admitted. -/
theorem turnover_lapse (service : Service Ticket) (now : Nat) :
    Turnover service (service.lapse now).1 0 (service.lapse now).2 [] := by
  have released := released_releaseMany
    (service.admitted.filter fun job => job.deadline ≤ now).length
    { service with
      waiting := service.waiting.filter fun job => !(job.deadline ≤ now)
      admitted := service.admitted.filter fun job => !(job.deadline ≤ now) }
  refine .ofTickets released.context_eq ?_ ?_ released.absent_eq ?_
  · rw [zero_add]
    exact released.waiting_le.trans
      (Multiset.coe_le.2 (List.filter_sublist.map _).subperm)
  · rw [zero_add]
    exact (service.lapse_frame now).1
  · refine released.balance.trans ?_
    have split := List.length_eq_length_filter_add
      (l := service.admitted) fun job => decide (job.deadline ≤ now)
    simp only [card_holders]
    omega

theorem sendFailed_of_find?_eq_none {reference : UInt16}
    (isFree : service.table.find? reference = none) :
    service.sendFailed reference = (service, []) := by
  unfold sendFailed
  rw [JobTable.fail_of_find?_eq_none .notConnected isFree]
  rfl

theorem sendFailed_of_find?_eq_some {reference : UInt16} {ticket : Ticket}
    (isPending : service.table.find? reference = some ticket) :
    service.sendFailed reference
      = (release { service with table := service.table.remove reference },
        [{ ticket, result := .error .notConnected }]) := by
  unfold sendFailed
  rw [JobTable.fail_of_find?_eq_some .notConnected isPending]
  rfl

theorem turnover_sendFailed (service : Service Ticket) (reference : UInt16) :
    Turnover service (service.sendFailed reference).1 0
      (service.sendFailed reference).2 [] := by
  cases found : service.table.find? reference with
  | none =>
      rw [sendFailed_of_find?_eq_none found]
      exact .ofHolders rfl rfl rfl rfl rfl
  | some ticket =>
      rw [sendFailed_of_find?_eq_some found]
      exact turnover_strikes (JobTable.strikes_remove found) rfl
        (released_release _)

theorem turnover_receivePdu (service : Service Ticket) (raw : Bytes) :
    Turnover service (service.receivePdu raw).1 0
      (service.receivePdu raw).2.outcomes [] := by
  unfold receivePdu
  split
  · exact .ofHolders rfl rfl rfl rfl rfl
  · rename_i pdu parsed
    cases found : service.table.find? pdu.reference with
    | none =>
        rw [JobTable.resolve_of_find?_eq_none found]
        exact .ofHolders rfl rfl rfl rfl rfl
    | some ticket =>
        rw [JobTable.resolve_of_find?_eq_some found]
        exact turnover_strikes (JobTable.strikes_remove found) rfl
          (released_release _)

theorem turnover_receive (service : Service Ticket)
    (frame : Except Error Frame) :
    Turnover service (service.receive frame).1 0
      (service.receive frame).2.outcomes [] := by
  unfold receive
  split
  · exact .ofHolders rfl rfl rfl rfl rfl
  · split
    · dsimp only
      split
      · rename_i raw _
        exact (turnover_receivePdu _ raw).of_reassembler
      · exact .ofHolders rfl rfl rfl rfl rfl
      · exact .ofHolders rfl rfl rfl rfl rfl
    · exact .ofHolders rfl rfl rfl rfl rfl
    · exact .ofHolders rfl rfl rfl rfl rfl

theorem turnover_expire (service : Service Ticket) (now : Nat) :
    Turnover service (service.expire now).1 0
      ((service.expire now).2.map Prod.snd) [] := by
  refine turnover_strikes (service.table.strikes_expire now)
    (service.table.map_ticket_timeOut now) ?_
  rw [List.length_map]
  exact released_releaseMany _ _

theorem turnover_close (service : Service Ticket) :
    Turnover service service.close.1 0 service.close.2 [] := by
  refine .ofTickets rfl (Multiset.zero_le _) ?_ rfl rfl
  rw [close, outcomeTickets_map_failure, tickets_eq, tickets_eq]
  change _ + (0 + service.holders) = _
  abel

/-- A service whose jobs all ended has none. -/
theorem holders_tearDown (service : Service Ticket) :
    service.tearDown.1.holders = 0 := by
  change 0 + 0 + (service.table.clear.tickets : Multiset Ticket) = 0
  rw [JobTable.tickets_clear]
  rfl

theorem tickets_tearDown (service : Service Ticket) :
    service.tearDown.1.tickets = 0 := by
  rw [service.tearDown.1.tickets_eq, holders_tearDown]
  rfl

theorem outcomeTickets_tearDown (service : Service Ticket) :
    outcomeTickets service.tearDown.2 = service.tickets := by
  have parts : service.tearDown.2
      = service.table.drain.2 ++ service.waiting.map (failure .notConnected)
        ++ (service.admitted ++ service.queue).map (failure .notConnected) :=
    rfl
  have drained := service.table.strikes_clear.tickets_eq
  rw [← JobTable.map_ticket_drain, JobTable.tickets_clear, Multiset.coe_nil,
    add_zero] at drained
  rw [parts, outcomeTickets_append, outcomeTickets_append,
    outcomeTickets_map_failure, outcomeTickets_map_failure, jobTickets_append,
    tickets, drained, outcomeTickets]
  abel

theorem turnover_tearDown (service : Service Ticket) :
    Turnover service service.tearDown.1 0 service.tearDown.2 [] := by
  refine .ofTickets rfl (Multiset.zero_le _) ?_ rfl ?_
  · rw [outcomeTickets_tearDown, tickets_tearDown]
    abel
  · have permits : service.tearDown.1.permits
        = service.permits + (service.admitted ++ service.queue).length
          + service.table.drain.2.length := rfl
    have pending : service.table.drain.2.length = service.table.size := by
      rw [← JobTable.length_tickets]
      exact List.length_map _
    rw [holders_tearDown, card_holders, permits, pending, List.length_append,
      Multiset.card_zero]
    omega

end Service
end PlcLink
