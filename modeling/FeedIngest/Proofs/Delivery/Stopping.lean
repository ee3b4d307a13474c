import FeedIngest.Proofs.Delivery.Pool

/-!
# Stopping a channel

Once a call to stop a pool or a broker channel has turned away those who waited for a place, nobody
is let in any more to publish or to consume. Who was let in before may still get his job accepted.
Once the call has told the workers to go, a handler begins only if a worker was started since, by
somebody who had been let in before. Jobs that were not picked up stay in the queue, or at the
broker.

If no call to consume is under way when the workers are told to go, no handler begins any more. What
can still happen then is that handlers go on and end, that workers leave, that calls to stop are
made and answered, and that time passes. A bus goes on for later subscribers.
-/

set_option autoImplicit false

namespace FeedIngest.Delivery

variable {τ : Type}

/-! ## Jobs that stay where they are -/

private theorem ready_giveBack (b : Broker) (receipt : String) :
    b.queue.ready <+: (b.giveBack receipt).2.queue.ready := by
  unfold Broker.giveBack
  cases returned : b.queue.giveBack? receipt with
  | none => exact List.prefix_refl _
  | some queue =>
    obtain ⟨lease, _, rfl⟩ := Option.map_eq_some_iff.mp returned
    rw [(Channel.ring_queue _).1]
    exact List.prefix_append _ _

theorem ready_send {q after : MessageQueue} {payload : List UInt8}
    (sends : q.send? payload = some after) : q.ready <+: after.ready := by
  unfold MessageQueue.send? at sends
  split at sends
  · cases sends
  · rw [← Option.some.inj sends]
    exact List.prefix_append _ _

namespace Channel

def rests (c : Channel τ) : List Nat :=
  c.workers.filterMap fun w => match w.occupation with
    | .resting wakes => some wakes
    | _ => none

def stock (c : Channel τ) : List Job :=
  match c.supply with
  | .pool queue => queue.jobs
  | _ => []

private theorem stock_of_pool {c : Channel τ} {queue : JobQueue} (is : c.supply = .pool queue) :
    c.stock = queue.jobs := by rw [stock, is]

/-- A queue that is closed stays so, and messages that nobody has picked up stay at the broker. -/
structure Remains (c next : Channel τ) : Prop where
  pool : ∀ queue, c.supply = .pool queue → ∃ after, next.supply = .pool after ∧
    (queue.closed = true → after.closed = true ∧ (queue.blocked = [] → after.blocked = []))
  broker : ∀ b maxRedeliveries outages, c.supply = .broker b maxRedeliveries outages →
    ∃ after later, next.supply = .broker after maxRedeliveries later ∧
      b.queue.ready <+: after.queue.ready

section Remains

variable {c next last : Channel τ} {wakes : Nat}

theorem mem_rests : wakes ∈ c.rests ↔ ∃ w ∈ c.workers, w.occupation = .resting wakes := by
  simp only [rests, List.mem_filterMap]
  constructor
  · rintro ⟨w, works, has⟩
    refine ⟨w, works, ?_⟩
    cases is : w.occupation <;> simp_all
  · rintro ⟨w, works, has⟩
    exact ⟨w, works, by rw [has]⟩

theorem Remains.of_supply (same : next.supply = c.supply) : c.Remains next where
  pool queue is := ⟨queue, same.trans is, fun closed => ⟨closed, id⟩⟩
  broker b _ outages is := ⟨b, outages, same.trans is, List.prefix_refl _⟩

theorem Remains.of_broker {b after : Broker} {maxRedeliveries : Nat} {outages later : Outages}
    (is : c.supply = .broker b maxRedeliveries outages)
    (becomes : next.supply = .broker after maxRedeliveries later)
    (grows : b.queue.ready <+: after.queue.ready) : c.Remains next where
  pool queue isPool := by cases is.symm.trans isPool
  broker _ _ _ isToo := by
    cases is.symm.trans isToo
    exact ⟨after, later, becomes, grows⟩

theorem Remains.of_pool {queue after : JobQueue} (is : c.supply = .pool queue)
    (becomes : next.supply = .pool after)
    (closed : queue.closed = true → after.closed = true ∧ (queue.blocked = [] → after.blocked = [])) :
    c.Remains next where
  pool _ isToo := by
    cases is.symm.trans isToo
    exact ⟨after, becomes, closed⟩
  broker _ _ _ isBroker := by cases is.symm.trans isBroker

theorem Remains.trans (first : c.Remains next) (second : next.Remains last) : c.Remains last where
  pool queue is := by
    obtain ⟨between, isToo, closed⟩ := first.pool queue is
    obtain ⟨after, becomes, closedToo⟩ := second.pool between isToo
    refine ⟨after, becomes, fun shut => ?_⟩
    obtain ⟨shutToo, blocked⟩ := closed shut
    obtain ⟨shutAfter, blockedToo⟩ := closedToo shutToo
    exact ⟨shutAfter, blockedToo ∘ blocked⟩
  broker b maxRedeliveries outages is := by
    obtain ⟨between, later, isToo, grows⟩ := first.broker b maxRedeliveries outages is
    obtain ⟨after, last, becomes, growsToo⟩ := second.broker between maxRedeliveries later isToo
    exact ⟨after, last, becomes, grows.trans growsToo⟩

end Remains

section Steps

variable (c : Channel τ)

private theorem remains_withdraw (ticket : Nat) : c.Remains (c.withdraw ticket) := by
  unfold withdraw
  split
  · next queue is =>
    refine .of_pool is rfl fun closed => ⟨closed, fun none => ?_⟩
    rw [JobQueue.withdraw, none, List.filter_nil]
  · exact .of_supply rfl

private theorem remains_handOver (ticket : Nat) (job : Job) :
    c.Remains (c.handOver ticket job) := by
  cases is : c.supply with
  | pool queue =>
    cases full : queue.isFull with
    | false =>
      rw [handOver_accepted is full]
      exact .of_pool is rfl fun closed => ⟨closed, id⟩
    | true =>
      cases closed : queue.closed with
      | true =>
        rw [handOver_refused is closed full]
        exact .of_supply rfl
      | false =>
        rw [handOver_waits is closed full]
        refine .of_pool is rfl fun shut => ?_
        rw [closed] at shut
        cases shut
  | bus ring places =>
    constructor
    · intro queue isPool
      cases is.symm.trans isPool
    · intro b maxRedeliveries outages isBroker
      cases is.symm.trans isBroker
  | broker b maxRedeliveries outages =>
    unfold handOver
    rw [is]
    dsimp only
    split
    · exact .of_broker is rfl (List.prefix_refl _)
    · split
      · next called after sends => exact .of_broker is rfl (ready_send (send_cases sends).1)
      · exact .of_broker is rfl (List.prefix_refl _)

theorem remains_dismiss (id : Nat) : c.Remains (c.dismiss id) := by
  cases is : c.supply with
  | pool queue => exact .of_supply (by simp only [dismiss, is])
  | bus ring places =>
    constructor
    · intro queue isPool
      cases is.symm.trans isPool
    · intro b maxRedeliveries outages isBroker
      cases is.symm.trans isBroker
  | broker b maxRedeliveries outages =>
    have becomes : (c.dismiss id).supply = .broker (b.leave id) maxRedeliveries outages := by
      simp only [dismiss, is]
    exact .of_broker is becomes (List.prefix_refl _)

private theorem remains_abort (ids : List Nat) : c.Remains (c.abort ids) := by
  induction ids generalizing c with
  | nil => exact .of_supply rfl
  | cons id ids ih => exact (remains_dismiss c id).trans (ih _)

private theorem remains_closeBroker : c.Remains c.closeBroker := by
  unfold closeBroker
  split
  · next b maxRedeliveries outages is => exact .of_broker is rfl (List.prefix_refl _)
  · exact .of_supply rfl

private theorem remains_abandon : c.Remains c.abandon := by
  unfold abandon
  split
  · next queue is => exact .of_pool is rfl fun _ => ⟨rfl, id⟩
  · exact .of_supply rfl

private theorem remains_close : c.Remains c.close := by
  unfold close
  split <;> exact .of_supply rfl

private theorem remains_turnAway : c.Remains c.turnAway := by
  unfold turnAway
  split
  · next queue is => exact .of_pool is rfl fun _ => ⟨rfl, fun _ => rfl⟩
  · exact .of_supply rfl

private theorem remains_acknowledge (receipt : String) : c.Remains (c.acknowledge receipt) := by
  unfold acknowledge
  split
  · next b maxRedeliveries outages is =>
    split
    · exact .of_broker is rfl (List.prefix_refl _)
    · exact .of_broker is rfl (List.prefix_refl _)
  · exact .of_supply rfl

private theorem remains_giveBack (receipt : String) : c.Remains (c.giveBack receipt) := by
  unfold giveBack
  split
  · next b maxRedeliveries outages is =>
    split
    · exact .of_broker is rfl (List.prefix_refl _)
    · exact .of_broker is rfl (ready_giveBack b receipt)
  · exact .of_supply rfl

private theorem remains_finish (id : Nat) (task : Task) (result : Except Fault Unit) :
    c.Remains (c.finish id task result) := by
  have concludes : (c.occupy id .asking).Remains ((c.occupy id .asking).conclude task result) := by
    unfold conclude
    split
    · split
      · exact remains_acknowledge _ _
      · exact remains_giveBack _ _
    · exact .of_supply rfl
  have asks : c.Remains (c.occupy id .asking) := .of_supply rfl
  exact (asks.trans concludes).trans (.of_supply rfl)

private theorem remains_sendRaw? {next : Channel τ} {payload : List UInt8}
    (sends : c.sendRaw? payload = some next) : c.Remains next := by
  unfold sendRaw? at sends
  split at sends
  · next b maxRedeliveries outages is =>
    obtain ⟨⟨called, after⟩, accepted, rfl⟩ := Option.map_eq_some_iff.mp sends
    exact .of_broker is rfl (ready_send (send_cases accepted).1)
  · cases sends

end Steps

/-! ## Channels that let nobody in -/

structure Refuses (c : Channel τ) : Prop where
  closed : c.closed = true
  apart : c.supply.isBus = false
  queue : ∀ queue, c.supply = .pool queue → queue.closed = true ∧ queue.blocked = []

section Refuses

variable {c next : Channel τ}

private theorem Refuses.of_remains (refuses : c.Refuses) (remains : c.Remains next)
    (closed : next.closed = true) (isBus : next.supply.isBus = c.supply.isBus) : next.Refuses := by
  refine ⟨closed, isBus.trans refuses.apart, fun after isPool => ?_⟩
  cases is : c.supply with
  | bus ring places => cases is ▸ refuses.apart
  | pool queue =>
    obtain ⟨_, becomes, kept⟩ := remains.pool queue is
    cases becomes.symm.trans isPool
    obtain ⟨shut, blocked⟩ := kept (refuses.queue queue is).1
    exact ⟨shut, blocked (refuses.queue queue is).2⟩
  | broker b maxRedeliveries outages =>
    obtain ⟨_, _, becomes, _⟩ := remains.broker b maxRedeliveries outages is
    cases becomes.symm.trans isPool

theorem Refuses.of_broker {visibility maxRedeliveries : Nat}
    (brokered : c.Brokered visibility maxRedeliveries) (closed : c.closed = true) : c.Refuses := by
  obtain ⟨b, outages, is, _⟩ := brokered
  refine ⟨closed, by rw [is]; rfl, fun queue isPool => ?_⟩
  cases is.symm.trans isPool

theorem turnAway_refuses (closed : c.closed = true) (apart : c.supply.isBus = false) :
    c.turnAway.Refuses := by
  cases is : c.supply with
  | bus ring places => cases is ▸ apart
  | pool queue =>
    have turned : c.turnAway.supply = .pool queue.close.2 := by
      rw [turnAway, is]
    refine ⟨c.turnAway_delivers.keeps.closed closed, by rw [turned]; rfl, fun after isPool => ?_⟩
    cases turned.symm.trans isPool
    exact ⟨rfl, rfl⟩
  | broker b maxRedeliveries outages =>
    have same : c.turnAway = c := by rw [turnAway, is]
    rw [same]
    exact .of_broker ⟨b, outages, is, rfl⟩ closed

theorem closed_close (apart : c.supply.isBus = false) : c.close.closed = true := by
  unfold Channel.close
  split
  · next ring places is => cases is ▸ apart
  · rfl

theorem Refuses.admits (refuses : c.Refuses) : c.admits = false := by
  unfold Channel.admits
  cases is : c.supply with
  | bus ring places => cases is ▸ refuses.apart
  | pool queue => rw [refuses.closed]; rfl
  | broker b maxRedeliveries outages => rw [refuses.closed]; rfl

theorem Refuses.consume (refuses : c.Refuses) (crew : Nat) :
    c.consume crew = .error .channelClosed := by
  rw [Channel.consume, if_pos refuses.closed]

theorem Refuses.promised (refuses : c.Refuses) : c.promised = [] := by
  unfold Channel.promised
  split
  · next queue is => rw [JobQueue.promised, (refuses.queue queue is).2, List.take_nil]
  · rfl

/-- Who looks at the broker of a channel leaves it there. -/
theorem brokered_look {b : Broker} {maxRedeliveries : Nat} {outages : Outages}
    (is : c.supply = .broker b maxRedeliveries outages) (order : List Lease) (now : Nat)
    (w : Worker τ) : (c.fetchAfter order now w).2.Brokered b.visibility maxRedeliveries := by
  have brokered : c.Brokered b.visibility maxRedeliveries := ⟨b, outages, is, rfl⟩
  exact (fetchAfter_cases brokered order now w).1.brokered _ _ brokered

end Refuses

def Carries (c next : Channel τ) : Prop :=
  ∀ w ∈ next.workers, ∃ old ∈ c.workers, old.id = w.id ∧ old.dismissed = w.dismissed

section Carries

variable {c next last : Channel τ}

theorem Carries.refl (c : Channel τ) : c.Carries c := fun w works => ⟨w, works, rfl, rfl⟩

theorem Carries.trans (first : c.Carries next) (second : next.Carries last) : c.Carries last := by
  intro w works
  obtain ⟨between, worked, same, alike⟩ := second w works
  obtain ⟨old, there, sameToo, alikeToo⟩ := first between worked
  exact ⟨old, there, sameToo.trans same, alikeToo.trans alike⟩

theorem Delivers.carries (moved : c.Delivers next) : c.Carries next :=
  fun w works => ⟨w, moved.workers ▸ works, rfl, rfl⟩

theorem Carries.occupy (c : Channel τ) (id : Nat) (occupation : Occupation τ) :
    c.Carries (c.occupy id occupation) := by
  intro w works
  obtain ⟨old, worked, rfl⟩ := List.mem_map.mp works
  refine ⟨old, worked, ?_⟩
  split <;> exact ⟨rfl, rfl⟩

private theorem Carries.dismiss (c : Channel τ) (id : Nat) : c.Carries (c.dismiss id) :=
  fun w works => ⟨w, List.mem_of_mem_filter works, rfl, rfl⟩

private theorem Carries.abort (c : Channel τ) (ids : List Nat) : c.Carries (c.abort ids) :=
  fun w works => ⟨w, workers_abort c ids works, rfl, rfl⟩

private theorem Carries.heed (c : Channel τ) (id : Nat) {fetch : Fetch}
    (nothing : fetch.task? = none) :
    c.Carries (c.heed id fetch) := by
  rcases heed_cases c id nothing with same | ⟨occupation, _, moved⟩
  · rw [same]
    exact .dismiss c id
  · exact (Carries.occupy c id occupation).trans moved.carries

end Carries

end Channel

namespace LiveChannel

variable {d next : LiveChannel τ}

/-- What a step does to the jobs that nobody has picked up, when nobody is let in. -/
theorem Step.remains (step : Step d next) (refuses : d.channel.Refuses) :
    d.channel.Remains next.channel ∨
      (∃ w ∈ d.channel.workers, w.dismissed = false) ∧ next.channel.Refuses := by
  have closed := step.lasts.closed refuses.closed
  cases step with
  | approach => exact .inl (.of_supply rfl)
  | refuse => exact .inl (.of_supply rfl)
  | handOver => exact .inl (d.channel.remains_handOver _ _)
  | withdraw ticket => exact .inl (d.channel.remains_withdraw ticket)
  | @wake _ _ _ p => exact .inl (d.channel.remains_withdraw p.ticket)
  | enter promised =>
    rw [refuses.promised] at promised
    cases promised
  | sendRaw sends => exact .inl (d.channel.remains_sendRaw? sends)
  | closeBroker => exact .inl d.channel.remains_closeBroker
  | consume => exact .inl (.of_supply rfl)
  | @enlist crew =>
    refine .inl ⟨fun queue is => ?_, fun b maxRedeliveries outages is => ?_⟩
    · have same : (d.channel.enlist crew).supply = .pool queue := by rw [Channel.enlist, is]
      exact ⟨queue, same, fun closed => ⟨closed, id⟩⟩
    · have same : (d.channel.enlist crew).supply = .broker b maxRedeliveries outages := by
        rw [Channel.enlist, is]
      exact ⟨b, outages, same, List.prefix_refl _⟩
  | register => exact .inl (.of_supply rfl)
  | @look w order works free ended nothing =>
    cases stays : w.dismissed with
    | true =>
      have leaves : d.channel.fetchAfter order d.now w = (.ends, d.channel) := if_pos stays
      rw [leaves]
      exact .inl (d.channel.remains_dismiss w.id)
    | false =>
      cases is : d.channel.supply with
      | bus ring places => cases is ▸ refuses.apart
      | pool queue =>
        obtain ⟨_, found⟩ := Channel.fetchAfter_nothing is stays nothing
        rw [found]
        split
        · exact .inl (d.channel.remains_dismiss w.id)
        · exact .inl (.of_supply rfl)
      | broker b maxRedeliveries outages =>
        have brokered := Channel.brokered_look is order d.now w
        exact .inr ⟨⟨w, works, stays⟩,
          .of_broker ((Channel.quiet_heed _ w.id nothing).brokered _ _ brokered) closed⟩
  | @take w queue rest job works free stays is first wakes stage =>
    refine .inr ⟨⟨w, works, stays⟩, closed, rfl, fun after isPool => ?_⟩
    cases isPool
    unfold JobQueue.next? at first
    split at first
    · cases first
    · cases first
      exact refuses.queue queue is
  | @begin w order task works free ended apart found wakes stage =>
    cases is : d.channel.supply with
    | bus ring places => cases is ▸ refuses.apart
    | pool queue => exact absurd is (apart queue)
    | broker b maxRedeliveries outages =>
      have brokered := Channel.brokered_look is order d.now w
      exact .inr ⟨⟨w, works, stays_of_found found⟩, .of_broker brokered closed⟩
  | goOn => exact .inl (.of_supply rfl)
  | finish => exact .inl (d.channel.remains_finish _ _ _)
  | abandon => exact .inl d.channel.remains_abandon
  | stop => exact .inl d.channel.remains_close
  | turnAway => exact .inl d.channel.remains_turnAway
  | tell => exact .inl (.of_supply rfl)
  | claim => exact .inl (.of_supply rfl)
  | drained => exact .inl (.of_supply rfl)
  | giveUp => exact .inl (d.channel.remains_abort _)
  | pass => exact .inl (.of_supply rfl)

/-- What a step does to the queue of a pool: a job is accepted, or somebody may take one. -/
theorem Step.stock_cases (step : Step d next) (pool : d.channel.supply.kind = .pool) :
    (next.channel.stock = d.channel.stock ∧ next.accepted = d.accepted) ∨
      (∃ p : Publisher, next.channel.stock = d.channel.stock ++ [p.job] ∧
        next.accepted = d.accepted ++ [p]) ∨
      ∃ w ∈ d.channel.workers, w.dismissed = false := by
  obtain ⟨queue, is⟩ := Supply.exists_of_kind pool
  have kept : ∀ after : JobQueue, next.channel.supply = .pool after → after.jobs = queue.jobs →
      next.channel.stock = d.channel.stock := fun _ becomes same => by
    rw [Channel.stock_of_pool becomes, Channel.stock_of_pool is, same]
  cases step with
  | approach => exact .inl ⟨kept queue is rfl, rfl⟩
  | refuse => exact .inl ⟨kept queue is rfl, rfl⟩
  | @handOver p among =>
    cases full : queue.isFull with
    | false =>
      have accepts := Channel.handOver_accepted is full p.ticket p.job
      refine .inr (.inl ⟨p, ?_, ?_⟩)
      · rw [Channel.stock_of_pool is, LiveChannel.handOver, hear, accepts]
        rfl
      · rw [LiveChannel.handOver, hear, accepts]
        exact if_pos rfl
    | true =>
      refine .inl ?_
      cases closed : queue.closed with
      | true =>
        have refused := Channel.handOver_refused is closed full p.ticket p.job
        refine ⟨kept queue ?_ rfl, ?_⟩
        · rw [LiveChannel.handOver, hear, refused]
          exact is
        · rw [LiveChannel.handOver, hear, refused]
          exact if_neg fun same => by cases List.append_cancel_left same
      | false =>
        have waits := Channel.handOver_waits is closed full p.ticket p.job
        refine ⟨kept { queue with blocked := queue.blocked ++ [p] } ?_ rfl, ?_⟩
        · rw [LiveChannel.handOver, hear, waits]
        · rw [LiveChannel.handOver, hear, waits]
          exact if_neg fun same => by simp at same
  | withdraw ticket =>
    refine .inl ⟨kept (queue.withdraw ticket) ?_ rfl, rfl⟩
    rw [LiveChannel.withdraw, Channel.withdraw, is]
  | @wake _ _ _ p =>
    refine .inl ⟨kept (queue.withdraw p.ticket) ?_ rfl, rfl⟩
    rw [LiveChannel.wake, Channel.withdraw, is]
  | @enter p promised =>
    refine .inr (.inl ⟨p, ?_, rfl⟩)
    rw [Channel.stock_of_pool is, LiveChannel.enter, Channel.enter, is]
    rfl
  | sendRaw sends =>
    rw [Channel.sendRaw?, is] at sends
    cases sends
  | closeBroker =>
    refine .inl ⟨kept queue ?_ rfl, rfl⟩
    show d.channel.closeBroker.supply = _
    rw [Channel.closeBroker, is]
    exact is
  | consume => exact .inl ⟨kept queue is rfl, rfl⟩
  | enlist =>
    refine .inl ⟨kept queue ?_ rfl, rfl⟩
    rw [LiveChannel.enlist, Channel.enlist, is]
  | register => exact .inl ⟨kept queue is rfl, rfl⟩
  | @look w order works free ended nothing =>
    cases stays : w.dismissed with
    | false => exact .inr (.inr ⟨w, works, stays⟩)
    | true =>
      have leaves : d.channel.fetchAfter order d.now w = (.ends, d.channel) := if_pos stays
      rw [leaves]
      refine .inl ⟨?_, rfl⟩
      show (d.channel.dismiss w.id).stock = _
      rw [Channel.stock_of_pool (Channel.supply_dismiss is w.id), Channel.stock_of_pool is]
  | take works free stays => exact .inr (.inr ⟨_, works, stays⟩)
  | begin works free ended apart => exact absurd is (apart queue)
  | goOn => exact .inl ⟨kept queue is rfl, rfl⟩
  | @finish w task works busy result =>
    have concluded := Channel.conclude_pool (c := d.channel.occupy w.id .asking) is task result
    refine .inl ⟨kept queue ?_ rfl, rfl⟩
    rw [LiveChannel.finish, Channel.finish, concluded]
    exact is
  | abandon =>
    refine .inl ⟨kept queue.abandon ?_ rfl, rfl⟩
    show d.channel.abandon.supply = _
    rw [Channel.abandon, is]
    rfl
  | stop =>
    refine .inl ⟨kept queue ?_ rfl, rfl⟩
    rw [LiveChannel.stop, Channel.close, is]
  | turnAway =>
    refine .inl ⟨kept queue.close.2 ?_ rfl, rfl⟩
    rw [LiveChannel.turnAway, Channel.turnAway, is]
  | tell => exact .inl ⟨kept queue is rfl, rfl⟩
  | claim => exact .inl ⟨kept queue is rfl, rfl⟩
  | drained => exact .inl ⟨kept queue is rfl, rfl⟩
  | @giveUp _ _ workers => exact .inl ⟨kept queue (Channel.supply_abort is workers) rfl, rfl⟩
  | pass => exact .inl ⟨kept queue is rfl, rfl⟩

theorem refuses_step (refuses : d.channel.Refuses) (step : Step d next) : next.channel.Refuses := by
  rcases step.remains refuses with remains | ⟨_, refusesToo⟩
  · exact refuses.of_remains remains (step.lasts.closed refuses.closed) step.lasts.isBus
  · exact refusesToo

theorem refuses_of_run (refuses : d.channel.Refuses) (run : Run d next) : next.channel.Refuses := by
  induction run with
  | refl => exact refuses
  | tail _ last ih => exact refuses_step ih last

theorem publish_refused (refuses : d.channel.Refuses) (ticket : Nat) (job : Job) :
    d.publish ticket job =
      { d with channel := d.channel.answer ticket (.error .channelClosed) } := by
  have refused :
      d.channel.publish ticket job = d.channel.answer ticket (.error .channelClosed) := by
    rw [Channel.publish, refuses.admits]
    rfl
  have apart : (d.channel.answer ticket (.error .channelClosed)).answers ≠
      d.channel.answers ++ [(ticket, .ok ())] := by
    intro same
    cases List.append_cancel_left same
  rw [publish, refused, hear, if_neg apart]

/-- What calls to stop have done to a channel that is no bus. -/
structure Heeded (d : LiveChannel τ) : Prop where
  apart : d.channel.supply.isBus = false
  closed : d.calls ≠ [] → d.channel.closed = true
  refuses : ∀ call ∈ d.calls, call.stage ≠ .closed → d.channel.Refuses

theorem opening_heeded {channel : Channel τ} (apart : channel.supply.isBus = false) :
    (opening channel).Heeded := ⟨apart, fun called => absurd rfl called, nofun⟩

theorem Heeded.step (heeded : d.Heeded) (step : Step d next) : next.Heeded := by
  have old : ∀ call ∈ d.calls, call.stage ≠ .closed → next.channel.Refuses :=
    fun call made further => refuses_step (heeded.refuses call made further) step
  have closed : d.calls ≠ [] → next.channel.closed = true := fun called =>
    step.lasts.closed (heeded.closed called)
  have among : ∀ {i : Nat} {call : StopCall}, d.calls[i]? = some call → d.calls ≠ [] :=
    fun found => List.ne_nil_of_mem (List.mem_of_getElem? found)
  -- A call that has got further than to close the channel was there before, or turns away now.
  have further : ∀ {i : Nat} {call : StopCall} {stage : Stage}, d.calls[i]? = some call →
      call.stage = stage → stage ≠ .closed → next.channel.Refuses :=
    fun found is further => old _ (List.mem_of_getElem? found) (is ▸ further)
  refine ⟨step.lasts.isBus.trans heeded.apart, ?_, ?_⟩
  · cases step with
    | stop => exact fun _ => Channel.closed_close heeded.apart
    | turnAway found => exact fun _ => closed (among found)
    | tell found => exact fun _ => closed (among found)
    | claim found => exact fun _ => closed (among found)
    | drained found => exact fun _ => closed (among found)
    | giveUp found => exact fun _ => closed (among found)
    | _ => exact closed
  · cases step with
    | stop =>
      intro call made on
      rcases List.mem_append.mp made with known | new
      · exact old call known on
      · rw [List.mem_singleton.mp new] at on
        exact absurd rfl on
    | turnAway found =>
      exact fun _ _ _ => Channel.turnAway_refuses (heeded.closed (among found)) heeded.apart
    | tell found is => exact fun _ _ _ => further found is nofun
    | claim found is => exact fun _ _ _ => further found is nofun
    | drained found is => exact fun _ _ _ => further found is nofun
    | giveUp found is => exact fun _ _ _ => further found is nofun
    | _ => exact old

theorem heeded_of_run {channel : Channel τ} (apart : channel.supply.isBus = false)
    (run : Run (opening channel) d) : d.Heeded := by
  induction run with
  | refl => exact opening_heeded apart
  | tail _ last ih => exact ih.step last

/-! ## What gets through -/

/-- Nobody but those who were let in before is told that his job is accepted. -/
theorem Step.accepted_of_refuses (step : Step d next) (refuses : d.channel.Refuses) :
    ∃ more, next.accepted = d.accepted ++ more ∧
      (more ++ next.publishing).Subperm d.publishing := by
  have same : d.accepted = d.accepted ++ [] := (List.append_nil _).symm
  cases step with
  | approach ticket job admitted =>
    rw [refuses.admits] at admitted
    cases admitted
  | @handOver p among =>
    have rest := (List.perm_cons_erase among).symm.subperm
    unfold LiveChannel.handOver hear
    dsimp only
    split
    · exact ⟨[p], rfl, rest⟩
    · exact ⟨[], same, List.erase_sublist.subperm⟩
  | withdraw ticket => exact ⟨[], same, List.filter_sublist.subperm⟩
  | wake found closed is waits =>
    rw [(refuses.queue _ is).2] at waits
    cases waits
  | enter promised =>
    rw [refuses.promised] at promised
    cases promised
  | _ => exact ⟨[], same, .refl _⟩

theorem accepted_of_run (refuses : d.channel.Refuses) (run : Run d next) :
    ∃ more, next.accepted = d.accepted ++ more ∧
      (more ++ next.publishing).Subperm d.publishing := by
  induction run with
  | refl => exact ⟨[], (List.append_nil _).symm, .refl _⟩
  | tail before last ih =>
    obtain ⟨more, accepted, among⟩ := ih
    obtain ⟨new, acceptedToo, amongToo⟩ := last.accepted_of_refuses (refuses_of_run refuses before)
    refine ⟨more ++ new, by rw [acceptedToo, accepted, List.append_assoc], ?_⟩
    rw [List.append_assoc]
    exact ((List.subperm_append_left more).mpr amongToo).trans among

def begun (d : LiveChannel τ) : List (Nat × Task) := d.handed.map fun h => (h.worker, h.task)

/-- A worker was not told to go, or has not even begun. -/
def Untold (d : LiveChannel τ) (id : Nat) : Prop :=
  d.channel.hired ≤ id ∨ ∃ w ∈ d.channel.workers, w.id = id ∧ w.dismissed = false

/-- A worker who is there was told to go, or begins now, or was there before and was not told. -/
theorem Step.worker_cases (step : Step d next) {w : Worker τ} (works : w ∈ next.channel.workers) :
    w.dismissed = true ∨ d.recruits ≠ [] ∧ w.id = d.channel.hired ∨
      ∃ old ∈ d.channel.workers, old.id = w.id ∧ old.dismissed = w.dismissed := by
  have same : ∀ {last : Channel τ}, d.channel.Carries last → w ∈ last.workers →
      w.dismissed = true ∨ d.recruits ≠ [] ∧ w.id = d.channel.hired ∨
        ∃ old ∈ d.channel.workers, old.id = w.id ∧ old.dismissed = w.dismissed :=
    fun carries works => .inr (.inr (carries w works))
  cases step with
  | approach => exact same (.refl _) works
  | refuse => exact same (.refl _) works
  | handOver => exact same (d.channel.handOver_delivers _ _).carries works
  | withdraw ticket => exact same (d.channel.withdraw_delivers ticket).carries works
  | @wake _ _ _ p => exact same (d.channel.withdraw_delivers p.ticket).carries works
  | enter => exact same (d.channel.enter_delivers _).carries works
  | sendRaw sends => exact same (d.channel.sendRaw?_delivers sends).carries works
  | closeBroker => exact same d.channel.closeBroker_delivers.carries works
  | consume => exact same (.refl _) works
  | enlist comes =>
    rcases List.mem_append.mp works with old | new
    · exact .inr (.inr ⟨w, old, rfl, rfl⟩)
    · rw [List.mem_singleton.mp new]
      exact .inr (.inl ⟨List.ne_nil_of_mem comes, rfl⟩)
  | register => exact same (.refl _) works
  | look _ _ _ nothing =>
    exact same ((d.channel.fetchAfter_delivers _ _ _).carries.trans (.heed _ _ nothing)) works
  | take => exact same (.occupy d.channel _ _) works
  | begin => exact same ((d.channel.fetchAfter_delivers _ _ _).carries.trans (.occupy _ _ _)) works
  | goOn => exact same (.occupy d.channel _ _) works
  | finish =>
    exact same (.trans (.occupy d.channel _ _) (d.channel.finish_delivers _ _ _).carries) works
  | abandon => exact same (fun w works => ⟨w, d.channel.workers_abandon ▸ works, rfl, rfl⟩) works
  | stop => exact same (fun w works => ⟨w, d.channel.workers_close ▸ works, rfl, rfl⟩) works
  | turnAway => exact same d.channel.turnAway_delivers.carries works
  | tell =>
    obtain ⟨_, _, rfl⟩ := List.mem_map.mp works
    exact .inl rfl
  | claim => exact same (.refl _) works
  | drained => exact same (.refl _) works
  | giveUp => exact same (.abort _ _) works
  | pass => exact same (.refl _) works

theorem Untold.of_step {id : Nat} (untold : next.Untold id) (step : Step d next) : d.Untold id := by
  rcases untold with new | ⟨w, works, rfl, stays⟩
  · exact .inl (Nat.le_trans step.hired_le new)
  · rcases step.worker_cases works with told | ⟨_, new⟩ | ⟨old, worked, same, alike⟩
    · rw [stays] at told
      cases told
    · exact .inl (Nat.le_of_eq new.symm)
    · exact .inr ⟨old, worked, same, alike.trans stays⟩

theorem Untold.of_run {id : Nat} (untold : next.Untold id) (run : Run d next) : d.Untold id := by
  induction run with
  | refl => exact untold
  | tail _ last ih => exact ih (untold.of_step last)

/-- Only who was not told to go takes up a task. -/
theorem Step.begun_cases (step : Step d next) (staffed : d.Staffed) : next.begun = d.begun ∨
    ∃ w ∈ d.channel.workers, w.dismissed = false ∧ ∃ task, next.begun = d.begun ++ [(w.id, task)] := by
  cases staffed.handing step with
  | keeps _ handed => exact .inl (by rw [begun, handed, begun])
  | takes w task works stays _ _ handed =>
    exact .inr ⟨w, works, stays, task, by rw [begun, handed, List.map_append]; rfl⟩
  | ends id _ _ result _ handed =>
    refine .inl ?_
    rw [begun, handed, List.map_map]
    refine List.map_congr_left fun h _ => ?_
    obtain ⟨worker, task⟩ := h.endedBy_worker id d.now result
    rw [Function.comp_apply, worker, task]
  | givesUp _ _ _ _ handed => exact .inl (by rw [begun, handed, begun])

theorem begun_of_run (staffed : d.Staffed) (run : Run d next) :
    ∃ more, next.begun = d.begun ++ more ∧ ∀ b ∈ more, d.Untold b.1 := by
  induction run with
  | refl => exact ⟨[], (List.append_nil _).symm, nofun⟩
  | tail before last ih =>
    obtain ⟨more, begun, untold⟩ := ih
    rcases last.begun_cases (staffed.run before) with same | ⟨w, works, stays, task, taken⟩
    · exact ⟨more, same.trans begun, untold⟩
    · refine ⟨more ++ [(w.id, task)], by rw [taken, begun, List.append_assoc], ?_⟩
      intro b member
      rcases List.mem_append.mp member with old | new
      · exact untold b old
      · rw [List.mem_singleton.mp new]
        exact Untold.of_run (.inr ⟨w, works, rfl, stays⟩) before

/-! ## When no call to consume is under way -/

structure Dismissed (d : LiveChannel τ) : Prop where
  refuses : d.channel.Refuses
  told : ∀ w ∈ d.channel.workers, w.dismissed = true
  noneComes : d.NoneComes

theorem Dismissed.step (dismissed : d.Dismissed) (step : Step d next) : next.Dismissed := by
  refine ⟨refuses_step dismissed.refuses step, fun w works => ?_,
    dismissed.noneComes.step dismissed.refuses.closed step⟩
  rcases step.worker_cases works with told | ⟨comes, _⟩ | ⟨old, worked, _, alike⟩
  · exact told
  · exact absurd dismissed.noneComes.recruits comes
  · exact alike ▸ dismissed.told old worked

theorem Dismissed.run (dismissed : d.Dismissed) (run : Run d next) : next.Dismissed := by
  induction run with
  | refl => exact dismissed
  | tail _ last ih => exact ih.step last

private theorem Dismissed.begun_eq (dismissed : d.Dismissed) (staffed : d.Staffed)
    (step : Step d next) :
    next.begun = d.begun := by
  rcases step.begun_cases staffed with same | ⟨w, works, stays, _⟩
  · exact same
  · rw [dismissed.told w works] at stays
    cases stays

private theorem Dismissed.remains (dismissed : d.Dismissed) (step : Step d next) :
    d.channel.Remains next.channel := by
  rcases step.remains dismissed.refuses with remains | ⟨⟨w, works, stays⟩, _⟩
  · exact remains
  · rw [dismissed.told w works] at stays
    cases stays

/-- What is in the queue of a pool stays there, and what is accepted comes to it. -/
theorem Dismissed.stock (dismissed : d.Dismissed) (pool : d.channel.supply.kind = .pool)
    (run : Run d next) : ∃ more, next.accepted = d.accepted ++ more ∧
      next.channel.stock = d.channel.stock ++ more.map (·.job) := by
  induction run with
  | refl => exact ⟨[], (List.append_nil _).symm, (List.append_nil _).symm⟩
  | @tail between last before step ih =>
    obtain ⟨more, accepted, stock⟩ := ih
    have still := dismissed.run before
    rcases step.stock_cases ((lasts_of_run before).kind.trans pool) with
      ⟨same, nobody⟩ | ⟨p, comes, new⟩ | ⟨w, works, stays⟩
    · exact ⟨more, nobody.trans accepted, same.trans stock⟩
    · refine ⟨more ++ [p], ?_, ?_⟩
      · rw [new, accepted, List.append_assoc]
      · rw [comes, stock, List.map_append, List.append_assoc]
        rfl
    · rw [still.told w works] at stays
      cases stays

/-- Nothing is handed out, and messages stay where they are. -/
theorem Dismissed.settled (dismissed : d.Dismissed) (staffed : d.Staffed) (run : Run d next) :
    next.begun = d.begun ∧ d.channel.Remains next.channel := by
  induction run with
  | refl => exact ⟨rfl, .of_supply rfl⟩
  | tail before last ih =>
    obtain ⟨begun, remains⟩ := ih
    have still := dismissed.run before
    exact ⟨(still.begun_eq (staffed.run before) last).trans begun,
        remains.trans (still.remains last)⟩

inductive AfterDismissal (d next : LiveChannel τ) : Prop where
  | aside (workers : next.channel.workers = d.channel.workers)
      (keeps : d.channel.Keeps next.channel) (handed : next.handed = d.handed)
      (calls : next.calls = d.calls ∨
        ∃ new : StopCall, new.stage.isEarly = true ∧ next.calls = d.calls ++ [new])
      (now : next.now = d.now)
  | leaves (w : Worker τ) (works : w ∈ d.channel.workers)
      (free : w.occupation.isFreeAt d.now = true)
      (is : next = { d with channel := d.channel.dismiss w.id })
  | goesOn (w : Worker τ) (task : Task) (works : w ∈ d.channel.workers)
      (busy : w.occupation.task? = some task) (wakes : Option Nat) (stage : τ)
      (is : next = { d with channel := d.channel.occupy w.id (.busy task wakes stage) })
  | ends (w : Worker τ) (task : Task) (works : w ∈ d.channel.workers)
      (busy : w.occupation.task? = some task) (result : Except Fault Unit)
      (is : next = d.finish w.id task result)
  /-- A call to stop gets on, and does not wait yet. -/
  | proceeds (i : Nat) (call : StopCall) (found : d.calls[i]? = some call)
      (early : call.stage.isEarly = true) (stage : Stage) (still : stage.isEarly = true)
      (workers : next.channel.workers = d.channel.workers)
      (keeps : d.channel.Keeps next.channel) (handed : next.handed = d.handed)
      (calls : next.calls = d.calls.modify i (StopCall.reach stage)) (now : next.now = d.now)
  | claims (i : Nat) (call : StopCall) (found : d.calls[i]? = some call)
      (told : call.stage = .told) (is : next = d.claim i)
  | drained (i : Nat) (call : StopCall) (workers : List Nat) (found : d.calls[i]? = some call)
      (waits : call.stage = .waits workers) (ended : d.channel.haveEnded workers = true)
      (is : next = d.reply i (.ok ()))
  | givesUp (i : Nat) (call : StopCall) (workers : List Nat) (found : d.calls[i]? = some call)
      (waits : call.stage = .waits workers) (late : call.limit ≤ d.now)
      (is : next =
        { d with channel := d.channel.abort workers }.reply i (.error Channel.drainTimeout))
  | passes (span : Nat) (still : d.Still span) (is : next = { d with now := d.now + span })

private theorem AfterDismissal.of_delivers (moved : d.channel.Delivers next.channel)
    (handed : next.handed = d.handed) (calls : next.calls = d.calls) (now : next.now = d.now) :
    AfterDismissal d next := .aside moved.workers moved.keeps handed (.inl calls) now

theorem Dismissed.step_cases (dismissed : d.Dismissed) (step : Step d next) :
    AfterDismissal d next := by
  cases step with
  | approach => exact .of_delivers (.refl _) rfl rfl rfl
  | refuse => exact .of_delivers (.of_supply rfl) rfl rfl rfl
  | handOver => exact .of_delivers (d.channel.handOver_delivers _ _) rfl rfl rfl
  | withdraw ticket => exact .of_delivers (d.channel.withdraw_delivers ticket) rfl rfl rfl
  | @wake _ _ _ p => exact .of_delivers (d.channel.withdraw_delivers p.ticket) rfl rfl rfl
  | enter => exact .of_delivers (d.channel.enter_delivers _) rfl rfl rfl
  | sendRaw sends => exact .of_delivers (d.channel.sendRaw?_delivers sends) rfl rfl rfl
  | closeBroker => exact .of_delivers d.channel.closeBroker_delivers rfl rfl rfl
  | consume => exact .of_delivers (.refl _) rfl rfl rfl
  | enlist comes =>
    rw [dismissed.noneComes.recruits] at comes
    cases comes
  | register new =>
    rw [dismissed.noneComes.newcomers] at new
    cases new
  | @look w order works free ended nothing =>
    have leaves : d.channel.fetchAfter order d.now w = (.ends, d.channel) :=
      if_pos (dismissed.told w works)
    rw [leaves]
    exact .leaves w works free rfl
  | take works free stays =>
    rw [dismissed.told _ works] at stays
    cases stays
  | begin works free ended apart found =>
    have stays := stays_of_found found
    rw [dismissed.told _ works] at stays
    cases stays
  | goOn works busy wakes stage => exact .goesOn _ _ works busy wakes stage rfl
  | finish works busy result => exact .ends _ _ works busy result rfl
  | abandon => exact .aside d.channel.workers_abandon d.channel.keeps_abandon rfl (.inl rfl) rfl
  | stop =>
    exact .aside d.channel.workers_close d.channel.keeps_close rfl
      (.inr ⟨_, rfl, rfl⟩) rfl
  | turnAway found closed =>
    have moved := d.channel.turnAway_delivers
    exact .proceeds _ _ found (by rw [closed]; rfl) .turnedAway rfl moved.workers moved.keeps rfl rfl
      rfl
  | tell found turnedAway =>
    have already : d.channel.tell.workers = d.channel.workers := by
      refine (List.map_congr_left fun w works => ?_).trans (List.map_id _)
      rw [← dismissed.told w works]
      rfl
    exact .proceeds _ _ found (by rw [turnedAway]; rfl) .told rfl already d.channel.keeps_tell rfl rfl
      rfl
  | claim found told => exact .claims _ _ found told rfl
  | drained found waits ended => exact .drained _ _ _ found waits ended rfl
  | giveUp found waits late => exact .givesUp _ _ _ found waits late rfl
  | pass still => exact .passes _ still rfl

end LiveChannel

end FeedIngest.Delivery
