import FeedIngest.Proofs.Delivery.LoggedChannel
import FeedIngest.Proofs.Time.Clockwork

/-!
# Workshops are runs

Whatever a workshop does, its channel goes through the steps of a logged channel, so that all that
holds in every run of these holds of every workshop, whatever its handlers are.
-/

set_option autoImplicit false

namespace FeedIngest.Delivery

variable {σ τ : Type}

def Channel.Leads (c next : Channel τ) : Prop :=
  ∀ d : LoggedChannel τ, d.channel = c → ∃ later, LoggedChannel.Run d later ∧ later.channel = next

namespace Channel.Leads

variable {c next : Channel τ}

theorem refl (c : Channel τ) : c.Leads c := fun d is => ⟨d, .refl, is⟩

theorem trans {last : Channel τ} (first : c.Leads next) (second : next.Leads last) :
    c.Leads last := by
  intro d is
  obtain ⟨middle, run, is⟩ := first d is
  obtain ⟨later, onward, is⟩ := second middle is
  exact ⟨later, Relation.ReflTransGen.trans run onward, is⟩

/-- Only the turns and the answers change. -/
theorem arrange (c : Channel τ) (turns : List Nat) (answers : List (Nat × Except Fault Unit)) :
    c.Leads { c with turns, answers } := by
  rintro ⟨_, published, begun, ended⟩ rfl
  exact ⟨_, .single (.arrange turns answers), rfl⟩

end Channel.Leads

namespace Workshop

variable {s : Workshop σ τ} {w : Worker τ}

/-- A worker who has a task goes on with it or ends it. -/
theorem leads_advance (works : w ∈ s.channel.workers) {task : Task}
    (busy : w.occupation.task? = some task) (progress : Progress τ) :
    s.channel.Leads (advance w task progress s).channel := by
  rintro ⟨_, published, begun, ended⟩ rfl
  cases progress with
  | waits moment stage => exact ⟨_, .single (.goOn works busy moment stage), rfl⟩
  | done result => exact ⟨_, .single (.finish works busy result), rfl⟩

private theorem occupy_occupy (c : Channel τ) (id : Nat) (first second : Occupation τ) :
    (c.occupy id first).occupy id second = c.occupy id second := by
  unfold Channel.occupy
  simp only [List.map_map, Channel.mk.injEq, true_and, and_true]
  refine List.map_congr_left ?_
  intro worker _
  by_cases same : worker.id = id <;> simp [same]

/-- A worker finds no task, and goes where that leads him. -/
theorem leads_look {c : Channel τ} (now : Nat) (works : w ∈ c.workers)
    (free : w.occupation.task? = none) (nothing : (c.fetch now w).1.task? = none) :
    c.Leads ((c.fetch now w).2.heed w.id (c.fetch now w).1) := by
  rintro ⟨_, published, begun, ended⟩ rfl
  exact ⟨_, .single (.look works free (.refl _) nothing), rfl⟩

/-- A worker finds a task. He may end it at once. -/
theorem leads_found [Nonempty τ] {c : Channel τ} (now : Nat) (works : w ∈ c.workers)
    (free : w.occupation.task? = none) {task : Task} (found : (c.fetch now w).1 = .task task)
    (progress : Progress τ) (state : σ) :
    c.Leads (advance w task progress ⟨(c.fetch now w).2, state⟩).channel := by
  rintro ⟨c, published, begun, ended⟩ rfl
  cases progress with
  | waits moment stage => exact ⟨_, .single (.begin works free (.refl _) found moment stage), rfl⟩
  | done result =>
    obtain ⟨stage⟩ := ‹Nonempty τ›
    have begins :=
      LoggedChannel.Step.begin (d := ⟨_, published, begun, ended⟩) works free (.refl _) found
      none stage
    -- In between he has the task in hand.
    have worksStill : { w with occupation := .busy task none stage } ∈
        ((c.fetch now w).2.occupy w.id (.busy task none stage)).workers := by
      refine List.mem_map.mpr ⟨w, ?_, by simp⟩
      rw [Channel.fetch, Channel.fetchAfter_workers]
      exact works
    refine ⟨_, .tail (.single begins) (.finish worksStill rfl result), ?_⟩
    simp only [Channel.finish, occupy_occupy]
    rfl

private theorem leads_seek [Nonempty τ] (h : Handler σ τ) (now : Nat)
    (works : w ∈ s.channel.workers) (free : w.occupation.task? = none) :
    s.channel.Leads (seek h now w s).channel := by
  have looks := leads_look now works free
  have finds : ∀ task, (s.channel.fetch now w).1 = .task task → ∀ progress (state : σ),
      s.channel.Leads (advance w task progress ⟨(s.channel.fetch now w).2, state⟩).channel :=
    fun _ found => leads_found now works free found
  unfold seek
  generalize s.channel.fetch now w = looked at looks finds ⊢
  obtain ⟨fetch, moved⟩ := looked
  cases fetch with
  | task task => exact finds task rfl _ _
  | ends => exact looks rfl
  | waits => exact looks rfl
  | rests wakes => exact looks rfl
  | again => exact looks rfl

private theorem leads_turn [Nonempty τ] (h : Handler σ τ) (now : Nat)
    (works : w ∈ s.channel.workers) :
    s.channel.Leads (turn h now w s).channel := by
  unfold turn
  split
  · next task moment stage busy =>
    have inHand : w.occupation.task? = some task := by rw [busy]; rfl
    split
    · exact leads_advance (s := ⟨s.channel, (h.resume now w.crew task.job stage s.state).2⟩) works
        inHand _
    · exact .refl _
  · next moment resting =>
    split
    · exact leads_seek h now works (by rw [resting]; rfl)
    · exact .refl _
  · next occupation notBusy notResting =>
    refine leads_seek h now works ?_
    cases is : w.occupation with
    | asking => rfl
    | waiting => rfl
    | resting wakes => rfl
    | busy task wakes stage => exact absurd is (notBusy task wakes stage)

private theorem leads_settle [Nonempty τ] (h : Handler σ τ) (now limit : Nat) (s : Workshop σ τ) :
    s.channel.Leads (settle h now limit s).channel := by
  induction limit generalizing s with
  | zero => exact .refl _
  | succ limit ih =>
    unfold settle
    split
    · exact .refl _
    · next id turns _ =>
      have taken := Channel.Leads.arrange s.channel turns s.channel.answers
      dsimp only
      split
      · next w found =>
        have works : w ∈ s.channel.workers := List.mem_of_find?_eq_some found
        exact (taken.trans (leads_turn (s := { s with channel := { s.channel with turns } }) h now
          works)).trans (ih _)
      · exact taken.trans (ih { s with channel := { s.channel with turns } })

theorem leads_run [Nonempty τ] (h : Handler σ τ) (now : Nat) (s : Workshop σ τ) :
    s.channel.Leads (run h now s).channel := leads_settle h now turnLimit s

theorem leads_wake [Nonempty τ] (h : Handler σ τ) (now : Nat) (s : Workshop σ τ) :
    s.channel.Leads ((clockwork h).wake now s).channel := by
  have called := Channel.Leads.arrange s.channel (s.channel.callDue now).turns s.channel.answers
  exact called.trans (leads_run h now { s with channel := s.channel.callDue now })

theorem leads_elapse [Nonempty τ] (h : Handler σ τ) (now target : Nat) (s : Workshop σ τ) :
    s.channel.Leads (elapse h now target s).channel :=
  Time.Clockwork.runTo_leads (fun a b : Workshop σ τ => a.channel.Leads b.channel)
    (fun s => .refl s.channel) (fun _ _ _ => .trans) (leads_wake h) now target s

theorem leads_await [Nonempty τ] (h : Handler σ τ) (done : Workshop σ τ → Bool) (now limit : Nat)
    (s : Workshop σ τ) : s.channel.Leads (await h done now limit s).2.2.channel := by
  have waits := Time.Clockwork.runUntil_leads
    (fun a b : Workshop σ τ => a.channel.Leads b.channel)
    (fun s => .refl s.channel) (fun _ _ _ => .trans) (leads_wake h) done (now + 1) (limit - 1) now s
  unfold await
  dsimp only
  split <;> exact waits

/-- A change of the channel that leads somewhere, and all that is done then. -/
theorem leads_change [Nonempty τ] (h : Handler σ τ) (now : Nat) (change : Channel τ → Channel τ)
    (s : Workshop σ τ) (leads : s.channel.Leads (change s.channel)) :
    s.channel.Leads (s.change h now change).channel :=
  leads.trans (leads_run h now { s with channel := change s.channel })

/-- Publishing a job and waiting for the answer. -/
theorem leads_publish [Nonempty τ] (h : Handler σ τ) (now limit ticket : Nat) {job : Job}
    (fits : job.Fits) (s : Workshop σ τ) :
    s.channel.Leads (publish h now limit ticket job s).2.2.channel := by
  have publishes : s.channel.Leads (s.channel.publish ticket job) := by
    rcases s.channel.publish_eq ticket job with same | ⟨_, refused⟩
    · rw [same]
      rintro ⟨_, published, begun, ended⟩ rfl
      exact ⟨_, .single (.handOver ticket fits), rfl⟩
    · rw [refused]
      exact .arrange s.channel _ _
  have waits := (leads_change h now (fun c => c.publish ticket job) s publishes).trans
    (leads_await h (fun s => (s.channel.answer? ticket).isSome) now limit _)
  unfold publish
  dsimp only
  generalize await h (fun s => (s.channel.answer? ticket).isSome) now limit _ = awaited at waits ⊢
  obtain ⟨moment, told, after⟩ := awaited
  split
  · exact waits
  · have withdraws : ∀ c : Channel τ, c.Leads (c.withdraw ticket) := by
      rintro c ⟨_, published, begun, ended⟩ rfl
      exact ⟨_, .single (.withdraw ticket), rfl⟩
    exact waits.trans ((withdraws after.channel).trans
      (leads_elapse h moment moment { after with channel := after.channel.withdraw ticket }))

/-- Stopping, with the grace for running tasks and the end of those that take longer. -/
theorem leads_stop [Nonempty τ] (h : Handler σ τ) (now : Nat) (s : Workshop σ τ) :
    s.channel.Leads (stop h now s).2.2.channel := by
  have signals : s.channel.Leads s.channel.signal.2 := by
    rintro ⟨_, published, begun, ended⟩ rfl
    exact ⟨_, .head .close (.head .turnAway (.head .tell (.single .claim))), rfl⟩
  have aborts : ∀ (c : Channel τ) (ids : List Nat), c.Leads (c.abort ids) := by
    rintro c ids ⟨_, published, begun, ended⟩ rfl
    exact ⟨_, .single (.abort ids), rfl⟩
  unfold stop
  generalize s.channel.signal = signal at signals ⊢
  obtain ⟨claimed, signalled⟩ := signal
  let after : Workshop σ τ := { s with channel := signalled }
  let isOver : Workshop σ τ → Bool := fun s => s.channel.haveEnded claimed
  have rest : ∀ ended : Nat × Bool × Workshop σ τ, s.channel.Leads ended.2.2.channel →
      s.channel.Leads (if ended.2.1 then (ended.1, (.ok () : Except Fault Unit), ended.2.2)
        else (ended.1, .error Channel.drainTimeout, elapse h ended.1 ended.1
          (ended.2.2.change h ended.1 fun c => c.abort claimed))).2.2.channel := by
    intro ended leads
    split
    · exact leads
    · exact leads.trans ((leads_change h _ _ _ (aborts _ _)).trans (leads_elapse h _ _ _))
  refine rest (if isOver after then (now, true, run h now after)
    else if now + signalled.grace.ticks ≤ now then (now, false, after)
    else (run h now after).await h isOver now (now + signalled.grace.ticks)) ?_
  split
  · exact signals.trans (leads_run h now after)
  · split
    · exact signals
    · exact signals.trans ((leads_run h now after).trans (leads_await h isOver now _ _))

end Workshop

end FeedIngest.Delivery
