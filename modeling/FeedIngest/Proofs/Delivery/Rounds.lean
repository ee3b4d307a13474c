import Mathlib.Logic.Relation
import FeedIngest.Catalog.Store
import FeedIngest.Delivery.Office

/-!
# The rounds of an agenda

A task keeps an agenda: in each pass it asks for the feeds and publishes a job for each of them. It
runs in turns, and nothing else happens before it waits again. It waits in one of two selections.
The outer one is between the signal to stop and the next moment for a pass, and takes either if both
are there; the inner one is between the signal and the pass, and takes the signal first. So it makes
no difference how far a pass has got, and whether one was due, when the signal comes: the task ends
on its next turn.
-/

set_option autoImplicit false

namespace FeedIngest.Delivery

inductive Notice where
  | listed (feeds : Except Fault (List Int))
  /-- Publishing the job of a feed begins. -/
  | posted (feedId : Int)
  | answered (feedId : Int) (answer : Except Fault Unit)
  | passed (result : Except Fault Nat)
  | signalled
  | ended

inductive Listing : Except Fault (List Int) → Prop where
  | contents (store : Catalog.Store) : Listing (.ok store.feedIds)
  | fault (fault : Fault) : Listing (.error fault)

def Pass.heading : Pass → List Notice
  | .publishing feedId _ _ => [.posted feedId]
  | .finished result => [.passed result]

structure Rounds where
  agenda : Agenda
  /-- Since when the task has been in a pass for which no feeds are listed yet. -/
  asks : Option Nat
  signalled : Bool
  /-- Whether it is the task's turn. -/
  runs : Bool
  now : Nat
  log : List (Nat × Notice)

namespace Rounds

def start (now period : Nat) : Rounds := ⟨.start now period, none, false, false, now, []⟩

/-- The task waits in the outer selection. -/
def Outside (r : Rounds) : Prop := r.agenda.phase = .resting ∧ r.asks = none

/-- The task waits in the inner selection. -/
def Inside (r : Rounds) : Prop := r.asks ≠ none ∨ ∃ pass, r.agenda.phase = .passing pass

def goOn (r : Rounds) (agenda : Agenda) (notices : List Notice) : Rounds :=
  { r with
    agenda
    asks := none
    runs := !agenda.isOver
    log := r.log ++ notices.map (r.now, ·) ++ if agenda.isOver then [(r.now, .ended)] else [] }

inductive Step : Rounds → Rounds → Prop where
  | signal {r : Rounds} (waits : r.runs = false) (first : r.signalled = false) :
      Step r { r with signalled := true, log := r.log ++ [(r.now, .signalled)] }
  /-- No time passes before a task has its turn that was signalled. -/
  | elapse {r : Rounds} {t : Nat} (waits : r.runs = false)
      (quiet : r.signalled = true → r.agenda.isOver = true) (later : r.now ≤ t) :
      Step r { r with now := t }
  | turn {r : Rounds} (waits : r.runs = false) (keeps : r.agenda.isOver = false) :
      Step r { r with runs := true }
  | leave {r : Rounds} (runs : r.runs = true) (outside : r.Outside) (signal : r.signalled = true) :
      Step r (r.goOn r.agenda.cancel [])
  | tick {r : Rounds} (runs : r.runs = true) (outside : r.Outside) (due : r.agenda.due ≤ r.now) :
      Step r { r with asks := some r.now }
  | breakOff {r : Rounds} (runs : r.runs = true) (inside : r.Inside) (signal : r.signalled = true) :
      Step r (r.goOn r.agenda.cancel [])
  | list {r : Rounds} {since : Nat} {feeds : Except Fault (List Int)} (runs : r.runs = true)
      (asks : r.asks = some since) (quiet : r.signalled = false) (listing : Listing feeds) :
      Step r (r.goOn (r.agenda.begin since (.start feeds)) (.listed feeds :: (Pass.start feeds).heading))
  | hear {r : Rounds} {feedId : Int} {rest : List Int} {accepted : Nat} (runs : r.runs = true)
      (passes : r.agenda.phase = .passing (.publishing feedId rest accepted))
      (quiet : r.signalled = false) (answer : Except Fault Unit) :
      Step r (r.goOn (r.agenda.follow ((Pass.publishing feedId rest accepted).hear answer))
        (.answered feedId answer :: ((Pass.publishing feedId rest accepted).hear answer).heading))
  | wait {r : Rounds} (runs : r.runs = true) (quiet : r.signalled = false) :
      Step r { r with runs := false }

abbrev Run : Rounds → Rounds → Prop := Relation.ReflTransGen Step

end Rounds

/-! ## Passes on record -/

def publications (feeds : List Int) (answers : List (Except Fault Unit)) : List Notice :=
  (feeds.zip answers).flatMap fun (feedId, answer) => [.posted feedId, .answered feedId answer]

def acceptances (answers : List (Except Fault Unit)) : Nat := answers.countP (·.isOk)

/-- Feeds in their order, with the answers of the channel while it is open. -/
structure Published (feeds : List Int) (answers : List (Except Fault Unit)) (rest : List Int) :
    Prop where
  ascending : (feeds ++ rest).Pairwise (· < ·)
  each : answers.length = feeds.length
  goesOn : ∀ answer ∈ answers, answer ≠ .error .channelClosed

/-- A pass that was not cut short, and after which the task goes on. -/
inductive Whole : List Notice → Prop where
  | unlisted {fault : Fault} (other : fault ≠ .channelClosed) :
      Whole [.listed (.error fault), .passed (.error fault)]
  | through {feeds : List Int} {answers : List (Except Fault Unit)}
      (published : Published feeds answers []) :
      Whole (.listed (.ok feeds) ::
        (publications feeds answers ++ [.passed (.ok (acceptances answers))]))

inductive Closed : List Notice → Prop where
  | unlisted : Closed [.listed (.error .channelClosed), .passed (.error .channelClosed)]
  | publishing {feeds : List Int} {answers : List (Except Fault Unit)} {feedId : Int}
      {rest : List Int} (published : Published feeds answers (feedId :: rest)) :
      Closed (.listed (.ok (feeds ++ feedId :: rest)) :: (publications feeds answers ++
        [.posted feedId, .answered feedId (.error .channelClosed), .passed (.error .channelClosed)]))

inductive Begun : List Notice → Prop where
  | nothing : Begun []
  | publishing {feeds : List Int} {answers : List (Except Fault Unit)} {feedId : Int}
      {rest : List Int} (published : Published feeds answers (feedId :: rest)) :
      Begun (.listed (.ok (feeds ++ feedId :: rest)) ::
        (publications feeds answers ++ [.posted feedId]))

section Publications

variable {feeds rest : List Int} {answers : List (Except Fault Unit)} {feedId : Int}
  {answer : Except Fault Unit}

private theorem Published.snoc (published : Published feeds answers (feedId :: rest))
    (goesOn : answer ≠ .error .channelClosed) :
    Published (feeds ++ [feedId]) (answers ++ [answer]) rest where
  ascending := by
    rw [List.append_assoc]
    exact published.ascending
  each := by rw [List.length_append, List.length_append, published.each]; rfl
  goesOn other member := by
    cases List.mem_append.mp member with
    | inl earlier => exact published.goesOn other earlier
    | inr last => exact List.mem_singleton.mp last ▸ goesOn

private theorem publications_snoc (each : answers.length = feeds.length) :
    publications (feeds ++ [feedId]) (answers ++ [answer]) =
      publications feeds answers ++ [.posted feedId, .answered feedId answer] := by
  unfold publications
  rw [List.zip_append each.symm, List.flatMap_append]
  rfl

private theorem acceptances_ok : acceptances (answers ++ [.ok ()]) = acceptances answers + 1 := by
  unfold acceptances
  rw [List.countP_append]
  rfl

private theorem acceptances_error (fault : Fault) :
    acceptances (answers ++ [.error fault]) = acceptances answers := by
  unfold acceptances
  rw [List.countP_append]
  rfl

end Publications

inductive Pass.Recorded : Pass → List Notice → Prop where
  | publishing {feeds : List Int} {answers : List (Except Fault Unit)} {feedId : Int}
      {rest : List Int} (published : Published feeds answers (feedId :: rest)) :
      Recorded (.publishing feedId rest (acceptances answers))
        (.listed (.ok (feeds ++ feedId :: rest)) ::
          (publications feeds answers ++ [.posted feedId]))
  | whole {result : Except Fault Nat} {record : List Notice} (whole : Whole record)
      (other : result ≠ .error .channelClosed) : Recorded (.finished result) record
  | closed {record : List Notice} (closed : Closed record) :
      Recorded (.finished (.error .channelClosed)) record

namespace Pass

theorem recorded_next {feeds rest : List Int} {answers : List (Except Fault Unit)}
    (published : Published feeds answers rest) : (next (acceptances answers) rest).Recorded
      (.listed (.ok (feeds ++ rest)) ::
        (publications feeds answers ++ (next (acceptances answers) rest).heading)) := by
  cases rest with
  | nil =>
    rw [List.append_nil]
    exact .whole (.through published) nofun
  | cons feedId rest => exact .publishing published

theorem recorded_start {feeds : Except Fault (List Int)} (listing : Listing feeds) :
    (start feeds).Recorded (.listed feeds :: (start feeds).heading) := by
  cases listing with
  | contents store =>
    have published : Published [] [] store.feedIds :=
      ⟨List.pairwise_map.mpr store.feeds.ascending, rfl, nofun⟩
    exact recorded_next published
  | fault fault =>
    by_cases closed : fault = .channelClosed
    · subst closed
      exact .closed .unlisted
    · exact .whole (.unlisted closed) fun same => closed (Except.error.inj same)

private theorem Recorded.hear {feedId : Int} {rest : List Int} {accepted : Nat}
    {record : List Notice} (recorded : (Pass.publishing feedId rest accepted).Recorded record)
    (answer : Except Fault Unit) :
    ((Pass.publishing feedId rest accepted).hear answer).Recorded
      (record ++ .answered feedId answer ::
        ((Pass.publishing feedId rest accepted).hear answer).heading) := by
  cases recorded with
  | @publishing feeds answers _ _ published =>
    by_cases closed : answer = .error .channelClosed
    · subst closed
      have found := Closed.publishing published
      simpa [Pass.hear, heading] using Recorded.closed found
    · have next := recorded_next (published.snoc closed)
      rw [publications_snoc published.each] at next
      cases answer with
      | ok =>
        rw [acceptances_ok] at next
        simpa [Pass.hear] using next
      | error fault =>
        rw [acceptances_error] at next
        have other : fault ≠ .channelClosed := fun same => closed (same ▸ rfl)
        have hears : (Pass.publishing feedId rest (acceptances answers)).hear (.error fault) =
            Pass.next (acceptances answers) rest := by
          simp only [Pass.hear]
        rw [hears]
        simpa using next

end Pass

/-! ## What stays -/

namespace Agenda

theorem isOver_cancel (a : Agenda) : a.cancel.isOver = true := by
  unfold cancel
  split
  · assumption
  · rfl

private theorem follow_finished {result : Except Fault Nat} (other : result ≠ .error .channelClosed)
    (a : Agenda) : (a.follow (.finished result)).phase = .resting := by
  unfold follow
  dsimp only
  split
  · next same => cases same
  · next same => exact absurd (Pass.finished.inj same) other
  · rfl

end Agenda

/-- Where a task is, by what has been noticed of its last pass. -/
inductive Standing : AgendaPhase → Option Nat → List Notice → Prop where
  | outside : Standing .resting none []
  | asking (since : Nat) : Standing .resting (some since) []
  | publishing {feedId : Int} {rest : List Int} {accepted : Nat} {last : List Notice}
      (recorded : (Pass.publishing feedId rest accepted).Recorded last) :
      Standing (.passing (.publishing feedId rest accepted)) none last

private theorem Standing.eq_nil {phase : AgendaPhase} {since : Nat} {last : List Notice}
    (standing : Standing phase (some since) last) : last = [] := by
  cases standing
  rfl

private theorem Standing.recorded {pass : Pass} {asks : Option Nat} {last : List Notice}
    (standing : Standing (.passing pass) asks last) : pass.Recorded last := by
  cases standing
  assumption

theorem Standing.begun {phase : AgendaPhase} {asks : Option Nat} {last : List Notice}
    (standing : Standing phase asks last) : Begun last := by
  cases standing with
  | outside => exact .nothing
  | asking => exact .nothing
  | publishing recorded =>
    cases recorded with
    | publishing published => exact .publishing published

namespace Rounds

variable {r next : Rounds} {last : List Notice} {ending : List (Nat × Notice)}

inductive Stage (a : Agenda) (asks : Option Nat) (signal : Bool) (now : Nat) (last : List Notice) :
    List (Nat × Notice) → Prop where
  | goesOn (standing : Standing a.phase asks last) (quiet : signal = false) :
      Stage a asks signal now last []
  | signalled (standing : Standing a.phase asks last) (signalled : signal = true) :
      Stage a asks signal now last [(now, .signalled)]
  | brokenOff (begun : Begun last) (isOver : a.isOver = true) (idle : asks = none)
      (signalled : signal = true) (t : Nat) :
      Stage a asks signal now last [(t, .signalled), (t, .ended)]
  | closed (closed : Closed last) (isOver : a.isOver = true) (idle : asks = none)
      (quiet : signal = false) (t : Nat) : Stage a asks signal now last [(t, .ended)]
  | closedBefore (closed : Closed last) (isOver : a.isOver = true) (idle : asks = none)
      (signalled : signal = true) (t u : Nat) :
      Stage a asks signal now last [(t, .ended), (u, .signalled)]

structure Kept (r : Rounds) (passes : List (List Notice)) (last : List Notice)
    (front ending : List (Nat × Notice)) : Prop where
  log : r.log = front ++ ending
  front : front.map (·.2) = passes.flatten ++ last
  whole : ∀ pass ∈ passes, Whole pass
  stage : Stage r.agenda r.asks r.signalled r.now last ending

theorem not_over_of_standing {phase : AgendaPhase} {asks : Option Nat} {a : Agenda}
    (standing : Standing phase asks last) (is : a.phase = phase) : a.isOver = false := by
  unfold Agenda.isOver
  cases standing <;> rw [is]

private theorem start_kept {now period : Nat} (positive : 0 < period) :
    (start now period).Kept [] [] [] [] where
  log := rfl
  front := rfl
  whole := nofun
  stage := by
    have resting : (Agenda.start now period).phase = .resting := if_neg (Nat.ne_of_gt positive)
    apply Stage.goesOn _ rfl
    show Standing (Agenda.start now period).phase none []
    rw [resting]
    exact .outside

namespace Kept

variable {passes : List (List Notice)} {front : List (Nat × Notice)}

private theorem signal (kept : r.Kept passes last front ending) (first : r.signalled = false) :
    ∃ ending, { r with signalled := true, log := r.log ++ [(r.now, .signalled)] : Rounds }.Kept
      passes last front ending := by
  refine ⟨ending ++ [(r.now, .signalled)], ?_, kept.front, kept.whole, ?_⟩
  · rw [kept.log, List.append_assoc]
  · cases kept.stage with
    | goesOn standing => exact .signalled standing rfl
    | closed closed isOver idle _ t => exact .closedBefore closed isOver idle rfl t r.now
    | signalled _ signal => cases first.symm.trans signal
    | brokenOff _ _ _ signal => cases first.symm.trans signal
    | closedBefore _ _ _ signal => cases first.symm.trans signal

private theorem elapse (kept : r.Kept passes last front ending) (t : Nat)
    (quiet : r.signalled = true → r.agenda.isOver = true) :
    { r with now := t }.Kept passes last front ending := by
  refine ⟨kept.log, kept.front, kept.whole, ?_⟩
  cases kept.stage with
  | goesOn standing quiet => exact .goesOn standing quiet
  | signalled standing signal =>
    cases (quiet signal).symm.trans (not_over_of_standing standing rfl)
  | brokenOff begun isOver idle signal t => exact .brokenOff begun isOver idle signal t
  | closed closed isOver idle quiet t => exact .closed closed isOver idle quiet t
  | closedBefore closed isOver idle signal t u => exact .closedBefore closed isOver idle signal t u

private theorem tick (kept : r.Kept passes last front ending) (outside : r.Outside) :
    { r with asks := some r.now }.Kept passes last front ending := by
  obtain ⟨resting, idle⟩ := outside
  have keeps : r.agenda.isOver = false := by rw [Agenda.isOver, resting]
  have asking : Standing r.agenda.phase r.asks last →
      Standing r.agenda.phase (some r.now) last := by
    rw [resting, idle]
    intro standing
    cases standing
    exact .asking r.now
  refine ⟨kept.log, kept.front, kept.whole, ?_⟩
  cases kept.stage with
  | goesOn standing quiet => exact .goesOn (asking standing) quiet
  | signalled standing signal => exact .signalled (asking standing) signal
  | brokenOff _ isOver => cases isOver.symm.trans keeps
  | closed _ isOver => cases isOver.symm.trans keeps
  | closedBefore _ isOver => cases isOver.symm.trans keeps

/-- A task that was signalled ends without another notice. -/
theorem quit (kept : r.Kept passes last front ending) (keeps : r.agenda.isOver = false)
    (signal : r.signalled = true) :
    (r.goOn r.agenda.cancel []).Kept passes last front
      [(r.now, .signalled), (r.now, .ended)] := by
  have isOver := Agenda.isOver_cancel r.agenda
  have log : (r.goOn r.agenda.cancel []).log = r.log ++ [(r.now, .ended)] := by
    simp [Rounds.goOn, isOver]
  cases kept.stage with
  | signalled standing =>
    refine ⟨?_, kept.front, kept.whole, .brokenOff standing.begun isOver rfl signal r.now⟩
    rw [log, kept.log, List.append_assoc]
    rfl
  | goesOn _ quiet => cases quiet.symm.trans signal
  | brokenOff _ isOver => cases isOver.symm.trans keeps
  | closed _ isOver => cases isOver.symm.trans keeps
  | closedBefore _ isOver => cases isOver.symm.trans keeps

/-- A pass goes on, or it is over: then the next one may begin, or the task has ended. -/
theorem goOn (kept : r.Kept passes last front []) (quiet : r.signalled = false) {pass : Pass}
    {notices : List Notice} (recorded : pass.Recorded (last ++ notices)) (a : Agenda) :
    ∃ passes last front ending,
      (r.goOn (a.follow pass) notices).Kept passes last front ending := by
  have record : (front ++ notices.map (r.now, ·)).map (·.2) =
      passes.flatten ++ (last ++ notices) := by
    rw [List.map_append, kept.front, List.map_map, List.append_assoc]
    simp [Function.comp_def]
  have log : r.log = front := kept.log.trans (List.append_nil front)
  generalize last ++ notices = whole at recorded record
  cases recorded with
  | publishing published =>
    refine ⟨passes, _, _, [], ?_, record, kept.whole,
      .goesOn (.publishing (.publishing published)) quiet⟩
    simp [Rounds.goOn, Agenda.isOver, Agenda.follow, log]
  | whole through other =>
    have resting := Agenda.follow_finished other a
    refine ⟨passes ++ [whole], [], front ++ notices.map (r.now, ·), [], ?_, ?_, ?_,
      .goesOn ?_ quiet⟩
    · simp [Rounds.goOn, Agenda.isOver, resting, log]
    · rw [record]
      simp
    · intro pass member
      cases List.mem_append.mp member with
      | inl earlier => exact kept.whole pass earlier
      | inr new => exact List.mem_singleton.mp new ▸ through
    · show Standing (a.follow _).phase none []
      rw [resting]
      exact .outside
  | closed closed =>
    refine ⟨passes, _, _, [(r.now, .ended)], ?_, record, kept.whole,
      .closed closed rfl rfl quiet r.now⟩
    simp [Rounds.goOn, Agenda.isOver, Agenda.follow, log]

theorem not_over_of_inside (kept : r.Kept passes last front ending) (inside : r.Inside) :
    r.agenda.isOver = false := by
  cases isOver : r.agenda.isOver with
  | false => rfl
  | true =>
    cases inside with
    | inl asks =>
      cases kept.stage with
      | goesOn standing => cases isOver.symm.trans (not_over_of_standing standing rfl)
      | signalled standing => cases isOver.symm.trans (not_over_of_standing standing rfl)
      | brokenOff _ _ idle => exact absurd idle asks
      | closed _ _ idle => exact absurd idle asks
      | closedBefore _ _ idle => exact absurd idle asks
    | inr passing =>
      obtain ⟨pass, passing⟩ := passing
      rw [Agenda.isOver, passing] at isOver
      cases isOver

/-- While nobody has signalled, a task in a pass stands by what it has noticed. -/
theorem standing (kept : r.Kept passes last front ending) (quiet : r.signalled = false)
    (inside : r.Inside) : ending = [] ∧ Standing r.agenda.phase r.asks last := by
  have keeps := kept.not_over_of_inside inside
  cases kept.stage with
  | goesOn standing => exact ⟨rfl, standing⟩
  | signalled _ signal => cases quiet.symm.trans signal
  | brokenOff _ isOver => cases isOver.symm.trans keeps
  | closed _ isOver => cases isOver.symm.trans keeps
  | closedBefore _ isOver => cases isOver.symm.trans keeps

private theorem list (kept : r.Kept passes last front ending) (quiet : r.signalled = false)
    {since : Nat} (asks : r.asks = some since) {feeds : Except Fault (List Int)}
    (listing : Listing feeds) :
    ∃ passes last front ending, (r.goOn (r.agenda.begin since (.start feeds))
      (.listed feeds :: (Pass.start feeds).heading)).Kept passes last front ending := by
  obtain ⟨rfl, standing⟩ := kept.standing quiet (.inl (asks ▸ nofun))
  rw [asks] at standing
  obtain rfl := standing.eq_nil
  exact kept.goOn quiet (Pass.recorded_start listing) _

private theorem hear (kept : r.Kept passes last front ending) (quiet : r.signalled = false)
    {feedId : Int} {rest : List Int} {accepted : Nat}
    (passing : r.agenda.phase = .passing (.publishing feedId rest accepted))
    (answer : Except Fault Unit) :
    ∃ passes last front ending,
      (r.goOn (r.agenda.follow ((Pass.publishing feedId rest accepted).hear answer))
        (.answered feedId answer :: ((Pass.publishing feedId rest accepted).hear answer).heading)).Kept
          passes last front ending := by
  obtain ⟨rfl, standing⟩ := kept.standing quiet (.inr ⟨_, passing⟩)
  rw [passing] at standing
  exact kept.goOn quiet (standing.recorded.hear answer) _

end Kept

theorem Step.kept (step : Step r next) {passes : List (List Notice)} {front : List (Nat × Notice)}
    (kept : r.Kept passes last front ending) :
    ∃ passes last front ending, next.Kept passes last front ending := by
  cases step with
  | signal _ first =>
    obtain ⟨ending, kept⟩ := kept.signal first
    exact ⟨_, _, _, _, kept⟩
  | elapse _ quiet => exact ⟨_, _, _, _, kept.elapse _ quiet⟩
  | turn => exact ⟨_, _, _, _, kept.log, kept.front, kept.whole, kept.stage⟩
  | wait => exact ⟨_, _, _, _, kept.log, kept.front, kept.whole, kept.stage⟩
  | leave _ outside signal =>
    have keeps : r.agenda.isOver = false := by rw [Agenda.isOver, outside.1]
    exact ⟨_, _, _, _, kept.quit keeps signal⟩
  | breakOff _ inside signal =>
    exact ⟨_, _, _, _, kept.quit (kept.not_over_of_inside inside) signal⟩
  | tick _ outside => exact ⟨_, _, _, _, kept.tick outside⟩
  | list _ asks quiet listing => exact kept.list quiet asks listing
  | hear _ passing quiet answer => exact kept.hear quiet passing answer

private theorem Run.kept {now period : Nat} (positive : 0 < period)
    (run : Run (start now period) r) :
    ∃ passes last front ending, r.Kept passes last front ending := by
  induction run with
  | refl => exact ⟨_, _, _, _, start_kept positive⟩
  | tail _ step ih =>
    obtain ⟨_, _, _, _, kept⟩ := ih
    exact step.kept kept

/-! ## The end -/

section Offices

variable {σ : Type} {o : Outlet σ} {a : Agenda} {now : Nat} {s : σ}

/-- The task keeps this agenda, and nobody has signalled. A pass that is over is not kept. -/
structure Keeps (r : Rounds) (a : Agenda) : Prop where
  agenda : r.agenda = a
  idle : r.asks = none
  quiet : r.signalled = false
  runs : r.runs = !a.isOver
  goesOn : ∀ result, a.phase ≠ .passing (.finished result)

theorem Keeps.follow (keeps : r.Keeps a) (other : Agenda) (pass : Pass) (notices : List Notice) :
    (r.goOn (other.follow pass) notices).Keeps (other.follow pass) where
  agenda := rfl
  idle := rfl
  quiet := keeps.quiet
  runs := rfl
  goesOn result := by
    unfold Agenda.follow
    dsimp only
    split <;> nofun

theorem exists_run_pursue (ticket limit : Nat) {pass : Pass} (keeps : r.Keeps (a.follow pass)) :
    ∃ next, Run r next ∧ next.now = r.now ∧
      next.Keeps (a.follow (Office.pursue o r.now ticket limit pass s).1) := by
  induction limit generalizing r pass s with
  | zero => exact ⟨r, .refl, rfl, keeps⟩
  | succ limit ih =>
    cases pass with
    | finished => exact ⟨r, .refl, rfl, keeps⟩
    | publishing feedId rest accepted =>
      cases answers : o.answer? ticket s with
      | none =>
        simp only [Office.pursue, answers]
        exact ⟨r, .refl, rfl, keeps⟩
      | some answer =>
        have passing : r.agenda.phase = .passing (.publishing feedId rest accepted) := by
          rw [keeps.agenda]
          rfl
        have hears := Step.hear keeps.runs passing keeps.quiet answer
        rw [keeps.agenda] at hears
        obtain ⟨next, onward, still, keeps⟩ := ih (keeps.follow a _ _)
        simp only [Office.pursue, answers]
        exact ⟨next, .head hears onward, still, keeps⟩

/-- An office keeps its agenda by such steps, if its outlet lists what a store holds. -/
theorem exists_run_keepAgenda (listing : ∀ s, Listing (o.list s).1) (limit : Nat)
    (keeps : r.Keeps a) :
    ∃ next, Run r next ∧ next.now = r.now ∧
      next.Keeps (Office.keepAgenda o r.now limit a s).1 := by
  induction limit generalizing r a s with
  | zero => exact ⟨r, .refl, rfl, keeps⟩
  | succ limit ih =>
    obtain rfl := keeps.agenda
    cases phase : r.agenda.phase with
    | ended =>
      simp only [Office.keepAgenda, phase]
      exact ⟨r, .refl, rfl, keeps⟩
    | failed =>
      simp only [Office.keepAgenda, phase]
      exact ⟨r, .refl, rfl, keeps⟩
    | resting =>
      have runs : r.runs = true := by rw [keeps.runs, Agenda.isOver, phase]; rfl
      by_cases due : r.agenda.due ≤ r.now
      · have tick := Step.tick runs ⟨phase, keeps.idle⟩ due
        have list := @Step.list { r with asks := some r.now } _ _ runs rfl keeps.quiet (listing s)
        obtain ⟨next, onward, still, keeps⟩ :=
          ih (keeps.follow { r.agenda with due := r.agenda.nextDue r.now } _ _)
        simp only [Office.keepAgenda, phase, if_pos due]
        exact ⟨next, .head tick (.head list onward), still, keeps⟩
      · simp only [Office.keepAgenda, phase, if_neg due]
        exact ⟨r, .refl, rfl, keeps⟩
    | passing pass =>
      cases pass with
      | finished result => exact absurd phase (keeps.goesOn result)
      | publishing feedId rest accepted =>
        have same : r.agenda = r.agenda.follow (.publishing feedId rest accepted) := by
          rw [Agenda.follow, ← phase]
        rw [same] at keeps
        obtain ⟨next, heard, still,
            keeps⟩ := exists_run_pursue (o := o) (s := s) Office.agendaTicket
          (Office.remaining (.publishing feedId rest accepted)) keeps
        simp only [Office.keepAgenda, phase]
        cases pursued : Office.pursue o r.now Office.agendaTicket
          (Office.remaining (.publishing feedId rest accepted)) (.publishing feedId rest accepted) s with
        | mk pass s =>
          rw [pursued] at keeps
          cases pass with
          | publishing => exact ⟨next, heard, still, keeps⟩
          | finished result =>
            obtain ⟨last, onward, stillToo, keeps⟩ := ih (s := s) keeps
            rw [still] at keeps
            exact ⟨last, heard.trans onward, stillToo.trans still, keeps⟩

end Offices

end Rounds

end FeedIngest.Delivery
