import FeedIngest.Proofs.Catalog.Traffic

/-!
# What an answer promises

A call that creates articles and is answered without a fault promises that they are stored, those
that it found there among them; a call that adds a feed promises the feed. What a call has written
itself stays. What it found may belong to a call that is still open, and goes if that call fails.
-/

set_option autoImplicit false

namespace FeedIngest.Catalog

open Time (Timestamp)

inductive Promise where
  | article (key : ArticleKey)
  | feed (id : Int) (url : String)

def Request.promises : Request → Reply → List Promise
  | .createArticles drafts, _ => drafts.map fun draft => .article draft.key
  | .insertFeed _, .feed feed => [.feed feed.id feed.url]
  | _, _ => []

def Change.Makes : Change → Promise → Prop
  | .articlesCreated articles, .article key => key ∈ articles.map (·.key)
  | .feedInserted feed, .feed id url => feed.id = id ∧ feed.url = url
  | _, _ => False

def Call.reply? {α : Type} : Call α → Option α
  | .answered (.ok reply) | .pending _ reply => some reply
  | .answered (.error _) => none

private theorem Call.reply?_map {α β : Type} (f : α → β) (call : Call α) :
    (call.map f).reply? = call.reply?.map f := by
  rcases call with (_ | _) | _ <;> rfl

namespace Store

variable {s next : Store} {change : Change} {p : Promise}

def Has (s : Store) : Promise → Prop
  | .article key => ∃ id row, s.articles.get? id = some row ∧ row.key = key
  | .feed id url => ∃ row, s.feeds.get? id = some row ∧ row.url = url

private theorem Holds.has_of_makes (holds : s.Holds change) (makes : change.Makes p) : s.Has p := by
  cases change <;> cases p <;> try exact makes.elim
  case feedInserted.feed feed id url =>
    obtain ⟨rfl, rfl⟩ := makes
    exact holds
  case articlesCreated.article articles key =>
    obtain ⟨article, member, rfl⟩ := List.mem_map.mp makes
    obtain ⟨row, found, same⟩ := holds article member
    exact ⟨_, row, found, same⟩

/-- Beginning a call takes nothing away. -/
theorem Begins.has {α : Type} {call : Call α} (begins : s.Begins call next)
    (has : s.Has p) : next.Has p := by
  cases p with
  | article key =>
    obtain ⟨id, row, found, rfl⟩ := has
    obtain ⟨row, stands, same⟩ := begins.keeps.articles id row found List.not_mem_nil
    exact ⟨id, row, stands, same⟩
  | feed id url =>
    obtain ⟨row, found, rfl⟩ := has
    exact begins.keeps.feeds id row found List.not_mem_nil

/-- What a call makes was not there. -/
theorem Begins.not_has {α : Type} {call : Call α} (begins : s.Begins call next) (sound : s.Sound)
    (made : change ∈ call.change?) (makes : change.Makes p) : ¬ s.Has p := by
  cases change <;> cases p <;> try exact makes.elim
  case feedInserted.feed feed id url =>
    obtain ⟨rfl, rfl⟩ := makes
    rintro ⟨row, found, _⟩
    have above := ((begins.feedIds _ made).2 feed.id List.mem_cons_self).1
    exact absurd (sound.feeds.bounded found) (Int.not_le.mpr above)
  case articlesCreated.article articles key =>
    intro kept
    exact begins.keys _ made key makes (sound.keys.mpr kept)

/-- Taking a change back spares what the change has not made. -/
theorem Holds.undo_has (holds : s.Holds change) (has : s.Has p) :
    (s.undo change).Has p ∨ change.Makes p := by
  have spared := undo_keepsBut holds
  cases p with
  | article key =>
    obtain ⟨id, row, found, rfl⟩ := has
    by_cases own : id ∈ change.articleIds
    · cases change with
      | articlesCreated articles =>
        obtain ⟨article, member, rfl⟩ := List.mem_map.mp own
        obtain ⟨stood, stands, same⟩ := holds article member
        cases found.symm.trans stands
        exact .inr (same ▸ List.mem_map_of_mem member)
      | _ => cases own
    · obtain ⟨stays, stands, same⟩ := spared.articles id row found own
      exact .inl ⟨id, stays, stands, same⟩
  | feed id url =>
    obtain ⟨row, found, rfl⟩ := has
    by_cases own : id ∈ change.feedIds
    · cases change with
      | feedInserted feed =>
        cases List.mem_singleton.mp own
        obtain ⟨stood, stands, same⟩ := holds
        cases found.symm.trans stands
        exact .inr ⟨rfl, same.symm⟩
      | _ => cases own
    · exact .inl (spared.feeds id row found own)

/-- Taking a change back takes away what the change has made. -/
theorem Sound.undo_not_has (sound : s.Sound) (holds : s.Holds change) (makes : change.Makes p) :
    ¬ (s.undo change).Has p := by
  cases change <;> cases p <;> try exact makes.elim
  case feedInserted.feed feed id url =>
    obtain ⟨rfl, rfl⟩ := makes
    rintro ⟨row, found, _⟩
    have gone : (s.feeds.erase feed.id).get? feed.id = some row := found
    rw [Shelf.get?_erase, if_pos rfl] at gone
    cases gone
  case articlesCreated.article articles key =>
    intro kept
    have known := (sound.undo holds).keys.mpr kept
    exact (((lacks_removeArticle articles s).keys key).mp known).2 makes

/-- The feed of the reply is stored, whether it was added or found. -/
theorem Sound.insertFeed_has (sound : s.Sound) {now : Timestamp} {draft : DraftFeed}
    {feed : Feed} (reply : (s.insertFeed now draft).1.reply? = some feed) :
    (s.insertFeed now draft).2.Has (.feed feed.id feed.url) := by
  cases known : s.feeds.values.find? (·.url == draft.url) with
  | some found =>
    simp only [Store.insertFeed, known] at reply ⊢
    cases reply
    obtain ⟨id, stands⟩ := Shelf.mem_values.mp (List.mem_of_find?_eq_some known)
    exact ⟨feed, (sound.feeds.own stands).symm ▸ stands, rfl⟩
  | none =>
    simp only [Store.insertFeed, known] at reply ⊢
    cases reply
    exact ⟨_, by rw [Shelf.get?_put, if_pos rfl], rfl⟩

/-- The articles of all drafts are stored, whether they were created or found. -/
theorem Sound.createArticles_has (sound : s.Sound) (now : Timestamp) {drafts : List Draft}
    {draft : Draft} (asked : draft ∈ drafts) :
    (s.createArticles now drafts).2.Has (.article draft.key) := by
  have adds := sound.addArticles now drafts
  have same : (s.createArticles now drafts).2 = (Store.addArticles now drafts s).2 := by
    unfold Store.createArticles
    split
    · next added => rw [added]
    · next added => rw [added]
  rw [same]
  exact adds.begins.sound.keys.mp (adds.covers draft asked)

end Store

/-- What a call promises is stored as soon as it has begun. -/
theorem Request.begin_has {s : Store} (sound : s.Sound) {now : Timestamp} {request : Request}
    {reply : Reply} (expected : (request.begin now s).1.reply? = some reply) {p : Promise}
    (promised : p ∈ request.promises reply) : (request.begin now s).2.Has p := by
  cases request with
  | createArticles drafts =>
    obtain ⟨draft, asked, rfl⟩ := List.mem_map.mp promised
    exact sound.createArticles_has now asked
  | insertFeed draft =>
    simp only [Request.begin, Call.reply?_map, Option.map_eq_some_iff] at expected
    obtain ⟨feed, answered, rfl⟩ := expected
    cases List.mem_singleton.mp promised
    exact sound.insertFeed_has answered
  | updateFeed => cases promised
  | updateArticle => cases promised

namespace Phase

def reply? : Phase → Option Reply
  | .answered (.ok reply) | .written _ reply => some reply
  | _ => none

def expected? : Phase → Option Reply
  | .answered (.ok reply) | .writing _ reply | .written _ reply => some reply
  | _ => none

def undone? : Phase → Option Change
  | .undone change _ => some change
  | _ => none

def written? : Phase → Option Change
  | .written change _ => some change
  | _ => none

private theorem expected?_ofCall (call : Call Reply) : (ofCall call).expected? = call.reply? := by
  rcases call with (_ | _) | _ <;> rfl

private theorem expected?_of_reply? {phase : Phase} {reply : Reply}
    (answered : phase.reply? = some reply) :
    phase.expected? = some reply := by
  rcases phase with (_ | _) | _ | _ | _ | _ <;> simp_all [reply?, expected?]

end Phase

namespace Traffic

def Promised (t : Traffic) (p : Promise) : Prop :=
  ∃ visit ∈ t.visits, ∃ reply, visit.phase.expected? = some reply ∧
    p ∈ visit.request.promises reply

def Open (t : Traffic) (p : Promise) : Prop :=
  ∃ visit ∈ t.visits, ∃ change, visit.phase.open? = some change ∧ change.Makes p

def Written (t : Traffic) (p : Promise) : Prop :=
  ∃ visit ∈ t.visits, ∃ change, visit.phase.written? = some change ∧ change.Makes p

def TakenBack (t : Traffic) (p : Promise) : Prop :=
  ∃ visit ∈ t.visits, ∃ change, visit.phase.undone? = some change ∧ change.Makes p

def Safe (t : Traffic) (p : Promise) : Prop := t.store.Has p ∧ ¬ t.Open p

section Steps

variable {opened store : Store} {t next later : Traffic} {p : Promise}
  {before after : List Visit} {visit moved : Visit}

/-- A call that goes on does not open anything. -/
theorem Open.of_moved {storeToo : Store}
    (isOpen : Open ⟨storeToo, before ++ moved :: after⟩ p)
    (closes : ∀ change, moved.phase.open? = some change → visit.phase.open? = some change) :
    Open ⟨store, before ++ visit :: after⟩ p := by
  obtain ⟨other, member, change, opens, makes⟩ := isOpen
  rcases eq_or_mem member with rfl | among
  · exact ⟨visit, by simp, change, closes change opens, makes⟩
  · exact ⟨other, mem_of_among visit among, change, opens, makes⟩

/-- A call that goes on promises nothing new. -/
theorem Promised.of_moved {storeToo : Store}
    (promised : Promised ⟨storeToo, before ++ moved :: after⟩ p)
    (request : moved.request = visit.request)
    (expects : ∀ reply, moved.phase.expected? = some reply → visit.phase.expected? = some reply) :
    Promised ⟨store, before ++ visit :: after⟩ p := by
  obtain ⟨other, member, reply, expected, promised⟩ := promised
  rcases eq_or_mem member with rfl | among
  · exact ⟨visit, by simp, reply, expects reply expected, request ▸ promised⟩
  · exact ⟨other, mem_of_among visit among, reply, expected, promised⟩

/-- What was taken back stays so. -/
theorem TakenBack.of_move {storeToo : Store}
    (takenBack : TakenBack ⟨store, before ++ visit :: after⟩ p)
    (pending : visit.phase.undone? = none) : TakenBack ⟨storeToo, before ++ moved :: after⟩ p := by
  obtain ⟨other, member, change, undone, makes⟩ := takenBack
  rcases eq_or_mem member with rfl | among
  · rw [pending] at undone
    cases undone
  · exact ⟨other, mem_of_among moved among, change, undone, makes⟩

/-- What is stored and belongs to no open call stays stored. -/
theorem Safe.step (safe : t.Safe p) (sound : t.Sound opened) (step : Step t next) :
    next.Safe p := by
  obtain ⟨has, closed⟩ := safe
  cases step with
  | @begin _ request now keepsUrl =>
    have begins := begins sound.store now keepsUrl
    refine ⟨begins.has has, ?_⟩
    rintro ⟨visit, member, change, opens, makes⟩
    rcases List.mem_append.mp member with old | new
    · exact closed ⟨visit, old, change, opens, makes⟩
    · cases List.mem_singleton.mp new
      rw [Phase.open?_ofCall] at opens
      exact begins.not_has sound.store opens makes has
  | write => exact ⟨has, fun isOpen => closed (isOpen.of_moved fun _ opens => by cases opens)⟩
  | fail => exact ⟨has, fun isOpen => closed (isOpen.of_moved fun _ opens => opens)⟩
  | @undo store before after request change reason =>
    have stands : store.Holds change :=
      sound.holds ⟨request, .failing change reason⟩ (by simp) change rfl
    refine ⟨?_, fun isOpen => closed (isOpen.of_moved fun _ opens => by cases opens)⟩
    rcases stands.undo_has has with stays | makes
    · exact stays
    · exact absurd ⟨⟨request, .failing change reason⟩, by simp, change, rfl, makes⟩ closed

theorem Safe.run (safe : t.Safe p) (sound : t.Sound opened) (run : Run t later) :
    later.Safe p := by
  have both : later.Safe p ∧ later.Sound opened := by
    induction run with
    | refl => exact ⟨safe, sound⟩
    | tail _ last ih => exact ⟨ih.1.step ih.2 last, ih.2.step last⟩
  exact both.1

/-- What an open call has made goes if the call fails. -/
theorem Open.exists_lost (isOpen : t.Open p) (sound : t.Sound opened) :
    ∃ later, Run t later ∧ ¬ later.store.Has p := by
  obtain ⟨store, visits⟩ := t
  obtain ⟨⟨request, phase⟩, member, change, opens, makes⟩ := isOpen
  have lost := sound.store.undo_not_has (sound.holds _ member change opens) makes
  obtain ⟨before, after, rfl⟩ := List.append_of_mem member
  cases phase with
  | writing =>
    cases opens
    exact ⟨_, .head (@Step.fail _ _ _ _ _ _ "") (.single .undo), lost⟩
  | failing =>
    cases opens
    exact ⟨_, .single .undo, lost⟩
  | _ => cases opens

/-- Two open calls have not made the same. -/
theorem Sound.apart (sound : Sound opened ⟨store, before ++ visit :: after⟩) {other : Visit}
    (among : other ∈ before ++ after) {change changeToo : Change}
    (opens : visit.phase.open? = some change) (opensToo : other.phase.open? = some changeToo)
    (makes : change.Makes p) : ¬ changeToo.Makes p := by
  intro makesToo
  have made := Phase.change?_of_open? opens
  have madeToo := Phase.change?_of_open? opensToo
  have stands := sound.holds visit (by simp) change opens
  have standsToo := sound.holds other (mem_of_among visit among) changeToo opensToo
  cases p with
  | article key =>
    cases change <;> try exact makes.elim
    cases changeToo <;> try exact makesToo.elim
    case articlesCreated.articlesCreated =>
      obtain ⟨article, member, rfl⟩ := List.mem_map.mp makes
      obtain ⟨same, memberToo, key⟩ := List.mem_map.mp makesToo
      obtain ⟨row, found, rowKey⟩ := stands article member
      obtain ⟨rowToo, foundToo, rowKeyToo⟩ := standsToo same memberToo
      have sameId := sound.store.articles.distinct found foundToo
        (rowKey.trans (key.symm.trans rowKeyToo.symm))
      refine sound.articleIds.apart among made madeToo article.id ?_ (List.mem_map_of_mem member)
      exact sameId ▸ List.mem_map_of_mem memberToo
  | feed id url =>
    cases change <;> try exact makes.elim
    cases changeToo <;> try exact makesToo.elim
    case feedInserted.feedInserted =>
      refine sound.feedIds.apart among made madeToo id ?_ ?_
      · exact List.mem_singleton.mpr makesToo.1.symm
      · exact List.mem_singleton.mpr makes.1.symm

/-- What was promised is stored, unless it was taken back; and what was written is safe. -/
structure Backed (t : Traffic) : Prop where
  promised : ∀ p, t.Promised p → t.store.Has p ∨ t.TakenBack p
  written : ∀ p, t.Written p → t.Safe p

private theorem start_backed (opened : Store) : (start opened).Backed where
  promised := by rintro p ⟨_, none, _⟩; cases none
  written := by rintro p ⟨_, none, _⟩; cases none

theorem Backed.promised_step (backed : t.Backed) (sound : t.Sound opened) (step : Step t next)
    (promised : next.Promised p) : next.store.Has p ∨ next.TakenBack p := by
  cases step with
  | @begin _ request now keepsUrl =>
    have begins := begins sound.store now keepsUrl
    obtain ⟨visit, member, reply, expected, promised⟩ := promised
    rcases List.mem_append.mp member with old | new
    · refine (backed.promised p ⟨visit, old, reply, expected, promised⟩).imp begins.has ?_
      rintro ⟨other, among, undone⟩
      exact ⟨other, List.mem_append_left _ among, undone⟩
    · cases List.mem_singleton.mp new
      rw [Phase.expected?_ofCall] at expected
      exact .inl (Request.begin_has sound.store expected promised)
  | write =>
    exact (backed.promised p (promised.of_moved rfl fun _ expected => expected)).imp_right
      fun takenBack => takenBack.of_move rfl
  | fail =>
    exact (backed.promised p (promised.of_moved rfl fun _ none => by cases none)).imp_right
      fun takenBack => takenBack.of_move rfl
  | @undo store before after request change reason =>
    have stands : store.Holds change :=
      sound.holds ⟨request, .failing change reason⟩ (by simp) change rfl
    rcases backed.promised p (promised.of_moved rfl fun _ none => by cases none) with
      has | takenBack
    · refine (stands.undo_has has).imp_right fun makes => ?_
      exact ⟨⟨request, .undone change reason⟩, by simp, change, rfl, makes⟩
    · exact .inr (takenBack.of_move rfl)

theorem Backed.written_step (backed : t.Backed) (sound : t.Sound opened) (step : Step t next)
    (written : next.Written p) : next.Safe p := by
  have stays (writtenBefore : t.Written p) : next.Safe p :=
    (backed.written p writtenBefore).step sound step
  obtain ⟨visit, member, change, writes, makes⟩ := written
  cases step with
  | @begin _ request now keepsUrl =>
    rcases List.mem_append.mp member with old | new
    · exact stays ⟨visit, old, change, writes, makes⟩
    · cases List.mem_singleton.mp new
      cases call : (request.begin now t.store).1 <;> rw [call] at writes <;> cases writes
  | @write store before after request change reply =>
    rcases eq_or_mem member with rfl | among
    · cases writes
      refine ⟨(sound.holds ⟨request,
          .writing change reply⟩ (by simp) change rfl).has_of_makes makes,
        ?_⟩
      rintro ⟨other, memberToo, changeToo, opens, makesToo⟩
      rcases eq_or_mem memberToo with rfl | among
      · cases opens
      · exact sound.apart among rfl opens makes makesToo
    · exact stays ⟨visit, mem_of_among _ among, _, writes, makes⟩
  | fail | undo =>
    rcases eq_or_mem member with rfl | among
    · cases writes
    · exact stays ⟨visit, mem_of_among _ among, change, writes, makes⟩

theorem Backed.run (backed : t.Backed) (sound : t.Sound opened) (run : Run t later) :
    later.Backed ∧ later.Sound opened := by
  induction run with
  | refl => exact ⟨backed, sound⟩
  | tail _ last ih =>
    obtain ⟨backed, sound⟩ := ih
    exact ⟨⟨fun _ => backed.promised_step sound last, fun _ => backed.written_step sound last⟩,
      sound.step last⟩

end Steps

/-- What an answered call promised is stored, or a call that had made it has taken it back. It
stays stored exactly if no call that is still open has made it; so what the call has written
itself stays. -/
theorem promise_stays_iff {opened : Store} {t : Traffic} (loaded : Opened opened)
    (run : Run (start opened) t) {visit : Visit} (member : visit ∈ t.visits) {reply : Reply}
    (answered : visit.phase.reply? = some reply) {p : Promise}
    (promised : p ∈ visit.request.promises reply) :
    (t.store.Has p ∨ t.TakenBack p) ∧
      ((∀ later, Run t later → later.store.Has p) ↔ t.store.Has p ∧ ¬ t.Open p) ∧
      ∀ change, visit.phase.written? = some change → change.Makes p →
        ∀ later, Run t later → later.store.Has p := by
  obtain ⟨backed, sound⟩ := (start_backed opened).run (start_sound loaded.sound) run
  refine ⟨?_, ⟨fun stays => ⟨stays t .refl, fun isOpen => ?_⟩, fun safe later runs => ?_⟩, ?_⟩
  · exact backed.promised p ⟨visit, member, reply, Phase.expected?_of_reply? answered, promised⟩
  · obtain ⟨later, runs, lost⟩ := isOpen.exists_lost sound
    exact lost (stays later runs)
  · exact (Safe.run safe sound runs).1
  · intro change written makes later runs
    exact ((backed.written p ⟨visit, member, change, written, makes⟩).run sound runs).1

/-- The second of two calls that overlap has written its own article, which stays. -/
theorem crossing_promise_stays :
    (crossing.store.Has (.article ⟨1, "b"⟩) ∨ crossing.TakenBack (.article ⟨1, "b"⟩)) ∧
      ((∀ later, Run crossing later → later.store.Has (.article ⟨1, "b"⟩)) ↔
        crossing.store.Has (.article ⟨1, "b"⟩) ∧ ¬ crossing.Open (.article ⟨1, "b"⟩)) ∧
      ∀ change, latter.phase.written? = some change → change.Makes (.article ⟨1, "b"⟩) →
        ∀ later, Run crossing later → later.store.Has (.article ⟨1, "b"⟩) :=
  @promise_stays_iff _ _ .empty run_crossing latter (List.mem_cons_of_mem _ List.mem_cons_self)
    _ rfl _ (List.mem_cons_of_mem _ List.mem_cons_self)

/-- The second of two calls that overlap is answered without a fault although an article that it
promised is gone with the change of the first one. -/
theorem not_forall_run_has_promise :
    ¬ ∀ t : Traffic, Run (start .empty) t → ∀ visit ∈ t.visits, ∀ reply,
      visit.phase.reply? = some reply → ∀ p ∈ visit.request.promises reply, t.store.Has p := by
  intro kept
  have has := kept crossing run_crossing latter (List.mem_cons_of_mem _ List.mem_cons_self) _ rfl _
    List.mem_cons_self
  have sound := ((start_sound Store.empty_sound).run run_crossing).store
  have known : (⟨1, "a"⟩ : ArticleKey) ∈ crossing.store.keys := sound.keys.mpr has
  exact absurd known (by decide)

end Traffic

end FeedIngest.Catalog
