import LiveTelemetry.Http.Site
import LiveTelemetry.Proofs.Uplink.Session
/-!
Which directive an uplink holds. Main statement: it is the one in the answer to the batch that the
service took last, whatever was asked and whatever failed since.
-/
namespace LiveTelemetry.Uplink

open Telemetry (Batch)

/-- What the service wants, by its answer to a batch that it took. -/
def Post.wanted? (p : Post) : Option Directive :=
  match p.attempt.response with
  | .ok a =>
    if 200 ≤ a.status.code ∧ a.status.code < 300 then some (Directive.ofHeaders a.headers).1
    else none
  | .error _ => none

/-- What the service wanted when it last took one of the batches, if it took any. -/
def lastWanted? (ps : List Post) : Option Directive := (ps.filterMap Post.wanted?).getLast?

theorem lastWanted?_append (ps qs : List Post) :
    lastWanted? (ps ++ qs) = (lastWanted? qs).or (lastWanted? ps) := by
  rw [lastWanted?, List.filterMap_append, List.getLast?_append]
  rfl

theorem lastWanted?_of_taken {ps : List Post} (h : ∀ p ∈ ps, p.wanted?.isSome) :
    lastWanted? ps = ps.getLast?.bind Post.wanted? := by
  cases ps using List.reverseRecOn with
  | nil => rfl
  | append_singleton ps p =>
    obtain ⟨d, hd⟩ := Option.isSome_iff_exists.1 (h p (by simp))
    rw [lastWanted?_append]
    simp [lastWanted?, hd]

/-- What is wanted is what the uplink reads out of the response. -/
theorem Post.wanted?_eq (p : Post) : p.wanted? = p.outcome.toOption := by
  rw [wanted?, outcome, verdict]
  cases hr : p.attempt.response with
  | error e => rfl
  | ok a =>
    by_cases hs : 200 ≤ a.status.code ∧ a.status.code < 300
    · have hsuccess : a.status.isSuccess = true := by simpa [Http.Status.isSuccess] using hs
      simp only [judge, hs, hsuccess]
      rfl
    · have hfailure : a.status.isSuccess = false := by
        rw [← Bool.not_eq_true]
        simpa [Http.Status.isSuccess] using hs
      simp only [judge, hs, hfailure]
      rfl

theorem Post.wanted?_of_ok {p : Post} {d : Directive} (h : p.outcome = .ok d) :
    p.wanted? = some d := by
  rw [wanted?_eq, h]
  rfl

theorem Post.wanted?_of_error {p : Post} {e : Error} (h : p.outcome = .error e) :
    p.wanted? = none := by
  rw [wanted?_eq, h]
  rfl

theorem Post.isSome_wanted? (p : Post) : p.wanted?.isSome = p.taken := by
  rw [wanted?_eq, taken]
  cases p.outcome <;> rfl

section

variable (l : Http.Link σ)

/-- Of the batches that are posted, the last one that is taken decides. -/
theorem postAll_observed (batches : List Batch) (u : Uplink) (w : σ) :
    (postAll l batches u w).uplink.observed =
      (lastWanted? (posts l batches u w)).getD u.observed := by
  induction batches generalizing u w with
  | nil => rfl
  | cons b rest ih =>
    cases h : (u.post l b w).outcome with
    | error e =>
      obtain ⟨-, hu, -⟩ := postAll_cons_refused h rest
      have hnone : lastWanted? [u.post l b w] = none := by
        simp [lastWanted?, Post.wanted?_of_error h]
      rw [hu, posts_cons_refused h, hnone]
      rfl
    | ok d =>
      obtain ⟨-, hu, -⟩ := postAll_cons_taken h rest
      have hone : lastWanted? [u.post l b w] = some d := by
        simp [lastWanted?, Post.wanted?_of_ok h]
      rw [hu, ih, posts_cons_taken h, ← List.singleton_append, lastWanted?_append, hone]
      cases lastWanted? (posts l rest (u.countBatch b.size d) (u.exchange l b w).beyond) <;> rfl

/-- Nothing that a ping is answered, and no failure of one, is kept. -/
theorem ping_observed (u : Uplink) (time : Instant) (there : Option String) (w : σ) :
    (u.ping l time there w).uplink.observed = u.observed := by
  obtain ⟨-, hu, -⟩ := ping_eq u l time there w
  rw [hu, settlePing]
  split <;> rfl

end

namespace Session

variable {l : Http.Link σ} {s : Session σ}

/-- Only posts change what an uplink holds. -/
theorem step_observed_of_other {m : Move} (send : m ≠ .send) (post : ∀ place, m ≠ .post place) :
    (s.step l m).uplink.observed = s.uplink.observed ∧
    (s.step l m).contacts.filterMap Contact.post? = s.contacts.filterMap Contact.post? := by
  cases m with
  | queue b =>
    rw [step]
    cases s.outbox.push b <;> exact ⟨rfl, rfl⟩
  | finish => exact ⟨rfl, rfl⟩
  | ping time there =>
    have hkept := ping_observed l s.uplink time there s.beyond
    simp only [step]
    refine ⟨hkept, ?_⟩
    simp [asking, Contact.post?]
  | send => contradiction
  | take => exact ⟨rfl, rfl⟩
  | post place => exact absurd rfl (post place)

/-- What an uplink holds, by the posts that it made. -/
def Holds (s : Session σ) : Prop :=
  s.uplink.observed = (lastWanted? (s.contacts.filterMap Contact.post?)).getD Directive.idle

theorem Holds.of_fresh (endpoint name : String) (timeout : Nat) (o : Outbox) (w : σ) :
    (fresh endpoint name timeout o w).Holds :=
  rfl

theorem Holds.send (h : s.Holds) : (s.step l .send).Holds := by
  let ps := s.sends l
  have hobserved : (s.step l .send).uplink.observed =
      (lastWanted? ps).getD s.uplink.observed :=
    postAll_observed l s.outbox.queued.toList s.uplink s.beyond
  have hposts : (s.step l .send).contacts.filterMap Contact.post? =
      s.contacts.filterMap Contact.post? ++ ps := by
    have hcontacts : (s.step l .send).contacts = s.contacts ++ ps.map .post := rfl
    rw [hcontacts, List.filterMap_append, Contact.filterMap_post?_map]
  rw [Holds, hobserved, hposts, lastWanted?_append, h]
  cases lastWanted? ps <;> rfl

theorem Holds.post (h : s.Holds) (place : Nat) : (s.step l (.post place)).Holds := by
  rcases post_cases (l := l) s place with hs | ⟨posted, b, rest, -, hs⟩
  · rw [hs]
    exact h
  · rw [hs]
    let p := s.uplink.post l b s.beyond
    have hposts : (s.contacts ++ [Contact.post p]).filterMap Contact.post? =
        s.contacts.filterMap Contact.post? ++ [p] := by
      simp [Contact.post?]
    change (s.uplink.settlePost p rest.length).observed =
      (lastWanted? ((s.contacts ++ [Contact.post p]).filterMap Contact.post?)).getD Directive.idle
    rw [hposts, lastWanted?_append]
    cases ho : p.outcome with
    | ok d =>
      have hone : lastWanted? [p] = some d := by simp [lastWanted?, Post.wanted?_of_ok ho]
      rw [settlePost_taken ho, hone]
      rfl
    | error e =>
      have hnone : lastWanted? [p] = none := by simp [lastWanted?, Post.wanted?_of_error ho]
      rw [settlePost_refused ho, hnone]
      exact h

theorem Holds.step (h : s.Holds) (m : Move) : (s.step l m).Holds := by
  by_cases hsend : m = .send
  · subst hsend
    exact h.send
  · by_cases hpost : ∃ place, m = .post place
    · obtain ⟨place, rfl⟩ := hpost
      exact h.post place
    · obtain ⟨hobserved, hposts⟩ := step_observed_of_other (l := l) (s := s) hsend
        fun place hm => hpost ⟨place, hm⟩
      rw [Holds, hobserved, hposts]
      exact h

end Session

open Session (fresh)

/-- An uplink holds the directive in the last answer by which the service took a batch, or an idle
one. Whatever else happens to it leaves what it holds as it is: pings and what they are answered,
batches that come to wait, sends that find none, and posts that fail, with all the batches that are
given up then. The posts are those that the link carried. -/
theorem observed_last (l : Http.Link σ) (w : σ) (endpoint name : String) (timeout : Nat)
    (o : Outbox) (moves : List Move) :
    let s := (fresh endpoint name timeout o (⟨w, []⟩ : Http.Traced σ)).after l.traced moves
    let queued := s.outbox.queued.toList
    let ps := posts l.traced queued s.uplink s.beyond
    let e := (s.uplink.send l.traced s.outbox s.beyond).1
    let sent := s.step l.traced .send
    s.beyond.carried = s.contacts.flatMap Contact.carried ∧
    (∀ c ∈ s.contacts, c.Made (Uplink.make endpoint name timeout)) ∧
    s.uplink.observed =
      (lastWanted? (s.contacts.filterMap Contact.post?)).getD ⟨.idle, none, none⟩ ∧
    (∀ m, m ≠ .send → (∀ place, m ≠ .post place) →
      (s.step l.traced m).uplink.observed = s.uplink.observed ∧
      (s.step l.traced m).contacts.filterMap Contact.post? =
        s.contacts.filterMap Contact.post?) ∧
    sent.uplink = e.uplink ∧ sent.beyond = e.beyond ∧ sent.contacts = s.contacts ++ ps.map .post ∧
    e.beyond.carried = s.beyond.carried ++ ps.flatMap Post.carried ∧
    (queued = [] → ps = [] ∧ e.uplink = s.uplink ∧ e.beyond = s.beyond) ∧
    (∀ err, e.outcome = .error err →
      ∃ taken p lost, ps = taken ++ [p] ∧ queued = taken.map Post.batch ++ p.batch :: lost ∧
        (∀ q ∈ taken, q.wanted?.isSome) ∧ p.wanted? = none ∧
        e.uplink.observed = (taken.getLast?.bind Post.wanted?).getD s.uplink.observed) := by
  intro s queued ps e sent
  have ht := Session.after_carried l endpoint name timeout o w moves
  have hholds : s.Holds := Session.after_keeps (fun _ m h => h.step m)
    (Session.Holds.of_fresh endpoint name timeout o _) moves
  refine ⟨ht.carried, ht.made, hholds, ?_, rfl, rfl, rfl, ?_, ?_, ?_⟩
  · intro m hsend hpost
    exact Session.step_observed_of_other hsend hpost
  · have he : e.beyond = (postAll l.traced queued s.uplink s.beyond).beyond := rfl
    have hps : ps = posts l.traced queued s.uplink s.beyond := rfl
    rw [he, hps, postAll_traced, posts_traced]
  · intro hnone
    have he : e = postAll l.traced queued s.uplink s.beyond := rfl
    have hps : ps = posts l.traced queued s.uplink s.beyond := rfl
    rw [he, hps, hnone]
    exact ⟨rfl, rfl, rfl⟩
  · intro err herr
    have herr : (postAll l.traced queued s.uplink s.beyond).outcome = .error err := herr
    rcases posts_ends l.traced queued s.uplink s.beyond with
      ⟨hall, -, -⟩ | ⟨e', taken, p, lost, -, hps, hqueued, htaken, hp⟩
    · rw [hall] at herr
      contradiction
    · have hwanted : ∀ q ∈ taken, q.wanted?.isSome := by
        intro q hq
        rw [q.isSome_wanted?]
        exact htaken q hq
      have hunwanted := Post.wanted?_of_error hp
      refine ⟨taken, p, lost, hps, hqueued, hwanted, hunwanted, ?_⟩
      have hlast : lastWanted? [p] = none := by simp [lastWanted?, hunwanted]
      have hobserved : e.uplink.observed = (lastWanted? ps).getD s.uplink.observed :=
        postAll_observed l.traced queued s.uplink s.beyond
      have hps' : ps = taken ++ [p] := hps
      rw [hobserved, hps', lastWanted?_append, hlast, lastWanted?_of_taken hwanted]
      rfl

/-- Of three batches the service takes the first one and not the second, and then it answers a ping:
what is held is what the answer to the first batch said. -/
theorem observed_last_of_second_failed :
    let text (s : String) := Text.Utf8.encode s.toList
    let plan (code : Nat) (word : String) : Http.Plan Unit :=
      .make .answers code [(text "x-live-metrics-subscribed", text word)] [] id
    let site : Http.Site Unit := ⟨[plan 200 "true", plan 500 "false", plan 200 "false"], [], ()⟩
    let b : Batch := ⟨.blank, "agent", [], none⟩
    let o : Outbox := ⟨8, Fifo.empty, true, true⟩
    let s := (fresh "http://a" "agent" 1000 o (⟨site, []⟩ : Http.Traced (Http.Site Unit))).after
      Http.Site.link.traced [.queue b, .queue b, .queue b]
    let e := (s.uplink.send Http.Site.link.traced s.outbox s.beyond).1
    let sent := s.step Http.Site.link.traced .send
    let asked := sent.step Http.Site.link.traced (.ping Instant.epoch none)
    (∃ err, e.outcome = .error err) ∧
    (∃ p q, sent.contacts = [.post p, .post q] ∧ p.wanted? = some ⟨.active, none, none⟩ ∧
      q.wanted? = none) ∧
    asked.beyond.carried.length = 3 ∧ asked.outbox.queued.toList = [] ∧
    (asked.step Http.Site.link.traced .send).uplink = asked.uplink ∧
    asked.uplink.observed = ⟨.active, none, none⟩ := by
  intro text plan site b o s e sent asked
  let moves : List Move := [.queue b, .queue b, .queue b]
  have hfails : e.outcome.isOk = false := by decide +kernel
  have hwanted : (sent.contacts.filterMap Contact.post?).map Post.wanted? =
      [some ⟨.active, none, none⟩, none] := by
    decide +kernel
  have hthree : asked.beyond.carried.length = 3 := by decide +kernel
  have hempty : asked.outbox.queued.toList.isEmpty = true := by decide +kernel
  have hunused : s.contacts = [] := rfl
  clear_value site b o
  obtain ⟨err, herr⟩ : ∃ err, e.outcome = .error err := by
    cases ho : e.outcome with
    | error err => exact ⟨err, rfl⟩
    | ok d => simp [ho, Except.isOk, Except.toBool] at hfails
  obtain ⟨-, -, -, -, huplink, -, hsent, -, -, hfailed⟩ :=
    observed_last Http.Site.link site "http://a" "agent" 1000 o moves
  obtain ⟨-, -, -, hother, -⟩ :=
    observed_last Http.Site.link site "http://a" "agent" 1000 o (moves ++ [.send])
  obtain ⟨-, -, -, -, huplink', -, -, -, hnone, -⟩ :=
    observed_last Http.Site.link site "http://a" "agent" 1000 o
      (moves ++ [.send] ++ [.ping Instant.epoch none])
  obtain ⟨taken, p, lost, hps, -, -, -, hobserved⟩ := hfailed err herr
  have hs : (fresh "http://a" "agent" 1000 o (⟨site, []⟩ : Http.Traced (Http.Site Unit))).after
      Http.Site.link.traced moves = s := rfl
  rw [Session.after_snoc, hs] at hother
  rw [Session.after_snoc, Session.after_snoc, hs] at huplink' hnone
  have hcontacts : sent.contacts = (taken ++ [p]).map .post := by
    have hsum : sent.contacts = s.contacts ++ (taken ++ [p]).map .post :=
      hsent.trans (congrArg (fun ps => s.contacts ++ ps.map Contact.post) hps)
    rwa [hunused, List.nil_append] at hsum
  rw [hcontacts, Contact.filterMap_post?_map, List.map_append] at hwanted
  obtain ⟨q, rfl⟩ : ∃ q, taken = [q] := by
    have hlength := congrArg List.length hwanted
    simp only [List.length_append, List.length_map, List.length_cons, List.length_nil] at hlength
    exact List.length_eq_one_iff.1 (by omega)
  obtain ⟨hq, hp⟩ : q.wanted? = some ⟨.active, none, none⟩ ∧ p.wanted? = none := by
    simpa using hwanted
  obtain ⟨-, hidle, -⟩ := hnone (List.isEmpty_iff.1 hempty)
  obtain ⟨hasked, -⟩ := hother (.ping Instant.epoch none) (by simp) (by simp)
  refine ⟨⟨err, herr⟩, ⟨q, p, hcontacts, hq, hp⟩, hthree, List.isEmpty_iff.1 hempty,
    huplink'.trans hidle, ?_⟩
  calc asked.uplink.observed
    _ = sent.uplink.observed := by
      simp only [asked, sent]
      exact hasked
    _ = e.uplink.observed := congrArg Uplink.observed huplink
    _ = ([q].getLast?.bind Post.wanted?).getD s.uplink.observed := hobserved
    _ = ⟨.active, none, none⟩ := by
      rw [List.getLast?_singleton, Option.bind_some, hq, Option.getD_some]

end LiveTelemetry.Uplink
