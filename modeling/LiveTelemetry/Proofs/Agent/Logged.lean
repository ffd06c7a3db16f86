import LiveTelemetry.Agent
import LiveTelemetry.Proofs.Loop.Watch
import LiveTelemetry.Proofs.Uplink.Posts
/-!
What an agent asks of its service. Main statement: a run of an agent comes with the contacts that it
had, and a link that writes down what it carries has carried what these took and nothing more.
-/
namespace LiveTelemetry

open Loop (Exchange Partners Runs State Visits)
open Uplink (Contact)

/-- The same setting, whose link now writes down what it carries. -/
def Setting.traced (w : Setting σ) : Setting (Http.Traced σ) where
  link := w.link.traced
  backlog s := w.backlog s.beyond
  keep b s := { s with beyond := w.keep b s.beyond }
  elapse now s := { s with beyond := w.elapse now s.beyond }
  stamp := w.stamp
  stops s t := w.stops s.beyond t.beyond

namespace Agent

/-- An agent whose link has carried so much. -/
def tracing (a : Agent σ) (carried : List Http.Carriage) : Agent (Http.Traced σ) :=
  { a with world := ⟨a.world, carried⟩ }

/-- An agent without what its link wrote down. -/
def plain (a : Agent (Http.Traced σ)) : Agent σ := { a with world := a.world.beyond }

@[simp] theorem plain_tracing (a : Agent σ) (carried : List Http.Carriage) :
    (a.tracing carried).plain = a :=
  rfl

@[simp] theorem tracing_carried (a : Agent σ) (carried : List Http.Carriage) :
    (a.tracing carried).world.carried = carried :=
  rfl

/-- An agent, and the contacts that it had with its service. -/
structure Logged (σ : Type) where
  agent : Agent σ
  log : List Contact

section

variable (w : Setting σ) (now : Nat) (endpoint : Option String) (a : Agent σ)

/-- The contact of a ping. -/
def pingContact : Contact :=
  a.uplink.asking w.link (w.stamp now a.stamps).time endpoint (w.elapse now a.world)

/-- The contacts of a send. -/
def postContacts : List Contact :=
  (Uplink.posts w.link a.outbox.queued.toList a.uplink (w.elapse now a.world)).map .post

end

/-- An agent as the partners of its loop, which now write down its contacts. -/
def logged (w : Setting σ) : Partners (Logged σ) where
  ping now endpoint a :=
    (((partners w).ping now endpoint a.agent).1,
      ⟨((partners w).ping now endpoint a.agent).2,
        a.log ++ [a.agent.pingContact w now endpoint]⟩)
  prepare now endpoint a :=
    (((partners w).prepare now endpoint a.agent).1,
      ⟨((partners w).prepare now endpoint a.agent).2, a.log⟩)
  send now a :=
    (((partners w).send now a.agent).1,
      ⟨((partners w).send now a.agent).2, a.log ++ a.agent.postContacts w now⟩)
  directive a := (partners w).directive a.agent

/-- What the agent does with its contacts written down. -/
theorem logged_eq (w : Setting σ) (now : Nat) (endpoint : Option String) (a : Logged σ) :
    (logged w).ping now endpoint a = (((partners w).ping now endpoint a.agent).1,
      ⟨((partners w).ping now endpoint a.agent).2,
        a.log ++ [a.agent.pingContact w now endpoint]⟩) ∧
    (logged w).prepare now endpoint a = (((partners w).prepare now endpoint a.agent).1,
      ⟨((partners w).prepare now endpoint a.agent).2, a.log⟩) ∧
    (logged w).send now a = (((partners w).send now a.agent).1,
      ⟨((partners w).send now a.agent).2, a.log ++ a.agent.postContacts w now⟩) :=
  ⟨rfl, rfl, rfl⟩

theorem logged_directive (w : Setting σ) (a : Logged σ) :
    (logged w).directive a = (partners w).directive a.agent :=
  rfl

theorem logged_shows (w : Setting σ) : (logged w).Shows (partners w) Logged.agent :=
  ⟨fun _ _ _ => rfl, fun _ _ _ => rfl, fun _ _ => rfl, fun _ => rfl⟩

section

variable (w : Setting σ) (now : Nat) (endpoint : Option String) (a : Agent (Http.Traced σ))

theorem pingContact_traced : a.pingContact w.traced now endpoint =
    a.plain.pingContact w now endpoint :=
  Uplink.asking_traced ..

theorem postContacts_traced : a.postContacts w.traced now = a.plain.postContacts w now :=
  congrArg (List.map Contact.post) (Uplink.posts_traced ..)

/-- A link that writes down what it carries changes nothing else for a ping, and writes down what
the one contact takes. -/
theorem ping_traced :
    let x := (partners w).ping now endpoint a.plain
    (partners w.traced).ping now endpoint a =
      (x.1, x.2.tracing (a.world.carried ++ (a.plain.pingContact w now endpoint).carried)) := by
  simp only [partners, ping, elapse, reply, Setting.traced, Uplink.ping_traced, plain, tracing,
    pingContact]

theorem prepare_traced :
    let x := (partners w).prepare now endpoint a.plain
    (partners w.traced).prepare now endpoint a = (x.1, x.2.tracing a.world.carried) := by
  simp only [partners, prepare, elapse, Setting.traced, plain, tracing]

/-- For a send it writes down what the posts of the batches take, and nothing more. -/
theorem send_traced :
    let x := (partners w).send now a.plain
    (partners w.traced).send now a =
      (x.1, x.2.tracing (a.world.carried ++
        (a.plain.postContacts w now).flatMap Contact.carried)) := by
  simp only [partners, send, elapse, reply, Uplink.send, Setting.traced, Uplink.postAll_traced,
    plain, tracing, postContacts, List.flatMap_map]
  rfl

end

theorem logged_traced_shows (w : Setting σ) :
    (logged w.traced).Shows (logged w) fun a => ⟨a.agent.plain, a.log⟩ := by
  refine ⟨?_, ?_, ?_, fun _ => rfl⟩
  · intro now e a
    simp only [logged, ping_traced, pingContact_traced, plain_tracing]
  · intro now e a
    simp only [logged, prepare_traced, plain_tracing]
  · intro now a
    simp only [logged, send_traced, postContacts_traced, plain_tracing]

/-- All that the link carried was for the contacts that were written down. -/
theorem carried_eq_of_visits {w : Setting σ} {i : Intervals}
    {s₀ s : State (Logged (Http.Traced σ))} (h : Visits (logged w.traced) i s₀ s)
    (h₀ : s₀.partners.agent.world.carried = s₀.partners.log.flatMap Contact.carried) :
    s.partners.agent.world.carried = s.partners.log.flatMap Contact.carried := by
  apply h.keeps (P := fun a => a.agent.world.carried = a.log.flatMap Contact.carried) ?_ ?_ ?_ h₀
  · intro now e a ha
    simp only [logged, ping_traced, pingContact_traced, tracing_carried, List.flatMap_append,
      List.flatMap_singleton, ha]
  · intro now e a ha
    simp only [logged, prepare_traced, tracing_carried]
    exact ha
  · intro now a ha
    simp only [logged, send_traced, postContacts_traced, tracing_carried, List.flatMap_append, ha]

/-- The loop of an agent that has made contacts. -/
def keeping (s : State (Agent σ)) (log : List Contact) : State (Logged σ) :=
  { s with partners := ⟨s.partners, log⟩ }

/-- A run of an agent comes to `s`. By then the loop had the exchanges `xs` with the agent, and the
agent the contacts `log` with its service; and over a link that writes down what it carries, the
same run has what the contacts took written down and nothing more. -/
structure Logs (w : Setting σ) (i : Intervals) (s₀ : State (Agent σ)) (xs : List Exchange)
    (log : List Contact) (s : State (Agent σ)) : Prop where
  contacts : Runs (logged w) i (keeping s₀ []) xs (keeping s log)
  carried : Runs (partners w.traced) i { s₀ with partners := s₀.partners.tracing [] } xs
    { s with partners := s.partners.tracing (log.flatMap Contact.carried) }

/-- The contacts that are written down beside an agent are those that its link carries. -/
theorem Logs.of_contacts {w : Setting σ} {i : Intervals} {s₀ s : State (Agent σ)}
    {xs : List Exchange} {log : List Contact}
    (h : Runs (logged w) i (keeping s₀ []) xs (keeping s log)) : Logs w i s₀ xs log s := by
  let t₀ : State (Logged (Http.Traced σ)) :=
    { s₀ with partners := ⟨s₀.partners.tracing [], []⟩ }
  obtain ⟨t, ht, hr⟩ := Runs.lift (logged_traced_shows w) t₀ h
  have hcarried := carried_eq_of_visits hr.visits rfl
  obtain rfl : t.through (fun a => a.agent.plain) = s := congrArg (State.through Logged.agent) ht
  obtain rfl : t.partners.log = log := congrArg (fun s => s.partners.log) ht
  refine ⟨h, ?_⟩
  rw [← hcarried]
  exact hr.through (logged_shows w.traced)

theorem exists_log {w : Setting σ} {i : Intervals} {s₀ s : State (Agent σ)} {xs : List Exchange}
    (h : Runs (partners w) i s₀ xs s) : ∃ log, Logs w i s₀ xs log s := by
  obtain ⟨t, rfl, ht⟩ := Runs.lift (logged_shows w) (keeping s₀ []) h
  exact ⟨t.partners.log, .of_contacts ht⟩

end Agent

end LiveTelemetry
