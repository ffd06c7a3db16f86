import LiveTelemetry.Proofs.Agent.Contact
import LiveTelemetry.Proofs.Settings.Settled
import LiveTelemetry.Proofs.Uplink.Resource
import LiveTelemetry.Proofs.Url.Endpoint
/-!
Where an agent's requests go while no redirect is in force. Main statement: settings that were read
need not give them a URL that can be asked, and an agent without one never sends anything.
-/
namespace LiveTelemetry

open Loop (Exit State Visits)
open Uplink (Contact)
open Url (Begins Hostless)

theorem Settings.Kept.begins {url : String} (h : Settings.Kept url) :
    ∃ scheme after, Begins url scheme after := by
  rcases h.http with ⟨after, htext⟩ | ⟨after, htext⟩
  · exact ⟨_, after, htext.symm, .inl rfl⟩
  · exact ⟨_, after, htext.symm, .inr rfl⟩

namespace Uplink

/-- The resources are plain text after a slash, and the first segment of each is good for a host. -/
theorem exists_of_resource {resource : String} (h : resource ∈ [pingPath, postPath])
    {scheme : List Char} (http : scheme = "http".toList ∨ scheme = "https".toList) :
    ∃ x, resource.toList = '/' :: x ∧ Url.Plain x ∧
      ∃ q, Url.readAuthority scheme (x.dropWhile (Url.isSlash true)) = some q ∧
        q.host.map Url.Host.print = some "live".toList := by
  have hplain (x : List Char) (hx : x.all Url.isPlain = true) : Url.Plain x :=
    fun c hc => List.all_eq_true.1 hx c hc
  simp only [List.mem_cons, List.not_mem_nil, or_false] at h
  rcases h with rfl | rfl
  · refine ⟨"live/v1/ping".toList, by decide, hplain _ (by decide), ?_⟩
    apply Option.map_eq_some_iff.1
    rcases http with rfl | rfl <;> decide +kernel
  · refine ⟨"live/v1/post".toList, by decide, hplain _ (by decide), ?_⟩
    apply Option.map_eq_some_iff.1
    rcases http with rfl | rfl <;> decide +kernel

theorem target_of_kept {s : Settings} (h : Settings.Kept s.endpoint) (resource : String) :
    (ofSettings s).target none resource = s.endpoint ++ resource := by
  have hsame : Text.trimSlashes s.endpoint = s.endpoint :=
    Text.trimSlashes_eq_iff.2 ⟨⟨0, by simp⟩, h.last⟩
  rw [target, Option.getD_none, ofSettings, make, hsame, hsame]

/-- A request to a place that cannot be asked fails before anything is sent. -/
theorem inquiry_of_unusable {u : Uplink} {endpoint : Option String}
    (h : ∀ q, Url.ofTarget (u.target endpoint pingPath) ≠ .ok q) (l : Http.Link σ) (time : Instant)
    (s : σ) : ∃ failure, u.inquiry l time endpoint s = ⟨.error failure, 0, s⟩ := by
  cases hplace : Url.ofTarget (u.target endpoint pingPath) with
  | ok q => exact absurd hplace (h q)
  | error failure => exact ⟨failure, by rw [inquiry, Http.Link.post, hplace]⟩

theorem inquiry_of_usable {u : Uplink} {endpoint : Option String} {q : Url}
    (h : Url.ofTarget (u.target endpoint pingPath) = .ok q) (l : Http.Link σ) (time : Instant)
    (s : σ) : u.inquiry l time endpoint s =
      l.follow u.timeout q Http.maxHops 0 ⟨.post, q, some (u.pingBody time)⟩ s := by
  rw [inquiry, Http.Link.post, h]

end Uplink

namespace Agent

/-- What an agent has come to that began as `a` and whose calls so far were pings that failed before
anything was sent. -/
def idled (w : Setting σ) (a : Agent σ) (calls : List (Nat × Loop.Call)) : Agent σ :=
  { a with
    uplink := { a.uplink with
      tally := { a.uplink.tally with
        failures := a.uplink.tally.failures + calls.length } }
    stamps := a.stamps + calls.length
    world := calls.foldl (fun x c => w.elapse c.1 x) a.world }

/-- The loop of an agent that began as `a` has done nothing but ping, and no ping was sent: time
passed for the world, and that is all that happened to it. -/
structure Barred (w : Setting σ) (a : Agent σ) (s : State (Agent σ)) : Prop where
  mode : s.mode ≠ .sending
  override : s.override = none
  pings : ∀ c ∈ s.calls, c.2 = .ping none
  tally : s.tally = { CycleTally.zero with failures := s.calls.length }
  agent : s.partners = a.idled w s.calls

section

variable {w : Setting σ} {i : Intervals} {a : Agent σ}

theorem endpoint_of_no_override {s : State σ} (h : s.override = none) : s.endpoint.1 = none := by
  rw [State.endpoint, h]
  rfl

/-- A ping that cannot be made fails, and costs the agent a stamp and a count. -/
theorem ping_idled (barred : ∀ q, Url.ofTarget (a.uplink.target none Uplink.pingPath) ≠ .ok q)
    (now : Nat) (calls : List (Nat × Loop.Call)) :
    (∃ e, ((partners w).ping now none (a.idled w calls)).1.outcome = .error e) ∧
    ((partners w).ping now none (a.idled w calls)).2 =
      a.idled w (calls ++ [(now, .ping none)]) := by
  let b := a.idled w calls
  have htarget : b.uplink.target none Uplink.pingPath = a.uplink.target none Uplink.pingPath := rfl
  rw [← htarget] at barred
  obtain ⟨failure, hinquiry⟩ := Uplink.inquiry_of_unusable barred w.link
    (w.stamp now b.stamps).time (w.elapse now b.world)
  obtain ⟨houtcome, hafter⟩ := ping_spec w now none b
  constructor
  · refine ⟨(Uplink.Error.ofFailure failure).message, ?_⟩
    rw [houtcome, Contact.outcome, pingContact, Uplink.asking_response, hinquiry]
    rfl
  · rw [hafter, hinquiry]
    simp only [idled, List.length_append, List.foldl_append, b]
    rfl

theorem Barred.turn {s : State (Agent σ)} (h : Barred w a s) (going : s.mode ≠ .stopped)
    (barred : ∀ q, Url.ofTarget (a.uplink.target none Uplink.pingPath) ≠ .ok q) :
    Barred w a (s.turn (partners w) i) := by
  have hnone := endpoint_of_no_override h.override
  obtain ⟨⟨e, hfailed⟩, hafter⟩ := ping_idled (w := w) barred s.clock s.calls
  rw [← h.agent, ← hnone] at hfailed hafter
  have hreply : (s.pingReply (partners w)).outcome = .error e := hfailed
  obtain ⟨t, wait, hexit, hturn⟩ := Loop.turn_exit (partners w) i going
  rw [hturn]
  cases hexit with
  | @pingFailed e' mode reply =>
    let t := ((s.pinged (partners w)).countFailure.note
      (.pingFailed e' s.endpoint.1 i.error)).rest (some i.error)
    have hcalls : t.calls = s.calls ++ [(s.clock, .ping s.endpoint.1)] := by simp [t]
    have hpartners : t.partners = ((partners w).ping s.clock s.endpoint.1 s.partners).2 := by
      simp [t, State.askThere_partners]
    have hlength : t.calls.length = s.calls.length + 1 := by rw [hcalls, List.length_append]; rfl
    refine ⟨?_, ?_, ?_, ?_, ?_⟩
    · simp [mode]
    · simp [h.override, Override.current]
    · intro c hc
      rcases List.mem_append.1 (hcalls ▸ hc) with hc | hc
      · exact h.pings c hc
      · obtain rfl := List.mem_singleton.1 hc
        exact congrArg _ hnone
    · rw [hlength]
      simp [h.tally]
    · rw [hcalls, hpartners, hafter]
  | activated mode reply active =>
    rw [hreply] at reply
    cases reply
  | idle mode reply idle =>
    rw [hreply] at reply
    cases reply
  | prepareFailed mode reply => exact absurd mode h.mode
  | sendFailed mode prepared reply => exact absurd mode h.mode
  | posted mode prepared reply active => exact absurd mode h.mode
  | deactivated mode prepared reply idle => exact absurd mode h.mode

theorem barred_of_visits {clock : Nat} {before : Bool} {wait : Option Nat} {s : State (Agent σ)}
    (h : Visits (partners w) i (State.opening clock before wait a) s)
    (barred : ∀ q, Url.ofTarget (a.uplink.target none Uplink.pingPath) ≠ .ok q) :
    Barred w a s := by
  induction h with
  | start =>
    have hcalls : ((State.opening clock before wait a).start i).calls = [] := by simp
    refine ⟨?_, ?_, ?_, ?_, ?_⟩
    · simp
    · simp
    · simp
    · rw [hcalls]
      cases before <;> rfl
    · rw [hcalls]
      cases before <;> rfl
  | turn _ going _ ih => exact ih.turn going barred
  | finish _ _ _ ih =>
    refine ⟨?_, ?_, ?_, ?_, ?_⟩
    · simp
    · simp [ih.override]
    · simpa using ih.pings
    · simp [ih.tally]
    · simp [ih.agent]

/-- The first cycle of an agent posts its ping to the place that the endpoint gives. -/
theorem first_ping {clock : Nat} {wait : Option Nat} {q : Url}
    (asked : Url.ofTarget (a.uplink.target none Uplink.pingPath) = .ok q) :
    ∃ body, (((State.opening clock false wait a).start i).turn (partners w) i).partners.world =
      (w.link.follow a.uplink.timeout q Http.maxHops 0 ⟨.post, q, some body⟩
        (w.elapse clock a.world)).beyond := by
  let s := (State.opening clock false wait a).start i
  have hm : s.mode = .pinging := rfl
  obtain ⟨t, rest, hexit, hturn⟩ := Loop.turn_exit (partners w) i (s := s) (by rw [hm]; decide)
  have hpartners : t.partners = ((partners w).ping clock none a).2 := by
    rcases hexit.partners_eq with ⟨-, hpinged⟩ | ⟨hsending, -⟩ | ⟨hsending, -⟩
    · rw [hpinged, State.pinged, State.askThere_partners, endpoint_of_no_override rfl]
      rfl
    · cases hm.symm.trans hsending
    · cases hm.symm.trans hsending
  obtain ⟨-, hafter⟩ := ping_spec w clock none a
  refine ⟨a.uplink.pingBody (w.stamp clock a.stamps).time, ?_⟩
  rw [hturn, (t.rest_fields rest).2.2.2, hpartners, hafter,
    Uplink.inquiry_of_usable asked]

end

/-- An agent with settings that were read asks for a resource at the text of its endpoint with that
of the resource after it. That is a URL exactly if the endpoint is one with a slash after it, or
names no host, when the first segment of the resource is taken for a host. If its pings cannot be
made, an agent never sends anything; else its first one is sent. -/
theorem asked_or_barred {env : Environment} {s : Settings} (h : Settings.read env = .ok s) :
    ∃ scheme after, Begins s.endpoint scheme after ∧
      (∀ resource ∈ [Uplink.pingPath, Uplink.postPath],
        (Uplink.ofSettings s).target none resource = s.endpoint ++ resource ∧
        ((∃ q, Url.parse? (s.endpoint ++ resource) = some q) ↔
          (∃ base, Url.parse? (s.endpoint ++ "/") = some base) ∨ Hostless after) ∧
        ∀ q, Url.parse? (s.endpoint ++ resource) = some q →
          q.scheme = scheme ∧ q.isHttp = true ∧
            (Hostless after → q.host.map Url.Host.print = some "live".toList)) ∧
      ((∀ c ∈ s.endpoint.toList.getLast?, 0x20 < c.toNat) →
        ((∃ r, Url.parse? s.endpoint = some r) ↔
          ∃ base, Url.parse? (s.endpoint ++ "/") = some base)) ∧
      ∀ (σ : Type) (w : Setting σ) (o : Outbox) (stamps : Nat) (world : σ) (clock : Nat)
        (wait : Option Nat), let a : Agent σ := ⟨Uplink.ofSettings s, o, stamps, world⟩
        ((∀ q, Url.ofTarget (s.endpoint ++ Uplink.pingPath) ≠ .ok q) →
          ∀ before t, Visits (partners w) s.intervals (State.opening clock before wait a) t →
            Barred w a t) ∧
        ∀ q, Url.ofTarget (s.endpoint ++ Uplink.pingPath) = .ok q → ∃ body,
          (((State.opening clock false wait a).start s.intervals).turn (partners w)
              s.intervals).partners.world =
            (w.link.follow s.requestTimeout q Http.maxHops 0 ⟨.post, q, some body⟩
              (w.elapse clock world)).beyond := by
  have hvalues := Settings.read_eq_ok_iff_sets.1 h
  have hkept := Settings.Kept.of_sets (hvalues .endpoint)
  obtain ⟨scheme, after, hbegins⟩ := hkept.begins
  have htarget := Uplink.target_of_kept hkept
  refine ⟨scheme, after, hbegins, ?_, hbegins.parse?_iff_of_visible, ?_⟩
  · intro resource hresource
    obtain ⟨x, hr, hx, named, hnamed, hlive⟩ := Uplink.exists_of_resource hresource hbegins.http
    refine ⟨htarget resource, hbegins.parse?_iff hr hx ⟨named, hnamed⟩, ?_⟩
    intro q hq
    obtain ⟨hscheme, http⟩ := hbegins.scheme_eq hr hx hq
    refine ⟨hscheme, http, ?_⟩
    intro hostless
    rw [hbegins.parse?_of_hostless hostless hr hx, hnamed] at hq
    rw [← Option.some.inj hq, hlive]
  · intro σ w o stamps world clock wait a
    rw [← htarget]
    constructor
    · intro barred before t hvisits
      exact barred_of_visits hvisits barred
    · intro q asked
      exact first_ping asked

/-- A port that is none leaves an agent without a ping for all its life, and slashes alone leave it
with the first segment of its resources for a host. -/
theorem asked_or_barred_of_port :
    let env (text : String) : Environment := fun v =>
      if v = .endpoint then some (Text.Utf8.encode text.toList) else none
    let s : Settings := { Settings.standard with endpoint := "http://localhost:99999" }
    let t : Settings := { Settings.standard with endpoint := "http://\\" }
    Settings.read (env "http://localhost:99999") = .ok s ∧
      (∀ resource ∈ [Uplink.pingPath, Uplink.postPath],
        Url.parse? (s.endpoint ++ resource) = none) ∧
      (∀ (σ : Type) (w : Setting σ) (world : σ) (r : State (Agent σ)),
        Visits (partners w) s.intervals (State.opening 0 false none
          ⟨Uplink.ofSettings s, Console.newOutbox, 0, world⟩) r →
        Barred w ⟨Uplink.ofSettings s, Console.newOutbox, 0, world⟩ r) ∧
      Settings.read (env "http://\\") = .ok t ∧
      ∀ resource ∈ [Uplink.pingPath, Uplink.postPath], ∃ q,
        Url.parse? (t.endpoint ++ resource) = some q ∧
          q.host.map Url.Host.print = some "live".toList := by
  intro env s t
  have hs : Settings.read (env "http://localhost:99999") = .ok s := by decide +kernel
  have ht : Settings.read (env "http://\\") = .ok t := by decide +kernel
  have hnone : ∀ resource ∈ [Uplink.pingPath, Uplink.postPath],
      Url.parse? (s.endpoint ++ resource) = none := by
    intro resource hresource
    simp only [List.mem_cons, List.not_mem_nil, or_false] at hresource
    rw [← Option.isNone_iff_eq_none]
    rcases hresource with rfl | rfl <;> decide +kernel
  refine ⟨hs, hnone, ?_, ht, ?_⟩
  · intro σ w world r hvisits
    obtain ⟨_, _, _, _, _, hrun⟩ := asked_or_barred hs
    apply (hrun σ w Console.newOutbox 0 world 0 none).1 _ false r hvisits
    intro q hq
    rw [Url.ofTarget, hnone _ (by simp)] at hq
    cases hq
  · intro resource hresource
    obtain ⟨scheme, after, hbegins, hasked, -⟩ := asked_or_barred ht
    obtain ⟨-, hiff, hlive⟩ := hasked resource hresource
    have hafter : after = ['\\'] := by
      have htext := hbegins.text
      rcases hbegins.http with rfl | rfl
      · simpa [t, eq_comm] using htext
      · simp [t] at htext
    have hostless : Hostless after := by
      intro c hc
      rw [hafter] at hc
      exact .inl (.inr (List.mem_singleton.1 hc))
    obtain ⟨q, hq⟩ := hiff.2 (.inr hostless)
    exact ⟨q, hq, (hlive q hq).2.2 hostless⟩

end Agent

end LiveTelemetry
