import LiveTelemetry.Proofs.Directive.Grammar
import LiveTelemetry.Proofs.Uplink.Posts
import LiveTelemetry.Proofs.Url.Appended
/-!
The resources of a service that an uplink is redirected to. Main statement: they are below the path
of the redirect's URL exactly if that has neither query nor fragment, and the path of the endpoint
that is kept of it does not end in a slash.
-/
namespace LiveTelemetry

/-- Posts a body to a place, if requests can be sent there. -/
def Http.Link.postTo (l : Http.Link σ) (timeout : Nat) (place : Url) (body : List Char) (s : σ) :
    Http.Exchange σ :=
  if place.isReachable then
    l.follow timeout place Http.maxHops 0 ⟨.post, place, some body⟩ s
  else ⟨.error (.unusable (some place)), 0, s⟩

theorem Http.Link.post_eq_postTo (l : Http.Link σ) (timeout : Nat) {target : String} {u : Url}
    (h : Url.parse? target = some u) (body : List Char) (s : σ) :
    l.post timeout target body s = l.postTo timeout u.withoutUser body s := by
  rw [post, postTo, Url.ofTarget, h]
  by_cases hreach : u.withoutUser.isReachable = true
  · simp only [hreach, if_true]
  · simp only [hreach, if_false, Bool.false_eq_true]

namespace Uplink

open Url (Closes)

/-- Where the requests for a resource of a service go. `base` is the URL that the service's endpoint
spells with a slash after it. -/
structure Placed (service base : Url) (resource : String) (place : Url) : Prop where
  scheme : place.scheme = service.scheme
  host : place.host = service.host
  port : place.port = service.port
  /-- The resource stands in place of slashes at the end of the service's URL. -/
  ends : ∃ front n, service.closing.text service = some (front ++ List.replicate n '/') ∧
    Closes service (front ++ ['/']) base ∧ Closes service (front ++ resource.toList) place
  below : place.path.print = Text.dropTrailing (· == '/') service.path.print ++ resource.toList ↔
    service.query = none ∧ service.fragment = none ∧ ¬ ['/', '/'] <:+ base.path.print

theorem placed_of_closes {service base q : Url} {front : List Char} {n : Nat} {resource : String}
    (ends : service.closing.text service = some (front ++ List.replicate n '/'))
    (hbase : Closes service (front ++ ['/']) base)
    (place : Closes service (front ++ resource.toList) q)
    (hresource : ∃ c ∈ resource.toList, c ≠ '/') :
    Placed service base resource q.withoutUser := by
  have hplace := place.withoutUser
  exact ⟨hplace.scheme, hplace.host, hplace.port, ⟨front, n, ends, hbase, hplace⟩,
    hbase.path_iff ends hplace hresource⟩

/-- Pings and posts for the endpoint of a redirect go to one place each, whichever uplink makes
them: to the scheme, host and port of the redirect's URL, and below its path exactly if it has
neither query nor fragment, and the path of the endpoint does not end in a slash of its own, as it
does behind a backslash. Else the resource is asked for in the fragment or the query, or next to an
empty segment. -/
theorem placed_of_redirect {ls : Directive.Lines} {hs : Http.Headers} {r : Redirect}
    (h : Directive.headers? ls = some hs) (hr : (Directive.ofHeaders hs).1.redirect = some r)
    {text : String} (said : Directive.Says ls .redirect text) {service : Url}
    (url : Url.parse? text = some service) :
    ∃ base pinged posted, Url.parse? (r.endpoint ++ "/") = some base ∧
      Placed service base pingPath pinged ∧ Placed service base postPath posted ∧
      (∀ (σ : Type) (u : Uplink) (l : Http.Link σ) (time : Instant) (s : σ),
        u.inquiry l time (some r.endpoint) s = l.postTo u.timeout pinged (u.pingBody time) s) ∧
      ∀ (σ : Type) (u : Uplink) (l : Http.Link σ) (b : Telemetry.Batch) (s : σ),
        b.endpoint = some r.endpoint →
          u.exchange l b s = l.postTo u.timeout posted b.print s := by
  obtain ⟨u, hu, http, shorter⟩ := Directive.redirect_of_ofHeaders h hr said
  obtain rfl := Option.some.inj (hu.symm.trans url)
  obtain ⟨first, last⟩ := said.visible
  obtain ⟨front, ⟨n, hends⟩, hresource⟩ := Url.exists_closes url http shorter first last
  have hplain (x : List Char) (hx : x.all Url.isPlain = true) : Url.Plain x :=
    fun c hc => List.all_eq_true.1 hx c hc
  obtain ⟨base, hbase, hslash⟩ := hresource "/" [] rfl (hplain _ rfl)
  obtain ⟨ping, hping, hpinged⟩ :=
    hresource pingPath "live/v1/ping".toList (by decide) (hplain _ (by decide))
  obtain ⟨post, hpost, hposted⟩ :=
    hresource postPath "live/v1/post".toList (by decide) (hplain _ (by decide))
  have htarget (u : Uplink) (resource : String) :
      u.target (some r.endpoint) resource = r.endpoint ++ resource := by
    rw [target, Option.getD_some, Text.trimSlashes_eq_iff.2 ⟨⟨0, by simp⟩, shorter.2⟩]
  refine ⟨base, ping.withoutUser, post.withoutUser, hbase,
    placed_of_closes hends hslash hpinged ⟨'l', by decide, by decide⟩,
    placed_of_closes hends hslash hposted ⟨'l', by decide, by decide⟩, ?_, ?_⟩
  · intro σ u l time s
    rw [inquiry, htarget]
    exact l.post_eq_postTo u.timeout hping _ s
  · intro σ u l b s hb
    rw [exchange, hb, htarget]
    exact l.post_eq_postTo u.timeout hpost _ s

/-- A redirect with a query, where the resource is asked for in the query and the path stays. -/
theorem placed_of_redirect_with_query :
    let bytes (s : String) : List UInt8 := Text.Utf8.encode s.toList
    let text := "http://a.test/x/?q=1/"
    let ls : Directive.Lines := [(bytes "x-live-metrics-subscribed", bytes "true"),
      (bytes "x-live-metrics-endpoint-redirect", bytes text)]
    ∃ hs r service place, Directive.headers? ls = some hs ∧
      (Directive.ofHeaders hs).1.redirect = some r ∧ Directive.Says ls .redirect text ∧
      Url.parse? text = some service ∧ r.endpoint = "http://a.test/x/?q=1" ∧
      (∀ (σ : Type) (u : Uplink) (l : Http.Link σ) (time : Instant) (s : σ),
        u.inquiry l time (some r.endpoint) s = l.postTo u.timeout place (u.pingBody time) s) ∧
      place.path.print = "/x/".toList ∧ place.query = some "q=1/live/v1/ping".toList ∧
      place.path.print ≠
        Text.dropTrailing (· == '/') service.path.print ++ "/live/v1/ping".toList := by
  intro bytes text ls
  have hread : (Directive.headers? ls).bind (fun hs => (Directive.ofHeaders hs).1.redirect) =
      some ⟨"http://a.test/x/?q=1", none⟩ := by decide +kernel
  obtain ⟨hs, h, hr⟩ := Option.bind_eq_some_iff.1 hread
  have said : Directive.Says ls .redirect text :=
    ⟨bytes text, by decide +kernel, by decide +kernel, Text.trim_eq_iff.1 (by decide +kernel)⟩
  have hservice : (Url.parse? text).map (fun u => (u.path.print, u.query, u.fragment)) =
      some ("/x/".toList, some "q=1/".toList, none) := by decide +kernel
  obtain ⟨service, url, hparts⟩ := Option.map_eq_some_iff.1 hservice
  have hbase : (Url.parse? ("http://a.test/x/?q=1" ++ "/")).bind (·.query) =
      some "q=1/".toList := by decide +kernel
  clear_value ls
  obtain ⟨base, place, -, hslash, hplaced, -, hpings, -⟩ := placed_of_redirect h hr said url
  obtain ⟨hpath, hquery, hfragment⟩ :
      service.path.print = "/x/".toList ∧ service.query = some "q=1/".toList ∧
        service.fragment = none := by simpa using hparts
  have hclosing : service.closing = .query := by simp [Url.closing, hquery, hfragment]
  obtain ⟨front, n, -, hbase', hcloses⟩ := hplaced.ends
  have hfront : front = "q=1".toList := by
    have hquery' : base.query = some (front ++ ['/']) := by
      simpa [hclosing, Url.Closing.text] using hbase'.last
    rw [hslash, Option.bind_some, hquery', Option.some.injEq] at hbase
    exact List.append_cancel_right (hbase.trans (by decide))
  refine ⟨hs, _, service, place, h, hr, said, url, rfl, hpings, ?_, ?_, ?_⟩
  · have hsame := hcloses.others .path (by simp [hclosing])
    rw [← hpath]
    exact Option.some.inj hsame
  · have hlast := hcloses.last
    rw [hclosing, hfront] at hlast
    exact hlast
  · intro heq
    obtain ⟨hnone, -⟩ := hplaced.below.1 heq
    rw [hquery] at hnone
    contradiction

end Uplink

end LiveTelemetry
