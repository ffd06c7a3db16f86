import Mathlib.Data.List.Induction
import LiveTelemetry.Notice
/-!
An override in use, by a clock that may go back. Main statement: the endpoint in effect is that of
the last redirect received, unless a look since then found its time over.
-/
namespace LiveTelemetry.Override

/-- What is done with an override: a directive is received, or the endpoint in effect is asked
for. -/
inductive Use where
  | receive (d : Directive) (now : Nat)
  | look (now : Nat)

/-- Whether a redirect comes with a use. -/
def Use.redirects : Use → Bool
  | receive d _ => d.redirect.isSome
  | look _ => false

/-- What a use makes of an override. -/
def use (held : Option Override) : Use → Option Override × Option Change
  | .receive d now => apply held d now
  | .look now => current held now

/-- What a change tells the log. -/
def lines (change : Option Change) : List LogLine :=
  change.toList.map fun c => (Notice.override c).line

/-- What is held after some uses, and all that they told the log. -/
def run (uses : List Use) : Option Override × List LogLine :=
  uses.foldl (fun (held, log) u => ((use held u).1, log ++ lines (use held u).2)) (none, [])

def after (uses : List Use) : Option Override := (run uses).1

def log (uses : List Use) : List LogLine := (run uses).2

@[simp] theorem after_nil : after [] = none := rfl

@[simp] theorem after_snoc (uses : List Use) (u : Use) :
    after (uses ++ [u]) = (use (after uses) u).1 := by
  simp [after, run]

@[simp] theorem log_snoc (uses : List Use) (u : Use) :
    log (uses ++ [u]) = log uses ++ lines (use (after uses) u).2 := by
  simp [log, after, run]

theorem use_silent {held : Option Override} {d : Directive} {now : Nat} (h : d.redirect = none) :
    use held (.receive d now) = (held, none) := by
  simp only [use, apply, h]

theorem use_redirect {held : Option Override} {d : Directive} {r : Redirect} {now : Nat}
    (h : d.redirect = some r) :
    use held (.receive d now) = (some (ofRedirect r now),
      some (if held.map (·.endpoint) = some r.endpoint then .renewed r.endpoint
        else .redirected r.endpoint r.validFor)) := by
  simp only [use, apply, h]

theorem use_lasting {o : Override} {now : Nat} (h : o.expired now = false) :
    use (some o) (.look now) = (some o, none) := by
  simp [use, current, h]

theorem use_over {o : Override} {now : Nat} (h : o.expired now = true) :
    use (some o) (.look now) = (none, some (.ended o.endpoint)) := by
  simp [use, current, h]

/-- The redirect `r`, received at `t`, is the last one, and `since` is what was done after it. -/
def Latest (uses : List Use) (r : Redirect) (t : Nat) (since : List Use) : Prop :=
  ∃ before d, uses = before ++ .receive d t :: since ∧ d.redirect = some r ∧
    ∀ u ∈ since, u.redirects = false

/-- Every look is made before the end of the redirect `r`, if it was received at `t`. -/
def Lasts (r : Redirect) (t : Nat) (uses : List Use) : Prop :=
  ∀ v, r.validFor = some v → ∀ now, .look now ∈ uses → now < t + v

/-- The last redirect is `r`, received at `t`, and no look since has found its time over. -/
def Stands (uses : List Use) (r : Redirect) (t : Nat) : Prop :=
  ∃ since, Latest uses r t since ∧ Lasts r t since

section

variable {uses since : List Use} {r q : Redirect} {d : Directive} {t now : Nat} {u : Use}

theorem not_latest_nil : ¬ Latest [] r t since := by
  rintro ⟨before, d, h, -⟩
  simp at h

theorem Latest.receive (hr : d.redirect = some r) : Latest (uses ++ [.receive d t]) r t [] :=
  ⟨uses, d, rfl, hr, by simp⟩

theorem Latest.snoc (h : Latest uses r t since) (hu : u.redirects = false) :
    Latest (uses ++ [u]) r t (since ++ [u]) := by
  obtain ⟨before, d, rfl, hd, hsince⟩ := h
  refine ⟨before, d, by simp, hd, ?_⟩
  intro x hx
  rcases List.mem_append.1 hx with hx | hx
  · exact hsince x hx
  · obtain rfl := List.mem_singleton.1 hx
    exact hu

/-- The last use either brought the redirect, or was made after it and brought none. -/
theorem Latest.cases_snoc (h : Latest (uses ++ [u]) r t since) :
    (since = [] ∧ ∃ d, u = .receive d t ∧ d.redirect = some r) ∨
    (u.redirects = false ∧ ∃ before, since = before ++ [u] ∧ Latest uses r t before) := by
  obtain ⟨before, d, hsplit, hd, hsince⟩ := h
  cases since using List.reverseRecOn with
  | nil =>
    obtain ⟨-, hu⟩ := List.append_inj' hsplit rfl
    obtain rfl := List.head_eq_of_cons_eq hu
    exact .inl ⟨rfl, d, rfl, hd⟩
  | append_singleton front w =>
    have hsplit : uses ++ [u] = (before ++ .receive d t :: front) ++ [w] := by simpa using hsplit
    obtain ⟨huses, hu⟩ := List.append_inj' hsplit rfl
    obtain rfl := List.head_eq_of_cons_eq hu
    refine .inr ⟨hsince u (by simp), front, rfl, before, d, huses, hd, ?_⟩
    intro x hx
    exact hsince x (List.mem_append_left _ hx)

theorem lasts_nil : Lasts r t [] := by
  intro v _ now hnow
  simp at hnow

theorem lasts_snoc_receive : Lasts r t (uses ++ [.receive d now]) ↔ Lasts r t uses := by
  simp [Lasts]

theorem lasts_snoc_look :
    Lasts r t (uses ++ [.look now]) ↔
      Lasts r t uses ∧ ∀ v, r.validFor = some v → now < t + v := by
  constructor
  · intro h
    refine ⟨?_, ?_⟩
    · intro v hv x hx
      exact h v hv x (List.mem_append_left _ hx)
    · intro v hv
      exact h v hv now (by simp)
  · rintro ⟨huses, hnow⟩ v hv x hx
    rcases List.mem_append.1 hx with hx | hx
    · exact huses v hv x hx
    · obtain rfl : x = now := by simpa using hx
      exact hnow v hv

theorem not_stands_nil : ¬ Stands [] r t := by
  rintro ⟨since, h, -⟩
  exact not_latest_nil h

theorem stands_snoc_redirect (hd : d.redirect = some q) :
    Stands (uses ++ [.receive d now]) r t ↔ r = q ∧ t = now := by
  constructor
  · rintro ⟨since, h, -⟩
    rcases h.cases_snoc with ⟨-, d', hu, hr⟩ | ⟨hu, -⟩
    · obtain ⟨rfl, rfl⟩ := Use.receive.inj hu
      exact ⟨Option.some.inj (hr.symm.trans hd), rfl⟩
    · simp [Use.redirects, hd] at hu
  · rintro ⟨rfl, rfl⟩
    exact ⟨[], Latest.receive hd, lasts_nil⟩

theorem stands_snoc_silent (hd : d.redirect = none) :
    Stands (uses ++ [.receive d now]) r t ↔ Stands uses r t := by
  constructor
  · rintro ⟨since, h, hlasts⟩
    rcases h.cases_snoc with ⟨-, d', hu, hr⟩ | ⟨-, before, rfl, hbefore⟩
    · obtain ⟨rfl, rfl⟩ := Use.receive.inj hu
      simp [hd] at hr
    · exact ⟨before, hbefore, lasts_snoc_receive.1 hlasts⟩
  · rintro ⟨since, h, hlasts⟩
    exact ⟨since ++ [.receive d now], h.snoc (by simp [Use.redirects, hd]),
      lasts_snoc_receive.2 hlasts⟩

theorem stands_snoc_look :
    Stands (uses ++ [.look now]) r t ↔
      Stands uses r t ∧ ∀ v, r.validFor = some v → now < t + v := by
  constructor
  · rintro ⟨since, h, hlasts⟩
    rcases h.cases_snoc with ⟨-, d, hu, -⟩ | ⟨-, before, rfl, hbefore⟩
    · contradiction
    · obtain ⟨hpast, hnow⟩ := lasts_snoc_look.1 hlasts
      exact ⟨⟨before, hbefore, hpast⟩, hnow⟩
  · rintro ⟨⟨since, h, hlasts⟩, hnow⟩
    exact ⟨since ++ [.look now], h.snoc rfl, lasts_snoc_look.2 ⟨hlasts, hnow⟩⟩

end

theorem expired_ofRedirect {r : Redirect} {t now : Nat} :
    (ofRedirect r t).expired now = false ↔ ∀ v, r.validFor = some v → now < t + v := by
  cases hv : r.validFor <;> simp [ofRedirect, expired, hv]

/-- What is held is made by the redirect that stands. -/
theorem after_eq_some_iff (uses : List Use) (o : Override) :
    after uses = some o ↔ ∃ r t, Stands uses r t ∧ o = ofRedirect r t := by
  induction uses using List.reverseRecOn generalizing o with
  | nil => simp [not_stands_nil]
  | append_singleton uses u ih =>
    rw [after_snoc]
    cases u with
    | receive d now =>
      cases hd : d.redirect with
      | none => simp only [use_silent hd, ih, stands_snoc_silent hd]
      | some q =>
        simp only [use_redirect hd, stands_snoc_redirect hd, Option.some.injEq]
        constructor
        · rintro rfl
          exact ⟨q, now, ⟨rfl, rfl⟩, rfl⟩
        · rintro ⟨r, t, ⟨rfl, rfl⟩, rfl⟩
          rfl
    | look now =>
      simp only [stands_snoc_look]
      constructor
      · intro h
        cases hheld : after uses with
        | none => simp [use, current, hheld] at h
        | some held =>
          obtain ⟨r, t, hstands, rfl⟩ := (ih held).1 hheld
          cases hover : (ofRedirect r t).expired now with
          | true => simp [hheld, use_over hover] at h
          | false =>
            obtain rfl : ofRedirect r t = o := by simpa [hheld, use_lasting hover] using h
            exact ⟨r, t, ⟨hstands, expired_ofRedirect.1 hover⟩, rfl⟩
      · rintro ⟨r, t, ⟨hstands, hnow⟩, rfl⟩
        have hheld : after uses = some (ofRedirect r t) := (ih _).2 ⟨r, t, hstands, rfl⟩
        rw [hheld, use_lasting (expired_ofRedirect.2 hnow)]

/-- Until the next redirect comes, the log is told once that this one is over, if a look finds it
so. -/
theorem log_of_latest (before : List Use) {d : Directive} {r : Redirect} (hd : d.redirect = some r)
    (t : Nat) (since : List Use) (h : ∀ u ∈ since, u.redirects = false) :
    let uses := before ++ .receive d t :: since
    let told := log (before ++ [.receive d t])
    (Lasts r t since ∧ after uses = some (ofRedirect r t) ∧ log uses = told) ∨
    (¬ Lasts r t since ∧ after uses = none ∧
      log uses = told ++ lines (some (.ended r.endpoint))) := by
  intro uses told
  induction since using List.reverseRecOn with
  | nil => exact .inl ⟨lasts_nil, by simp [uses, use_redirect hd], rfl⟩
  | append_singleton since u ih =>
    have huses : uses = (before ++ .receive d t :: since) ++ [u] := by simp [uses]
    have hu : u.redirects = false := h u (by simp)
    have hpast := ih fun x hx => h x (List.mem_append_left _ hx)
    rw [huses, after_snoc, log_snoc]
    cases u with
    | receive d' now =>
      have hd' : d'.redirect = none := by simpa [Use.redirects] using hu
      rw [use_silent hd', lasts_snoc_receive]
      simpa only [lines, Option.toList_none, List.map_nil, List.append_nil] using hpast
    | look now =>
      rw [lasts_snoc_look]
      rcases hpast with ⟨hlasts, hafter, hlog⟩ | ⟨hover, hafter, hlog⟩
      · rw [hafter, hlog]
        cases hnow : (ofRedirect r t).expired now with
        | false =>
          rw [use_lasting hnow]
          exact .inl ⟨⟨hlasts, expired_ofRedirect.1 hnow⟩, rfl, List.append_nil _⟩
        | true =>
          rw [use_over hnow]
          refine .inr ⟨?_, rfl, rfl⟩
          rintro ⟨-, hlater⟩
          rw [expired_ofRedirect.2 hlater] at hnow
          contradiction
      · rw [hafter, hlog]
        exact .inr ⟨fun hall => hover hall.1, rfl, List.append_nil _⟩

/-- A look at what stands finds it over, or in effect. -/
theorem look_cases (uses : List Use) (now : Nat) :
    (∃ r t v, Stands uses r t ∧ r.validFor = some v ∧ t + v ≤ now ∧
      current (after uses) now = (none, some (.ended r.endpoint))) ∨
    ((∀ r t v, Stands uses r t → r.validFor = some v → now < t + v) ∧
      current (after uses) now = (after uses, none)) := by
  cases hheld : after uses with
  | none =>
    refine .inr ⟨?_, rfl⟩
    intro r t v hstands hv
    have hsome := (after_eq_some_iff uses _).2 ⟨r, t, hstands, rfl⟩
    simp [hheld] at hsome
  | some held =>
    obtain ⟨r, t, hstands, rfl⟩ := (after_eq_some_iff uses held).1 hheld
    cases hover : (ofRedirect r t).expired now with
    | true =>
      have hnot : ¬ ∀ v, r.validFor = some v → now < t + v := by
        rw [← expired_ofRedirect, hover]
        simp
      obtain ⟨v, hv, hnow⟩ : ∃ v, r.validFor = some v ∧ ¬ now < t + v := by
        simpa only [not_forall, Classical.not_imp, exists_prop] using hnot
      exact .inl ⟨r, t, v, hstands, hv, Nat.le_of_not_lt hnow, use_over hover⟩
    | false =>
      refine .inr ⟨?_, use_lasting hover⟩
      intro r' t' v hstands' hv
      have hsame := (after_eq_some_iff uses _).2 ⟨r', t', hstands', rfl⟩
      have hexpires : (ofRedirect r' t').expired now = false := by
        rw [← Option.some.inj (hheld.symm.trans hsame)]
        exact hover
      exact expired_ofRedirect.1 hexpires v hv

theorem endpoint_after (uses : List Use) (e : String) :
    (after uses).map (·.endpoint) = some e ↔ ∃ r t, Stands uses r t ∧ r.endpoint = e := by
  rw [Option.map_eq_some_iff]
  constructor
  · rintro ⟨o, ho, rfl⟩
    obtain ⟨r, t, hstands, rfl⟩ := (after_eq_some_iff uses o).1 ho
    exact ⟨r, t, hstands, rfl⟩
  · rintro ⟨r, t, hstands, rfl⟩
    exact ⟨ofRedirect r t, (after_eq_some_iff uses _).2 ⟨r, t, hstands, rfl⟩, rfl⟩

/-- The endpoint in effect is that of the last redirect received, unless a look since, or this one,
is made at its end or later; what is over does not come back when the clock goes back. A directive
is taken up if it has a redirect, and the log is told whether its endpoint is new to what stands.
The first look that finds a redirect over tells the log so, and nothing else does, up to the next
one. -/
theorem stands_until_seen_over (uses : List Use) :
    (∀ now e, (current (after uses) now).1.map (·.endpoint) = some e ↔
      ∃ r t, Stands uses r t ∧ r.endpoint = e ∧ ∀ v, r.validFor = some v → now < t + v) ∧
    (∀ now,
      (∃ r t v, Stands uses r t ∧ r.validFor = some v ∧ t + v ≤ now ∧
        lines (current (after uses) now).2 =
          [⟨.info, "Endpoint redirect expired, reverting to default",
            [("endpoint", r.endpoint)]⟩]) ∨
      ((∀ r t v, Stands uses r t → r.validFor = some v → now < t + v) ∧
        lines (current (after uses) now).2 = [])) ∧
    (∀ d now, (apply (after uses) d now).2.isSome = d.redirect.isSome) ∧
    (∀ d now r, d.redirect = some r →
      ((∃ q t, Stands uses q t ∧ q.endpoint = r.endpoint) ∧
        lines (apply (after uses) d now).2 =
          [⟨.debug, "Endpoint redirect renewed", [("endpoint", r.endpoint)]⟩]) ∨
      ((∀ q t, Stands uses q t → q.endpoint ≠ r.endpoint) ∧
        lines (apply (after uses) d now).2 =
          [⟨.info, "Endpoint redirected", ("endpoint", r.endpoint) ::
            (r.validFor.map fun v => ("valid_for_ms", toString v)).toList⟩])) ∧
    (∀ before d t r since, uses = before ++ .receive d t :: since → d.redirect = some r →
      (∀ u ∈ since, u.redirects = false) →
      (Lasts r t since ∧ log uses = log before ++ lines (apply (after before) d t).2) ∨
      (¬ Lasts r t since ∧ log uses = log before ++ lines (apply (after before) d t).2 ++
        [⟨.info, "Endpoint redirect expired, reverting to default",
          [("endpoint", r.endpoint)]⟩])) := by
  refine ⟨?_, ?_, ?_, ?_, ?_⟩
  · intro now e
    have hlook : (current (after uses) now).1 = after (uses ++ [.look now]) := by
      rw [after_snoc]
      rfl
    rw [hlook, endpoint_after]
    simp only [stands_snoc_look]
    constructor
    · rintro ⟨r, t, ⟨hstands, hnow⟩, rfl⟩
      exact ⟨r, t, hstands, rfl, hnow⟩
    · rintro ⟨r, t, hstands, rfl, hnow⟩
      exact ⟨r, t, ⟨hstands, hnow⟩, rfl⟩
  · intro now
    rcases look_cases uses now with ⟨r, t, v, hstands, hv, hnow, hlook⟩ | ⟨hlasts, hlook⟩
    · rw [hlook]
      exact .inl ⟨r, t, v, hstands, hv, hnow, rfl⟩
    · rw [hlook]
      exact .inr ⟨hlasts, rfl⟩
  · intro d now
    cases hd : d.redirect <;> simp [apply, hd]
  · intro d now r hd
    have hsame := endpoint_after uses r.endpoint
    have htaken : apply (after uses) d now = _ := use_redirect hd
    rw [htaken]
    by_cases hknown : (after uses).map (·.endpoint) = some r.endpoint
    · rw [if_pos hknown]
      exact .inl ⟨hsame.1 hknown, rfl⟩
    · rw [if_neg hknown]
      refine .inr ⟨?_, rfl⟩
      intro q t hstands hq
      exact hknown (hsame.2 ⟨q, t, hstands, hq⟩)
  · rintro before d t r since rfl hd hsince
    have htold : log (before ++ [.receive d t]) =
        log before ++ lines (apply (after before) d t).2 := log_snoc before _
    rcases log_of_latest before hd t since hsince with ⟨hlasts, -, hlog⟩ | ⟨hover, -, hlog⟩
    · exact .inl ⟨hlasts, hlog.trans htold⟩
    · refine .inr ⟨hover, ?_⟩
      rw [hlog, htold]
      rfl

/-- A redirect that was seen over stays over when the clock goes back, and when it is received again
it is as good as new. -/
theorem stands_until_seen_over_of_clock_set_back :
    let r : Redirect := ⟨"http://a", some 100⟩
    let d : Directive := ⟨.idle, some r, none⟩
    let seen : List Use := [.receive d 0, .look 99, .look 100]
    Stands [.receive d 0, .look 99] r 0 ∧
    (current (after [.receive d 0, .look 99]) 50).1.map (·.endpoint) = some "http://a" ∧
    (current (after seen) 50).1.map (·.endpoint) = none ∧
    lines (apply (after seen) d 50).2 =
      [⟨.info, "Endpoint redirected", [("endpoint", "http://a"), ("valid_for_ms", "100")]⟩] ∧
    log seen =
      [⟨.info, "Endpoint redirected", [("endpoint", "http://a"), ("valid_for_ms", "100")]⟩,
        ⟨.info, "Endpoint redirect expired, reverting to default",
          [("endpoint", "http://a")]⟩] := by
  intro r d seen
  have hlatest : Latest [.receive d 0, .look 99] r 0 [.look 99] :=
    ⟨[], d, rfl, rfl, by simp [Use.redirects]⟩
  have hlasts : Lasts r 0 [.look 99] := by
    rintro v hv now hnow
    obtain rfl : 100 = v := by simpa [r] using hv
    obtain rfl : now = 99 := by simpa using hnow
    decide
  have hstands : Stands [.receive d 0, .look 99] r 0 := ⟨[.look 99], hlatest, hlasts⟩
  have hover : ¬ Lasts r 0 [.look 99, .look 100] := by
    intro h
    have := h 100 rfl 100 (by simp)
    omega
  obtain ⟨hin, -⟩ := stands_until_seen_over [.receive d 0, .look 99]
  obtain ⟨-, -, -, -, hlog⟩ := stands_until_seen_over seen
  refine ⟨hstands, (hin 50 "http://a").2 ⟨r, 0, hstands, rfl, ?_⟩, rfl, rfl, ?_⟩
  · intro v hv
    obtain rfl : 100 = v := by simpa [r] using hv
    decide
  · rcases hlog [] d 0 r [.look 99, .look 100] rfl rfl (by simp [Use.redirects]) with
      ⟨hlasts, -⟩ | ⟨-, hlog⟩
    · exact absurd hlasts hover
    · exact hlog

end LiveTelemetry.Override
