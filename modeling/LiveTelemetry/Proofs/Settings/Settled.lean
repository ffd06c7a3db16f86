import LiveTelemetry.Proofs.Settings.Accepted
/-!
Settings that are written out and read again. Main statement: they are read as they were, unless the
endpoint was told with a blank before the slashes at its end.
-/
namespace LiveTelemetry

open Text (Trimmed Unslashed isBlank)

namespace Settings

/-- The text that says a setting. -/
def said (s : Settings) : Variable → String
  | .endpoint => s.endpoint
  | .instanceName => s.instanceName
  | .pingInterval => Text.Numeral.write s.intervals.ping
  | .postInterval => Text.Numeral.write s.intervals.post
  | .errorInterval => Text.Numeral.write s.intervals.error
  | .requestTimeout => Text.Numeral.write (s.requestTimeout / 1000)
  | .bufferCapacity => Text.Numeral.write s.bufferCapacity

/-- An environment that says settings. -/
def written (s : Settings) : Environment := fun v => some (Text.Utf8.encode (s.said v).toList)

theorem written_said (s : Settings) (v : Variable) : s.written.Says v (s.said v) := rfl

/-- What an endpoint is that was accepted. -/
structure Kept (url : String) : Prop where
  first : ∀ c ∈ url.toList.head?, isBlank c = false
  last : url.toList.getLast? ≠ some '/'
  http : Http url

/-- What a name is that was accepted. -/
structure Named (name : String) : Prop where
  nonempty : name ≠ ""
  first : ∀ c ∈ name.toList.head?, isBlank c = false
  last : ∀ c ∈ name.toList.getLast?, isBlank c = false

theorem Kept.of_takes {text url : String} (h : Takes .endpoint text (.text url)) : Kept url := by
  cases h with
  | endpoint trimmed unslashed http =>
    obtain ⟨⟨n, hcore⟩, hlast⟩ := unslashed
    refine ⟨?_, hlast, http⟩
    intro c hc
    apply trimmed.first
    rw [hcore, List.head?_append, Option.mem_def.1 hc]
    rfl

theorem Kept.of_sets {env : Environment} {url : String} (h : Sets env .endpoint (.text url)) :
    Kept url := by
  obtain ⟨text, htakes⟩ := h.exists_takes
  exact .of_takes htakes

theorem Named.of_sets {env : Environment} {name : String}
    (h : Sets env .instanceName (.text name)) : Named name := by
  obtain ⟨text, htakes⟩ := h.exists_takes
  cases htakes with
  | instanceName trimmed named => exact ⟨named, trimmed.first, trimmed.last⟩

theorem value_of_ne (s : Settings) (url : String) {v : Variable} (hv : v ≠ .endpoint) :
    { s with endpoint := url }.value v = s.value v := by
  cases v with
  | endpoint => contradiction
  | _ => rfl

theorem unit_pos {v : Variable} {scale : Scale} (hv : scale? v = some scale) : 0 < scale.unit := by
  cases v with
  | endpoint => contradiction
  | instanceName => contradiction
  | _ =>
    obtain rfl := Option.some.inj hv
    simp

/-- A number that was read may be set to its digits. -/
theorem takes_write {env : Environment} {v : Variable} {scale : Scale} {n m : Nat}
    (hv : scale? v = some scale) (hn : Sets env v (.number n)) (hm : n / scale.unit = m) :
    Takes v (Text.Numeral.write m) (.number n) := by
  obtain ⟨scale', k, hscale, hleast, hmost, rfl⟩ := hn.scaled
  obtain rfl := Option.some.inj (hv.symm.trans hscale)
  obtain rfl : k = m := (Nat.mul_div_cancel k (unit_pos hv)).symm.trans hm
  exact .number hv (writes_write k) hleast hmost

/-- An endpoint that was accepted is accepted as it is if it does not end in a blank. -/
theorem normalEndpoint_eq_self_iff {url : String} (h : Kept url) :
    normalEndpoint url = url ↔ ∀ c ∈ url.toList.getLast?, isBlank c = false := by
  constructor
  · intro heq
    obtain ⟨core, ⟨⟨front, back, hwithin, -⟩, -, hlast⟩, ⟨n, hcore⟩, -⟩ :=
      normalEndpoint_eq_iff.1 heq
    -- Nothing was cut off, so the core is the whole text.
    have hlength := congrArg List.length hwithin
    rw [hcore] at hlength
    simp only [List.length_append, List.length_replicate] at hlength
    obtain rfl : n = 0 := by omega
    rw [List.replicate_zero, List.append_nil] at hcore
    rwa [hcore] at hlast
  · intro hlast
    exact normalEndpoint_eq_iff.2 ⟨url, Text.trimmed_self h.first hlast, ⟨0, by simp⟩, h.last⟩

/-- The text for an endpoint has a blank before the slashes at its end. -/
def Interrupted (text : String) : Prop :=
  ∃ core front c n, Trimmed text core ∧ isBlank c = true ∧
    core.toList = front ++ c :: List.replicate (n + 1) '/'

theorem interrupted_iff {text url : String} (h : Takes .endpoint text (.text url)) :
    Interrupted text ↔ ∃ c ∈ url.toList.getLast?, isBlank c = true := by
  cases h with
  | @endpoint text core kept trimmed unslashed http =>
    constructor
    · intro hi
      obtain ⟨core', front, c, n, htrim, hblank, hcore⟩ := hi
      obtain rfl : core = core' :=
        (Text.trim_eq_iff.2 trimmed).symm.trans (Text.trim_eq_iff.2 htrim)
      have hfront : Unslashed core (String.ofList (front ++ [c])) := by
        refine ⟨⟨n + 1, by simp [hcore]⟩, ?_⟩
        intro hslash
        obtain rfl : c = '/' := by simpa using hslash
        exact absurd hblank (by decide)
      obtain rfl := (Text.trimSlashes_eq_iff.2 unslashed).symm.trans
        (Text.trimSlashes_eq_iff.2 hfront)
      exact ⟨c, by simp, hblank⟩
    · intro hlast
      obtain ⟨c, hc, hblank⟩ := hlast
      obtain ⟨⟨n, hcore⟩, -⟩ := unslashed
      obtain ⟨front, hurl⟩ := List.getLast?_eq_some_iff.1 hc
      -- The core ends in no blank, so slashes stand behind this one.
      cases n with
      | zero =>
        have hnot := trimmed.last c (by simp [hcore, hurl])
        rw [hblank] at hnot
        contradiction
      | succ n => exact ⟨core, front, c, n, trimmed, hblank, by simp [hcore, hurl]⟩

theorem read_written_of_not_http {s : Settings}
    (hhttp : ¬ isHttpUrl (normalEndpoint s.endpoint) = true) :
    read s.written = .error (.notHttpUrl (normalEndpoint s.endpoint)) := by
  rw [read_eq_error_iff]
  refine ⟨[], .endpoint, _, rfl, by simp, ?_⟩
  exact (faults_iff_refuses (written_said s .endpoint) _).2
    (refuses_endpoint_iff.2 ⟨hhttp, rfl⟩)

section

variable {env : Environment} {s : Settings} (h : ∀ v, Sets env v (s.value v))
include h

theorem takes_said {v : Variable} (hv : v ≠ .endpoint) : Takes v (s.said v) (s.value v) := by
  cases v with
  | endpoint => contradiction
  | instanceName =>
    have hnamed := Named.of_sets (h .instanceName)
    exact .instanceName (Text.trimmed_self hnamed.first hnamed.last) hnamed.nonempty
  | pingInterval => exact takes_write rfl (h .pingInterval) (Nat.div_one _)
  | postInterval => exact takes_write rfl (h .postInterval) (Nat.div_one _)
  | errorInterval => exact takes_write rfl (h .errorInterval) (Nat.div_one _)
  | requestTimeout => exact takes_write rfl (h .requestTimeout) rfl
  | bufferCapacity => exact takes_write rfl (h .bufferCapacity) (Nat.div_one _)

/-- What is written is read but for the endpoint, which is brought into form again. -/
theorem read_written_of_http (hhttp : isHttpUrl (normalEndpoint s.endpoint) = true) :
    read s.written = .ok { s with endpoint := normalEndpoint s.endpoint } := by
  rw [read_eq_ok_iff_sets]
  intro v
  apply (sets_iff_takes (written_said s v) _).2
  by_cases hv : v = .endpoint
  · subst hv
    exact takes_endpoint_iff.2 ⟨hhttp, rfl⟩
  · rw [value_of_ne s _ hv]
    exact takes_said h hv

theorem read_written_iff :
    read s.written = .ok s ↔ ∀ c ∈ s.endpoint.toList.getLast?, isBlank c = false := by
  have hkept := Kept.of_sets (h .endpoint)
  rw [← normalEndpoint_eq_self_iff hkept]
  constructor
  · intro hread
    have htakes := (sets_iff_takes (written_said s .endpoint) _).1
      (read_eq_ok_iff_sets.1 hread .endpoint)
    exact (Value.text.inj (takes_endpoint_iff.1 htakes).2).symm
  · intro hnormal
    have hhttp : isHttpUrl (normalEndpoint s.endpoint) = true := by
      rw [hnormal]
      exact isHttpUrl_iff.2 hkept.http
    rw [read_written_of_http h hhttp, hnormal]

/-- An accepted endpoint ends in a blank exactly where one was told with the slashes behind it. -/
theorem ends_in_blank_iff :
    (∃ c ∈ s.endpoint.toList.getLast?, isBlank c = true) ↔
      ∃ text, env.Says .endpoint text ∧ Interrupted text := by
  have hsets := h .endpoint
  constructor
  · intro hblank
    generalize hx : s.value .endpoint = x at hsets
    cases hsets with
    | standard =>
      obtain ⟨c, hc, hblank⟩ := hblank
      rw [Value.text.inj hx] at hc
      obtain rfl : '0' = c := Option.some.inj hc
      exact absurd hblank (by decide)
    | given htold takes =>
      subst hx
      exact ⟨_, htold, (interrupted_iff takes).2 hblank⟩
  · intro htext
    obtain ⟨text, htold, hi⟩ := htext
    exact (interrupted_iff ((sets_iff_takes htold _).1 hsets)).1 hi

end

/-- Settings that were read have no blanks about the name or before the endpoint, which ends in no
slash. Written out, they are read as they were unless the endpoint was told with a blank before its
slashes: then it ends in that blank, and is brought into form once more or not taken at all. -/
theorem settled_unless_interrupted {env : Environment} {s : Settings} (h : read env = .ok s) :
    Kept s.endpoint ∧ Named s.instanceName ∧
    (read s.written = .ok s ↔ ∀ c ∈ s.endpoint.toList.getLast?, isBlank c = false) ∧
    ((∃ c ∈ s.endpoint.toList.getLast?, isBlank c = true) ↔
      ∃ text, env.Says .endpoint text ∧ Interrupted text) ∧
    ∃ core kept, Trimmed s.endpoint core ∧ Unslashed core kept ∧
      (Http kept → read s.written = .ok { s with endpoint := kept }) ∧
      (¬ Http kept → read s.written = .error (.notHttpUrl kept)) := by
  have hvalues := read_eq_ok_iff_sets.1 h
  refine ⟨.of_sets (hvalues .endpoint), .of_sets (hvalues .instanceName), read_written_iff hvalues,
    ends_in_blank_iff hvalues, ?_⟩
  obtain ⟨core, htrim, hkept⟩ := normalEndpoint_eq_iff.1 (rfl : normalEndpoint s.endpoint = _)
  refine ⟨core, _, htrim, hkept, ?_, ?_⟩
  · intro hhttp
    exact read_written_of_http hvalues (isHttpUrl_iff.2 hhttp)
  · intro hother
    rw [← isHttpUrl_iff] at hother
    exact read_written_of_not_http hother

/-- A blank between the slashes at the end is kept, and is gone when the settings are read again;
after a scheme alone it is all that makes a URL of the text. -/
theorem settled_unless_interrupted_of_blank :
    let env (text : String) : Environment := fun v =>
      if v = .endpoint then some (Text.Utf8.encode text.toList) else none
    let s : Settings := { standard with endpoint := "http://a/ " }
    let t : Settings := { standard with endpoint := "http:// " }
    read (env "http://a/ /") = .ok s ∧ read s.written = .ok { s with endpoint := "http://a" } ∧
      (∃ text, (env "http://a/ /").Says .endpoint text ∧ Interrupted text) ∧
      read (env "http:// /") = .ok t ∧ read t.written = .error (.notHttpUrl "http:") := by
  intro env s t
  have hs : read (env "http://a/ /") = .ok s := by decide +kernel
  have ht : read (env "http:// /") = .ok t := by decide +kernel
  have hnormal (text core kept : String) (htrim : Text.trim text = core)
      (hkept : Text.trimSlashes core = kept) {core' kept' : String} (htrim' : Trimmed text core')
      (hkept' : Unslashed core' kept') : kept' = kept := by
    obtain rfl : core = core' := htrim.symm.trans (Text.trim_eq_iff.2 htrim')
    exact (Text.trimSlashes_eq_iff.2 hkept').symm.trans hkept
  obtain ⟨-, -, -, hblank, core, kept, htrim, hkept, hread, -⟩ := settled_unless_interrupted hs
  obtain rfl := hnormal s.endpoint "http://a/" "http://a" (by decide +kernel) (by decide +kernel)
    htrim hkept
  obtain ⟨-, -, -, -, core', kept', htrim', hkept', -, hread'⟩ := settled_unless_interrupted ht
  obtain rfl := hnormal t.endpoint "http://" "http:" (by decide +kernel) (by decide +kernel)
    htrim' hkept'
  refine ⟨hs, hread ?_, hblank.1 ⟨' ', by decide +kernel, by decide⟩, ht, hread' ?_⟩
  · exact isHttpUrl_iff.1 (by decide +kernel)
  · intro hhttp
    exact absurd (isHttpUrl_iff.2 hhttp) (by decide +kernel)

end Settings

end LiveTelemetry
