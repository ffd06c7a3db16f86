import LiveTelemetry.Json.Reader
import LiveTelemetry.Notice
import LiveTelemetry.Proofs.Text.Ends
import LiveTelemetry.Proofs.Text.Numeral
/-!
What headers have to say to carry a directive. Main statement: these are exactly the ones that a
directive is read from, and all others stand for an idle one, with a warning.
-/
namespace LiveTelemetry.Directive

open Http (Headers Header)
open Text (Trimmed Unslashed)

/-- Headers as they come: the bytes of a name and of a value. -/
abbrev Lines := List (List UInt8 × List UInt8)

/-- The headers that make up an answer, if each of them may be sent. -/
def headers? (ls : Lines) : Option Headers := ls.mapM fun l => Header.make? l.1 l.2

/-- A character for each byte. -/
def letters (bytes : List UInt8) : String := String.ofList (bytes.map fun b => Char.ofNat b.toNat)

/-- The first value under the name of a field, in whatever case that is written. -/
def first (ls : Lines) (f : Field) : Option (List UInt8) :=
  (ls.find? fun l => (letters l.1).toLower == f.header).map Prod.snd

/-- What a field says between blanks, if it is printable throughout. -/
def Says (ls : Lines) (f : Field) (text : String) : Prop :=
  ∃ value, first ls f = some value ∧ (∀ b ∈ value, b = 9 ∨ 0x20 ≤ b ∧ b ≤ 0x7E) ∧
    Trimmed (letters value) text

/-- A field that may be absent says a number of milliseconds. -/
inductive Milliseconds (ls : Lines) (f : Field) : Option Nat → Prop
  | absent (h : first ls f = none) : Milliseconds ls f none
  | given {text : String} {n : Nat} (h : Says ls f text) (number : Text.Numeral.Spells text n) :
      Milliseconds ls f (some n)

/-- The word that tells whether anything is wanted, in whatever case it is written. -/
inductive Subscribed (ls : Lines) : Status → Prop
  | active {text : String} (h : Says ls .subscribed text) (word : text.toLower = "true") :
      Subscribed ls .active
  | idle {text : String} (h : Says ls .subscribed text) (word : text.toLower = "false") :
      Subscribed ls .idle

/-- Another endpoint, and its window: the window is not looked at if there is no endpoint. -/
inductive Redirected (ls : Lines) : Option Redirect → Prop
  | absent (h : first ls .redirect = none) : Redirected ls none
  | given {text endpoint : String} {u : Url} {window : Option Nat} (h : Says ls .redirect text)
      (url : Url.parse? text = some u)
      (scheme : u.scheme = "http".toList ∨ u.scheme = "https".toList)
      (kept : Unslashed text endpoint) (lasts : Milliseconds ls .window window) :
      Redirected ls (some ⟨endpoint, window⟩)

/-- The directive that headers carry. -/
structure Carries (ls : Lines) (d : Directive) : Prop where
  status : Subscribed ls d.status
  redirect : Redirected ls d.redirect
  hint : ∃ h, Milliseconds ls .hint h ∧ d.hint = if h = some 0 then none else h

theorem toLower_eq (s : String) : s.toLower = Text.lowerAscii s := rfl

/-- The name of a header is kept in lower case, and its value as it came. -/
theorem eq_of_make? {name value : List UInt8} {h : Header} (hm : Header.make? name value = some h) :
    h.name = (letters name).toLower ∧ h.value = value := by
  rw [Header.make?] at hm
  split at hm
  · obtain rfl := Option.some.inj hm
    refine ⟨?_, rfl⟩
    rw [letters, toLower_eq, Text.lowerAscii, ← String.toList_inj]
    simp
  · contradiction

section

variable {ls : Lines} {hs : Headers}

theorem get?_eq_first (h : headers? ls = some hs) (f : Field) : hs.get? f.header = first ls f := by
  induction ls generalizing hs with
  | nil =>
    obtain rfl : [] = hs := by simpa [headers?] using h
    rfl
  | cons l ls ih =>
    simp only [headers?, List.mapM_cons, Option.bind_eq_bind, Option.bind_eq_some_iff] at h
    obtain ⟨x, hx, xs, hxs, hall⟩ := h
    obtain rfl : x :: xs = hs := by simpa using hall
    obtain ⟨hname, hvalue⟩ := eq_of_make? hx
    have hrest := ih hxs
    simp only [Headers.get?, first, List.find?_cons, hname] at hrest ⊢
    split
    · rw [Option.map_some, Option.map_some, hvalue]
    · exact hrest

theorem asText?_eq_some_iff {value : List UInt8} {text : String} :
    Headers.asText? value = some text ↔
      (∀ b ∈ value, b = 9 ∨ 0x20 ≤ b ∧ b ≤ 0x7E) ∧ letters value = text := by
  have hbyte (b : UInt8) :
      (b == 9 || (0x20 ≤ b && b < 0x7F)) = true ↔ b = 9 ∨ 0x20 ≤ b ∧ b ≤ 0x7E := by
    have hlt : b < 0x7F ↔ b ≤ 0x7E := by
      rw [UInt8.lt_iff_toNat_lt, UInt8.le_iff_toNat_le]
      exact Nat.lt_succ_iff
    simp [hlt]
  rw [Headers.asText?, Option.ite_none_right_eq_some, List.all_eq_true, Option.some.injEq]
  simp only [hbyte]
  rfl

theorem field_eq_none_iff (h : headers? ls = some hs) (f : Field) :
    field hs f = .ok none ↔ first ls f = none := by
  rw [field, get?_eq_first h]
  cases first ls f with
  | none => simp
  | some value => cases ht : Headers.asText? value <;> simp [ht]

theorem field_eq_some_iff (h : headers? ls = some hs) (f : Field) (text : String) :
    field hs f = .ok (some text) ↔ Says ls f text := by
  rw [field, get?_eq_first h, Says]
  cases first ls f with
  | none => simp
  | some value =>
    simp only [Option.some.injEq, exists_eq_left']
    cases ht : Headers.asText? value with
    | none =>
      have hnot : ¬ ∀ b ∈ value, b = 9 ∨ 0x20 ≤ b ∧ b ≤ 0x7E := by
        intro hall
        have := asText?_eq_some_iff.2 ⟨hall, rfl⟩
        simp [ht] at this
      simp [hnot]
    | some shown =>
      obtain ⟨hall, rfl⟩ := asText?_eq_some_iff.1 ht
      rw [← Text.trim_eq_iff, Except.ok.injEq, Option.some.injEq, and_iff_right hall]

theorem millis_eq_ok_iff (h : headers? ls = some hs) (f : Field) (w : Option Nat) :
    millis hs f = .ok w ↔ Milliseconds ls f w := by
  rw [millis, Json.bind_eq_ok]
  constructor
  · rintro ⟨said, hsaid, hw⟩
    cases said with
    | none =>
      obtain rfl := Except.ok.inj hw
      exact .absent ((field_eq_none_iff h f).1 hsaid)
    | some text =>
      have hshown := (field_eq_some_iff h f text).1 hsaid
      cases hn : Text.Numeral.read? text with
      | none => simp [hn] at hw
      | some n =>
        simp only [hn] at hw
        obtain rfl := Except.ok.inj hw
        exact .given hshown (Text.Numeral.read?_eq_some_iff.1 hn)
  · intro hw
    cases hw with
    | absent hf => exact ⟨none, (field_eq_none_iff h f).2 hf, rfl⟩
    | given hshown number =>
      refine ⟨_, (field_eq_some_iff h f _).2 hshown, ?_⟩
      simp [Text.Numeral.read?_eq_some_iff.2 number]

theorem readStatus_eq_ok_iff (h : headers? ls = some hs) (status : Status) :
    readStatus hs = .ok status ↔ Subscribed ls status := by
  have hlower (text word : String) (hword : Text.lowerAscii word = word) :
      Text.sameLetters text word = true ↔ text.toLower = word := by
    simp [Text.sameLetters, hword, toLower_eq]
  have htrue (text : String) :=
    hlower text "true" (String.toList_inj.1 (by simp [Text.lowerAscii]))
  have hfalse (text : String) :=
    hlower text "false" (String.toList_inj.1 (by simp [Text.lowerAscii]))
  rw [readStatus, Json.bind_eq_ok]
  constructor
  · rintro ⟨said, hsaid, hstatus⟩
    cases said with
    | none => contradiction
    | some text =>
      have hshown := (field_eq_some_iff h .subscribed text).1 hsaid
      simp only at hstatus
      split at hstatus
      · rename_i hword
        obtain rfl := Except.ok.inj hstatus
        exact .active hshown ((htrue text).1 hword)
      · split at hstatus
        · rename_i hword
          obtain rfl := Except.ok.inj hstatus
          exact .idle hshown ((hfalse text).1 hword)
        · contradiction
  · intro hstatus
    cases hstatus with
    | active hshown word =>
      refine ⟨_, (field_eq_some_iff h .subscribed _).2 hshown, ?_⟩
      simp [(htrue _).2 word]
    | @idle text hshown word =>
      have hnot : ¬ Text.sameLetters text "true" = true := by
        rw [htrue, word]
        decide
      refine ⟨_, (field_eq_some_iff h .subscribed _).2 hshown, ?_⟩
      simp [hnot, (hfalse _).2 word]

theorem isEndpoint_iff (text : String) :
    isEndpoint text = true ↔
      ∃ u, Url.parse? text = some u ∧ (u.scheme = "http".toList ∨ u.scheme = "https".toList) := by
  rw [isEndpoint, Option.any_eq_true]
  simp [Url.isHttp]

theorem readRedirect_eq_ok_iff (h : headers? ls = some hs) (r : Option Redirect) :
    readRedirect hs = .ok r ↔ Redirected ls r := by
  rw [readRedirect, Json.bind_eq_ok]
  constructor
  · rintro ⟨said, hsaid, hr⟩
    cases said with
    | none =>
      obtain rfl := Except.ok.inj hr
      exact .absent ((field_eq_none_iff h .redirect).1 hsaid)
    | some text =>
      have hshown := (field_eq_some_iff h .redirect text).1 hsaid
      simp only at hr
      split at hr
      · rename_i hend
        obtain ⟨u, hu, hscheme⟩ := (isEndpoint_iff text).1 hend
        obtain ⟨window, hwindow, hr⟩ := Json.bind_eq_ok.1 hr
        obtain rfl := Except.ok.inj hr
        exact .given hshown hu hscheme (Text.trimSlashes_eq_iff.1 rfl)
          ((millis_eq_ok_iff h .window window).1 hwindow)
      · contradiction
  · intro hr
    cases hr with
    | absent hf => exact ⟨none, (field_eq_none_iff h .redirect).2 hf, rfl⟩
    | given hshown url scheme kept lasts =>
      refine ⟨_, (field_eq_some_iff h .redirect _).2 hshown, ?_⟩
      have hend := (isEndpoint_iff _).2 ⟨_, url, scheme⟩
      have hwindow := (millis_eq_ok_iff h .window _).2 lasts
      simp only [hend, if_true, Text.trimSlashes_eq_iff.2 kept]
      exact Json.bind_eq_ok.2 ⟨_, hwindow, rfl⟩

/-- What a field says begins and ends with characters that can be seen. -/
theorem Says.visible {f : Field} {text : String} (h : Says ls f text) :
    (∀ c ∈ text.toList.head?, 0x20 < c.toNat) ∧ ∀ c ∈ text.toList.getLast?, 0x20 < c.toNat := by
  obtain ⟨value, -, hprintable, ⟨front, back, hwithin, -⟩, hfirst, hlast⟩ := h
  have hvisible (c : Char) (hc : c ∈ text.toList) (hblank : Text.isBlank c = false) :
      0x20 < c.toNat := by
    have hmem : c ∈ (letters value).toList := by simp [hwithin, hc]
    rw [letters, String.toList_ofList] at hmem
    obtain ⟨b, hb, rfl⟩ := List.mem_map.1 hmem
    rcases hprintable b hb with rfl | ⟨hlow, -⟩
    · exact absurd hblank (by decide)
    · have hlow : 0x20 ≤ b.toNat := UInt8.le_iff_toNat_le.1 hlow
      have hcode : (Char.ofNat b.toNat).toNat = b.toNat := by
        have hvalid : b.toNat.isValidChar := .inl (by have := b.toNat_lt; omega)
        rw [Char.ofNat, dif_pos hvalid]
        rfl
      have hne : (Char.ofNat b.toNat).toNat ≠ 0x20 := by
        intro heq
        simp [Text.isBlank, heq] at hblank
      omega
  constructor
  · intro c hc
    exact hvisible c (List.mem_of_mem_head? hc) (hfirst c hc)
  · intro c hc
    exact hvisible c (List.mem_of_mem_getLast? hc) (hlast c hc)

/-- A directive is read from the headers that carry it, and from no others. -/
theorem read_eq_ok_iff (h : headers? ls = some hs) (d : Directive) :
    read hs = .ok d ↔ Carries ls d := by
  have hfilter (w : Option Nat) : w.filter (· ≠ 0) = if w = some 0 then none else w := by
    cases w with
    | none => rfl
    | some n => cases n <;> simp
  rw [read, Json.bind_eq_ok]
  constructor
  · rintro ⟨status, hstatus, hd⟩
    obtain ⟨redirect, hredirect, hd⟩ := Json.bind_eq_ok.1 hd
    obtain ⟨hint, hhint, hd⟩ := Json.bind_eq_ok.1 hd
    obtain rfl := Except.ok.inj hd
    exact ⟨(readStatus_eq_ok_iff h status).1 hstatus,
      (readRedirect_eq_ok_iff h redirect).1 hredirect,
      hint, (millis_eq_ok_iff h .hint hint).1 hhint, hfilter hint⟩
  · rintro ⟨hstatus, hredirect, hint, hhint, hd⟩
    refine ⟨d.status, (readStatus_eq_ok_iff h d.status).2 hstatus, Json.bind_eq_ok.2
      ⟨d.redirect, (readRedirect_eq_ok_iff h d.redirect).2 hredirect, Json.bind_eq_ok.2
        ⟨hint, (millis_eq_ok_iff h .hint hint).2 hhint, ?_⟩⟩⟩
    rw [hfilter, ← hd]

/-- A redirect that was read comes from the URL of a service, and keeps its text but for slashes. -/
theorem redirect_of_ofHeaders (h : headers? ls = some hs) {r : Redirect}
    (hr : (ofHeaders hs).1.redirect = some r) {text : String}
    (said : Says ls .redirect text) :
    ∃ u, Url.parse? text = some u ∧ u.isHttp = true ∧ Text.Unslashed text r.endpoint := by
  have hredirected : Redirected ls (some r) := by
    rw [ofHeaders] at hr
    split at hr
    · rename_i d hread
      rw [← hr]
      exact ((read_eq_ok_iff h d).1 hread).redirect
    · contradiction
  cases hredirected with
  | @given text' endpoint u window said' url scheme kept lasts =>
    have hfield := (field_eq_some_iff h .redirect text).2 said
    rw [(field_eq_some_iff h .redirect text').2 said'] at hfield
    obtain rfl := Option.some.inj (Except.ok.inj hfield)
    refine ⟨u, url, ?_, kept⟩
    rw [Url.isHttp, Bool.or_eq_true, beq_iff_eq, beq_iff_eq]
    exact scheme

theorem field_congr (h : headers? ls = some hs) {ls' : Lines} {hs' : Headers}
    (h' : headers? ls' = some hs') {f : Field} (same : first ls f = first ls' f) :
    field hs f = field hs' f := by
  rw [field, field, get?_eq_first h, get?_eq_first h', same]

theorem readRedirect_congr (h : headers? ls = some hs) {ls' : Lines} {hs' : Headers}
    (h' : headers? ls' = some hs') (same : first ls .redirect = first ls' .redirect)
    (window : first ls .redirect ≠ none → first ls .window = first ls' .window) :
    readRedirect hs = readRedirect hs' := by
  rw [readRedirect, readRedirect, ← field_congr h h' same]
  by_cases habsent : first ls .redirect = none
  · rw [(field_eq_none_iff h .redirect).2 habsent]
    rfl
  · rw [millis, millis, field_congr h h' (window habsent)]

end

/-- Headers stand for the directive that they carry, and for an idle one, with one warning, if they
carry none. Only the first values of the four names count, and that of the window only next to an
endpoint. -/
theorem carried_or_idle {ls : Lines} {hs : Headers} (h : headers? ls = some hs) :
    (∀ d, ofHeaders hs = (d, []) ↔ Carries ls d) ∧
    ((∀ d, ¬ Carries ls d) → ∃ warning, ofHeaders hs = (idle, [warning]) ∧
      warning.line.level = .warn ∧
      warning.line.message = "Malformed directive in response, treating as idle") ∧
    (∀ ls' hs', headers? ls' = some hs' → first ls .subscribed = first ls' .subscribed →
      first ls .redirect = first ls' .redirect →
      (first ls .redirect ≠ none → first ls .window = first ls' .window) →
      first ls .hint = first ls' .hint → ofHeaders hs = ofHeaders hs') := by
  refine ⟨?_, ?_, ?_⟩
  · intro d
    rw [← read_eq_ok_iff h, ofHeaders]
    cases read hs <;> simp
  · intro hnone
    cases hread : read hs with
    | ok d => exact absurd ((read_eq_ok_iff h d).1 hread) (hnone d)
    | error fault =>
      refine ⟨.malformedDirective fault, ?_, rfl, rfl⟩
      rw [ofHeaders, hread]
  · intro ls' hs' h' hstatus hredirect hwindow hhint
    have hread : read hs = read hs' := by
      rw [read, read, readStatus, readStatus, field_congr h h' hstatus,
        readRedirect_congr h h' hredirect hwindow, millis, millis, field_congr h h' hhint]
    rw [ofHeaders, ofHeaders, hread]

/-- A name in capitals, a word in capitals, slashes and blanks at the end of an endpoint, a plus
sign and a hint of nothing. -/
theorem carried_or_idle_of_capitals :
    let bytes (s : String) : List UInt8 := Text.Utf8.encode s.toList
    let ls : Lines := [(bytes "X-LIVE-METRICS-SUBSCRIBED", bytes "TRUE"),
      (bytes "x-live-metrics-endpoint-redirect", bytes " http://b// "),
      (bytes "x-live-metrics-redirect-ttl-ms", bytes "+15"),
      (bytes "x-live-metrics-polling-interval-hint-ms", bytes "0")]
    ∃ hs, headers? ls = some hs ∧
      ofHeaders hs = (⟨.active, some ⟨"http://b", some 15⟩, none⟩, []) := by
  intro bytes ls
  have hshown (f : Field) (value : List UInt8) (text : String) (hf : first ls f = some value)
      (hprintable : ∀ b ∈ value, b = 9 ∨ 0x20 ≤ b ∧ b ≤ 0x7E)
      (htrim : Text.trim (letters value) = text) : Says ls f text :=
    ⟨value, hf, hprintable, Text.trim_eq_iff.1 htrim⟩
  have hstatus : Subscribed ls .active :=
    .active (hshown .subscribed (bytes "TRUE") "TRUE" (by decide +kernel) (by decide +kernel)
      (by decide +kernel)) (by decide +kernel)
  have hwindow : Milliseconds ls .window (some 15) :=
    .given (hshown .window (bytes "+15") "+15" (by decide +kernel) (by decide +kernel)
      (by decide +kernel)) (Text.Numeral.read?_eq_some_iff.1 (by decide +kernel))
  have hhint : Milliseconds ls .hint (some 0) :=
    .given (hshown .hint (bytes "0") "0" (by decide +kernel) (by decide +kernel)
      (by decide +kernel)) (Text.Numeral.read?_eq_some_iff.1 (by decide +kernel))
  obtain ⟨u, url, scheme⟩ := (isEndpoint_iff "http://b//").1 (by decide +kernel)
  have hredirect : Redirected ls (some ⟨"http://b", some 15⟩) :=
    .given (hshown .redirect (bytes " http://b// ") "http://b//" (by decide +kernel)
      (by decide +kernel) (by decide +kernel)) url scheme
      (Text.trimSlashes_eq_iff.1 (by decide +kernel)) hwindow
  have hsome : (headers? ls).isSome = true := by decide +kernel
  obtain ⟨hs, hhs⟩ := Option.isSome_iff_exists.1 hsome
  obtain ⟨hcarried, -⟩ := carried_or_idle hhs
  exact ⟨hs, hhs, (hcarried _).2 ⟨hstatus, hredirect, some 0, hhint, rfl⟩⟩

end LiveTelemetry.Directive
