import LiveTelemetry.Console.Session
import LiveTelemetry.Json.Reader
import LiveTelemetry.Proofs.Text.Ends
import LiveTelemetry.Proofs.Text.Numeral
import LiveTelemetry.Proofs.Text.Utf8
/-!
Which settings an environment stands for. Main statement: every variable is unset or says something
that it may be set to, or else the first that does not is the one that is complained about.
-/
namespace LiveTelemetry

open Text (Trimmed Unslashed)

namespace Environment

/-- A variable is set to the bytes of a text. -/
def Says (env : Environment) (v : Variable) (text : String) : Prop :=
  env v = some (Text.Utf8.encode text.toList)

/-- A variable is not set, or to bytes that are no text. -/
def Silent (env : Environment) (v : Variable) : Prop := ∀ text, ¬ env.Says v text

theorem text?_eq_some_iff {env : Environment} {v : Variable} {text : String} :
    env.text? v = some text ↔ env.Says v text := by
  rw [text?, Option.bind_eq_some_iff]
  constructor
  · intro h
    obtain ⟨bytes, hbytes, htext⟩ := h
    rw [Says, hbytes, Text.Utf8.text?_eq_some_iff.1 htext]
  · intro h
    exact ⟨_, h, Text.Utf8.text?_eq_some_iff.2 rfl⟩

theorem text?_eq_none_iff {env : Environment} {v : Variable} :
    env.text? v = none ↔ env.Silent v := by
  constructor
  · intro h text htold
    rw [text?_eq_some_iff.2 htold] at h
    contradiction
  · intro h
    cases ht : env.text? v with
    | none => rfl
    | some text => exact absurd (text?_eq_some_iff.1 ht) (h text)

end Environment

namespace Settings

/-- What a variable sets. -/
inductive Value where
  | text (s : String)
  | number (n : Nat)
  deriving DecidableEq

/-- The setting that a variable decides on. -/
def value (s : Settings) : Variable → Value
  | .endpoint => .text s.endpoint
  | .instanceName => .text s.instanceName
  | .pingInterval => .number s.intervals.ping
  | .postInterval => .number s.intervals.post
  | .errorInterval => .number s.intervals.error
  | .requestTimeout => .number s.requestTimeout
  | .bufferCapacity => .number s.bufferCapacity

/-- The largest number that a variable may be set to, and the unit it is counted in. -/
structure Scale where
  most : Nat
  unit : Nat

/-- Intervals are in milliseconds, up to ten minutes; the timeout is in seconds, up to five
minutes. -/
def scale? : Variable → Option Scale
  | .endpoint | .instanceName => none
  | .pingInterval | .postInterval | .errorInterval => some ⟨600000, 1⟩
  | .requestTimeout => some ⟨300, 1000⟩
  | .bufferCapacity => some ⟨100000, 1⟩

/-- A text says a number, of whatever size, between blanks: its digits, after a plus sign or
none. -/
def Writes (text : String) (n : Nat) : Prop :=
  ∃ core digits, Trimmed text core ∧ (core.toList = digits ∨ core.toList = '+' :: digits) ∧
    digits ≠ [] ∧ (∀ c ∈ digits, c.isDigit = true) ∧ n = Nat.ofDigitChars 10 digits 0

/-- The text of a URL begins in one of two ways. -/
def Http (url : String) : Prop :=
  "http://".toList <+: url.toList ∨ "https://".toList <+: url.toList

/-- A text that a variable may be set to, and what it is then set to. -/
inductive Takes : Variable → String → Value → Prop
  | endpoint {text core kept : String} (trimmed : Trimmed text core)
      (unslashed : Unslashed core kept) (http : Http kept) : Takes .endpoint text (.text kept)
  | instanceName {text core : String} (trimmed : Trimmed text core) (named : core ≠ "") :
      Takes .instanceName text (.text core)
  | number {v : Variable} {scale : Scale} {text : String} {n : Nat} (h : scale? v = some scale)
      (writes : Writes text n) (least : 1 ≤ n) (most : n ≤ scale.most) :
      Takes v text (.number (n * scale.unit))

/-- A text that a variable may not be set to, and what is wrong with it. -/
inductive Refuses : Variable → String → Problem → Prop
  | notHttpUrl {text core kept : String} (trimmed : Trimmed text core)
      (unslashed : Unslashed core kept) (other : ¬ Http kept) :
      Refuses .endpoint text (.notHttpUrl kept)
  | emptyInstance {text : String} (blank : Trimmed text "") :
      Refuses .instanceName text .emptyInstance
  | notANumber {v : Variable} {scale : Scale} {text : String} (h : scale? v = some scale)
      (huge : ∀ n, Writes text n → UInt64.size ≤ n) : Refuses v text (.notANumber v text)
  | belowMinimum {v : Variable} {scale : Scale} {text : String} (h : scale? v = some scale)
      (writes : Writes text 0) : Refuses v text (.belowMinimum v 0 1)
  | aboveMaximum {v : Variable} {scale : Scale} {text : String} {n : Nat}
      (h : scale? v = some scale) (writes : Writes text n) (most : scale.most < n)
      (fits : n < UInt64.size) : Refuses v text (.aboveMaximum v n scale.most)

/-- A variable has a value, which is a standard one unless the variable says something. -/
inductive Sets (env : Environment) (v : Variable) : Value → Prop
  | standard (h : env.Silent v) : Sets env v (standard.value v)
  | given {text : String} {x : Value} (h : env.Says v text) (takes : Takes v text x) : Sets env v x

/-- A variable says something that it may not be set to. -/
def Faults (env : Environment) (v : Variable) (q : Problem) : Prop :=
  ∃ text, env.Says v text ∧ Refuses v text q

theorem Problem.message_of_subject {q : Problem} {v : Variable} (h : q.subject = some v) :
    q.message = "Configuration error for " ++ v.name ++ ": " ++ q.detail := by
  rw [message, h]
  rfl

theorem Faults.subject {env : Environment} {v : Variable} {q : Problem} (h : Faults env v q) :
    q.subject = some v := by
  obtain ⟨text, -, hrefuses⟩ := h
  cases hrefuses <;> rfl

theorem isHttpUrl_iff {url : String} : isHttpUrl url = true ↔ Http url := by
  rw [isHttpUrl, Bool.or_eq_true, List.isPrefixOf_iff_prefix, List.isPrefixOf_iff_prefix]
  rfl

theorem normalEndpoint_eq_iff {text kept : String} :
    normalEndpoint text = kept ↔ ∃ core, Trimmed text core ∧ Unslashed core kept := by
  rw [normalEndpoint, Text.trimSlashes_eq_iff]
  constructor
  · intro h
    exact ⟨Text.trim text, Text.trimmed_trim text, h⟩
  · intro h
    obtain ⟨core, htrim, hkept⟩ := h
    rwa [Text.trim_eq_iff.2 htrim]

theorem read?_trim_eq_some_iff {text : String} {n : Nat} :
    Text.Numeral.read? (Text.trim text) = some n ↔ Writes text n ∧ n < UInt64.size := by
  have hlimit : Text.Numeral.limit = UInt64.size := rfl
  rw [Text.Numeral.read?_eq_some_iff]
  constructor
  · intro h
    obtain ⟨⟨digits, hcore, hne, hdigits, hn⟩, hlt⟩ := h
    exact ⟨⟨_, digits, Text.trimmed_trim text, hcore, hne, hdigits, hn⟩, hlimit ▸ hlt⟩
  · intro h
    obtain ⟨⟨core, digits, htrim, hcore, hne, hdigits, hn⟩, hlt⟩ := h
    obtain rfl := Text.trim_eq_iff.2 htrim
    exact ⟨⟨digits, hcore, hne, hdigits, hn⟩, hlimit ▸ hlt⟩

theorem takes_endpoint_iff {text : String} {x : Value} :
    Takes .endpoint text x ↔
      isHttpUrl (normalEndpoint text) = true ∧ x = .text (normalEndpoint text) := by
  constructor
  · intro h
    cases h with
    | endpoint trimmed unslashed http =>
      rw [normalEndpoint_eq_iff.2 ⟨_, trimmed, unslashed⟩]
      exact ⟨isHttpUrl_iff.2 http, rfl⟩
    | number h => contradiction
  · intro h
    obtain ⟨hhttp, rfl⟩ := h
    obtain ⟨core, htrim, hkept⟩ := normalEndpoint_eq_iff.1 (rfl : normalEndpoint text = _)
    exact .endpoint htrim hkept (isHttpUrl_iff.1 hhttp)

theorem refuses_endpoint_iff {text : String} {q : Problem} :
    Refuses .endpoint text q ↔
      ¬ isHttpUrl (normalEndpoint text) = true ∧ q = .notHttpUrl (normalEndpoint text) := by
  constructor
  · intro h
    cases h with
    | notHttpUrl trimmed unslashed other =>
      rw [normalEndpoint_eq_iff.2 ⟨_, trimmed, unslashed⟩, isHttpUrl_iff]
      exact ⟨other, rfl⟩
    | notANumber h => contradiction
    | belowMinimum h => contradiction
    | aboveMaximum h => contradiction
  · intro h
    obtain ⟨hother, rfl⟩ := h
    obtain ⟨core, htrim, hkept⟩ := normalEndpoint_eq_iff.1 (rfl : normalEndpoint text = _)
    rw [isHttpUrl_iff] at hother
    exact .notHttpUrl htrim hkept hother

theorem takes_instance_iff {text : String} {x : Value} :
    Takes .instanceName text x ↔ Text.trim text ≠ "" ∧ x = .text (Text.trim text) := by
  constructor
  · intro h
    cases h with
    | instanceName trimmed named =>
      rw [Text.trim_eq_iff.2 trimmed]
      exact ⟨named, rfl⟩
    | number h => contradiction
  · intro h
    obtain ⟨hnamed, rfl⟩ := h
    exact .instanceName (Text.trimmed_trim text) hnamed

theorem refuses_instance_iff {text : String} {q : Problem} :
    Refuses .instanceName text q ↔ Text.trim text = "" ∧ q = .emptyInstance := by
  constructor
  · intro h
    cases h with
    | emptyInstance blank => exact ⟨Text.trim_eq_iff.2 blank, rfl⟩
    | notANumber h => contradiction
    | belowMinimum h => contradiction
    | aboveMaximum h => contradiction
  · intro h
    obtain ⟨hblank, rfl⟩ := h
    exact .emptyInstance (Text.trim_eq_iff.1 hblank)

section

variable {v : Variable} {scale : Scale} (hv : scale? v = some scale) {text : String}
include hv

theorem most_lt : scale.most < UInt64.size := by
  cases v with
  | endpoint => contradiction
  | instanceName => contradiction
  | _ =>
    obtain rfl := Option.some.inj hv
    decide

theorem takes_number_iff {x : Value} :
    Takes v text x ↔ ∃ n, Text.Numeral.read? (Text.trim text) = some n ∧ 1 ≤ n ∧ n ≤ scale.most ∧
      x = .number (n * scale.unit) := by
  constructor
  · intro h
    cases h with
    | endpoint => contradiction
    | instanceName => contradiction
    | number h writes least most =>
      obtain rfl := Option.some.inj (hv.symm.trans h)
      have hlt := most_lt hv
      exact ⟨_, read?_trim_eq_some_iff.2 ⟨writes, by omega⟩, least, most, rfl⟩
  · intro h
    obtain ⟨n, hn, hleast, hmost, rfl⟩ := h
    exact .number hv (read?_trim_eq_some_iff.1 hn).1 hleast hmost

theorem refuses_number_iff {q : Problem} :
    Refuses v text q ↔
      (Text.Numeral.read? (Text.trim text) = none ∧ q = .notANumber v text) ∨
      (Text.Numeral.read? (Text.trim text) = some 0 ∧ q = .belowMinimum v 0 1) ∨
      ∃ n, Text.Numeral.read? (Text.trim text) = some n ∧ scale.most < n ∧
        q = .aboveMaximum v n scale.most := by
  constructor
  · intro h
    cases h with
    | notHttpUrl => contradiction
    | emptyInstance => contradiction
    | notANumber h huge =>
      refine .inl ⟨?_, rfl⟩
      cases hn : Text.Numeral.read? (Text.trim text) with
      | none => rfl
      | some n =>
        obtain ⟨hwrites, hfits⟩ := read?_trim_eq_some_iff.1 hn
        exact absurd (huge n hwrites) (Nat.not_le.2 hfits)
    | belowMinimum h writes =>
      exact .inr (.inl ⟨read?_trim_eq_some_iff.2 ⟨writes, by simp⟩, rfl⟩)
    | aboveMaximum h writes most fits =>
      obtain rfl := Option.some.inj (hv.symm.trans h)
      exact .inr (.inr ⟨_, read?_trim_eq_some_iff.2 ⟨writes, fits⟩, most, rfl⟩)
  · intro h
    rcases h with ⟨hnone, rfl⟩ | ⟨hzero, rfl⟩ | ⟨n, hn, hmost, rfl⟩
    · apply Refuses.notANumber hv
      intro n hwrites
      by_contra hlt
      have hsome := read?_trim_eq_some_iff.2 ⟨hwrites, Nat.not_le.1 hlt⟩
      rw [hnone] at hsome
      contradiction
    · exact .belowMinimum hv (read?_trim_eq_some_iff.1 hzero).1
    · obtain ⟨hwrites, hfits⟩ := read?_trim_eq_some_iff.1 hn
      exact .aboveMaximum hv hwrites hmost hfits

end

theorem writes_write (n : Nat) : Writes (Text.Numeral.write n) n := by
  have hdigit {c : Char} (hc : c ∈ Nat.toDigits 10 n) : c.isDigit = true :=
    Nat.isDigit_of_mem_toDigits (by decide) (by decide) hc
  have htext : (Text.Numeral.write n).toList = Nat.toDigits 10 n := by
    rw [Text.Numeral.write, String.toList_ofList]
  refine ⟨_, Nat.toDigits 10 n, Text.trimmed_self ?_ ?_, .inl htext, ?_, fun c hc => hdigit hc, ?_⟩
  · rw [htext]
    intro c hc
    exact Text.isBlank_of_isDigit (hdigit (List.mem_of_mem_head? hc))
  · rw [htext]
    intro c hc
    exact Text.isBlank_of_isDigit (hdigit (List.mem_of_mem_getLast? hc))
  · exact Nat.toDigits_ne_nil
  · exact Nat.ofDigitChars_ten_toDigits.symm

/-- A variable may be set to its standard. -/
theorem standard_taken (v : Variable) : ∃ text, Takes v text (standard.value v) := by
  have hnumber (v : Variable) (scale : Scale) (n : Nat) (hv : scale? v = some scale)
      (hn : standard.value v = .number (n * scale.unit)) (hrange : 1 ≤ n ∧ n ≤ scale.most) :
      ∃ text, Takes v text (standard.value v) := by
    rw [hn]
    exact ⟨_, .number hv (writes_write n) hrange.1 hrange.2⟩
  cases v with
  | endpoint =>
    exact ⟨standard.endpoint, takes_endpoint_iff.2 ⟨by decide +kernel, by decide +kernel⟩⟩
  | instanceName =>
    exact ⟨standardInstance, takes_instance_iff.2 ⟨by decide +kernel, by decide +kernel⟩⟩
  | pingInterval => exact hnumber .pingInterval ⟨600000, 1⟩ 5000 rfl rfl (by decide)
  | postInterval => exact hnumber .postInterval ⟨600000, 1⟩ 1000 rfl rfl (by decide)
  | errorInterval => exact hnumber .errorInterval ⟨600000, 1⟩ 40000 rfl rfl (by decide)
  | requestTimeout => exact hnumber .requestTimeout ⟨300, 1000⟩ 5 rfl rfl (by decide)
  | bufferCapacity => exact hnumber .bufferCapacity ⟨100000, 1⟩ 10000 rfl rfl (by decide)

theorem Sets.exists_takes {env : Environment} {v : Variable} {x : Value} (h : Sets env v x) :
    ∃ text, Takes v text x := by
  cases h with
  | standard => exact standard_taken v
  | given _ takes => exact ⟨_, takes⟩

/-- What is read of a variable is what it sets, or what is wrong with it. -/
structure Decides (env : Environment) (v : Variable) (r : Except Problem Value) : Prop where
  sets : ∀ x, r = .ok x ↔ Sets env v x
  faults : ∀ q, r = .error q ↔ Faults env v q

section

variable {env : Environment} {v : Variable}

theorem Decides.of_silent (h : env.Silent v) : Decides env v (.ok (standard.value v)) := by
  constructor
  · intro x
    rw [Except.ok.injEq]
    constructor
    · intro hx
      rw [← hx]
      exact .standard h
    · intro hx
      cases hx with
      | standard => rfl
      | given htold => exact absurd htold (h _)
  · intro q
    constructor
    · intro hq
      contradiction
    · intro hq
      obtain ⟨text, htold, -⟩ := hq
      exact absurd htold (h text)

variable {text : String} (h : env.Says v text)
include h

theorem eq_of_told {said : String} (htold : env.Says v said) : said = text :=
  Option.some.inj ((Environment.text?_eq_some_iff.2 htold).symm.trans
    (Environment.text?_eq_some_iff.2 h))

theorem sets_iff_takes (x : Value) : Sets env v x ↔ Takes v text x := by
  constructor
  · intro hx
    cases hx with
    | standard hsilent => exact absurd h (hsilent text)
    | given htold takes => exact eq_of_told h htold ▸ takes
  · intro takes
    exact .given h takes

theorem faults_iff_refuses (q : Problem) : Faults env v q ↔ Refuses v text q := by
  constructor
  · intro hq
    obtain ⟨said, htold, hrefuses⟩ := hq
    exact eq_of_told h htold ▸ hrefuses
  · intro hrefuses
    exact ⟨text, h, hrefuses⟩

theorem Decides.of_told {r : Except Problem Value} (takes : ∀ x, r = .ok x ↔ Takes v text x)
    (refuses : ∀ q, r = .error q ↔ Refuses v text q) : Decides env v r where
  sets x := (takes x).trans (sets_iff_takes h x).symm
  faults q := (refuses q).trans (faults_iff_refuses h q).symm

end

theorem readEndpoint_decides (env : Environment) :
    Decides env .endpoint ((readEndpoint env).map .text) := by
  cases ht : env.text? .endpoint with
  | none =>
    have hread : readEndpoint env = .ok standard.endpoint := by
      rw [readEndpoint, ht]
      decide +kernel
    rw [hread]
    exact .of_silent (Environment.text?_eq_none_iff.1 ht)
  | some text =>
    apply Decides.of_told (Environment.text?_eq_some_iff.1 ht)
    · intro x
      rw [takes_endpoint_iff, readEndpoint, ht, Option.getD_some]
      by_cases hhttp : isHttpUrl (normalEndpoint text) = true
      · simp [hhttp, Except.map, eq_comm]
      · simp [hhttp, Except.map]
    · intro q
      rw [refuses_endpoint_iff, readEndpoint, ht, Option.getD_some]
      by_cases hhttp : isHttpUrl (normalEndpoint text) = true
      · simp [hhttp, Except.map]
      · simp [hhttp, Except.map, eq_comm]

theorem readInstance_decides (env : Environment) :
    Decides env .instanceName ((readInstance env).map .text) := by
  cases ht : env.text? .instanceName with
  | none =>
    have hread : readInstance env = .ok standard.instanceName := by
      rw [readInstance, ht]
      rfl
    rw [hread]
    exact .of_silent (Environment.text?_eq_none_iff.1 ht)
  | some text =>
    have hread : readInstance env =
        if Text.trim text = "" then .error .emptyInstance else .ok (Text.trim text) := by
      simp only [readInstance, ht, Option.map_some, Option.getD_some, String.isEmpty_iff]
    rw [hread]
    apply Decides.of_told (Environment.text?_eq_some_iff.1 ht)
    · intro x
      rw [takes_instance_iff]
      by_cases hempty : Text.trim text = ""
      · simp [hempty, Except.map]
      · simp [hempty, Except.map, eq_comm]
    · intro q
      rw [refuses_instance_iff]
      by_cases hempty : Text.trim text = ""
      · simp [hempty, Except.map, eq_comm]
      · simp [hempty, Except.map]

/-- A number of units, of which `default` is the standard. -/
def readScaled (env : Environment) (v : Variable) (default : Nat) (scale : Scale) :
    Except Problem Value :=
  (readNumber env v default scale.most).map fun n => .number (n * scale.unit)

theorem readScaled_decides (env : Environment) {v : Variable} {scale : Scale} {default : Nat}
    (hv : scale? v = some scale) (hdefault : standard.value v = .number (default * scale.unit)) :
    Decides env v (readScaled env v default scale) := by
  rw [readScaled]
  cases ht : env.text? v with
  | none =>
    have hread : readNumber env v default scale.most = .ok default := by rw [readNumber, ht]
    rw [hread, Except.map, ← hdefault]
    exact .of_silent (Environment.text?_eq_none_iff.1 ht)
  | some text =>
    apply Decides.of_told (Environment.text?_eq_some_iff.1 ht)
    · intro x
      rw [takes_number_iff hv]
      cases hn : Text.Numeral.read? (Text.trim text) with
      | none => simp [readNumber, ht, hn, Except.map]
      | some n =>
        by_cases hzero : n < 1
        · have hleast : ¬ 1 ≤ n := Nat.not_le.2 hzero
          simp [readNumber, ht, hn, hzero, hleast, Except.map]
        by_cases hmost : scale.most < n
        · have hlong : ¬ n ≤ scale.most := Nat.not_le.2 hmost
          simp [readNumber, ht, hn, hzero, hmost, hlong, Except.map]
        · have hleast : 1 ≤ n := Nat.not_lt.1 hzero
          have hfits : n ≤ scale.most := Nat.not_lt.1 hmost
          simp [readNumber, ht, hn, hzero, hmost, hleast, hfits, Except.map, eq_comm]
    · intro q
      rw [refuses_number_iff hv]
      cases hn : Text.Numeral.read? (Text.trim text) with
      | none => simp [readNumber, ht, hn, Except.map, eq_comm]
      | some n =>
        by_cases hzero : n < 1
        · obtain rfl : n = 0 := by omega
          simp [readNumber, ht, hn, Except.map, eq_comm]
        have hne : n ≠ 0 := by omega
        by_cases hmost : scale.most < n
        · simp [readNumber, ht, hn, hne, hmost, Except.map, eq_comm]
        · simp [readNumber, ht, hn, hne, hmost, Except.map]

/-- What is read of a variable. -/
def readVariable (env : Environment) : Variable → Except Problem Value
  | .endpoint => (readEndpoint env).map .text
  | .instanceName => (readInstance env).map .text
  | .pingInterval => readScaled env .pingInterval standard.intervals.ping ⟨maxInterval, 1⟩
  | .postInterval => readScaled env .postInterval standard.intervals.post ⟨maxInterval, 1⟩
  | .errorInterval => readScaled env .errorInterval standard.intervals.error ⟨maxInterval, 1⟩
  | .requestTimeout => readScaled env .requestTimeout 5 ⟨maxTimeoutSeconds, 1000⟩
  | .bufferCapacity => readScaled env .bufferCapacity standard.bufferCapacity ⟨maxCapacity, 1⟩

theorem readVariable_decides (env : Environment) (v : Variable) :
    Decides env v (readVariable env v) := by
  cases v with
  | endpoint => exact readEndpoint_decides env
  | instanceName => exact readInstance_decides env
  | _ => exact readScaled_decides env rfl rfl

/-- Variables are read in turn, up to the first problem. -/
theorem read_eq_mapM (env : Environment) :
    (read env).map (fun s => Variable.all.map s.value) = Variable.all.mapM (readVariable env) := by
  simp only [read, Variable.all, List.mapM_cons, List.mapM_nil, readVariable, readScaled]
  cases readEndpoint env with
  | error q => rfl
  | ok endpoint =>
  cases readInstance env with
  | error q => rfl
  | ok name =>
  cases readNumber env .pingInterval standard.intervals.ping maxInterval with
  | error q => rfl
  | ok ping =>
  cases readNumber env .postInterval standard.intervals.post maxInterval with
  | error q => rfl
  | ok post =>
  cases readNumber env .errorInterval standard.intervals.error maxInterval with
  | error q => rfl
  | ok error =>
  cases readNumber env .requestTimeout 5 maxTimeoutSeconds with
  | error q => rfl
  | ok seconds =>
  cases readNumber env .bufferCapacity standard.bufferCapacity maxCapacity with
  | error q => rfl
  | ok capacity => simp [Except.map, Bind.bind, Except.bind, Pure.pure, Except.pure, value]

theorem readVariable_congr {env env' : Environment} {v : Variable} (h : env v = env' v) :
    readVariable env v = readVariable env' v := by
  have htext : env.text? v = env'.text? v := by rw [Environment.text?, Environment.text?, h]
  cases v <;> simp only [readVariable, readScaled, readEndpoint, readInstance, readNumber, htext]

theorem eq_of_values {s t : Settings} (h : ∀ v, s.value v = t.value v) : s = t := by
  have hendpoint := h .endpoint
  have hname := h .instanceName
  have hping := h .pingInterval
  have hpost := h .postInterval
  have herror := h .errorInterval
  have htimeout := h .requestTimeout
  have hcapacity := h .bufferCapacity
  obtain ⟨_, _, ⟨_, _, _⟩, _, _⟩ := s
  obtain ⟨_, _, ⟨_, _, _⟩, _, _⟩ := t
  simp_all [value]

theorem mem_all (v : Variable) : v ∈ Variable.all := by
  cases v <;> decide

section

variable {α β ε : Type} {f : α → Except ε β}

theorem mapM_eq_ok_iff {g : α → β} {xs : List α} :
    xs.mapM f = .ok (xs.map g) ↔ ∀ x ∈ xs, f x = .ok (g x) := by
  induction xs with
  | nil => simp [Pure.pure, Except.pure]
  | cons x xs ih =>
    rw [List.mapM_cons, List.forall_mem_cons, ← ih, Json.bind_eq_ok]
    constructor
    · intro h
      obtain ⟨y, hy, h⟩ := h
      obtain ⟨ys, hys, h⟩ := Json.bind_eq_ok.1 h
      obtain ⟨rfl, rfl⟩ := List.cons.inj (Except.ok.inj h)
      exact ⟨hy, hys⟩
    · intro h
      exact ⟨g x, h.1, Json.bind_eq_ok.2 ⟨_, h.2, rfl⟩⟩

/-- A list is given up at the first member that cannot be read. -/
theorem mapM_eq_error_iff {e : ε} {xs : List α} :
    xs.mapM f = .error e ↔ ∃ before x after, xs = before ++ x :: after ∧
      (∀ w ∈ before, ∃ y, f w = .ok y) ∧ f x = .error e := by
  induction xs with
  | nil => simp [Pure.pure, Except.pure]
  | cons x xs ih =>
    rw [List.mapM_cons]
    cases hx : f x with
    | error e' =>
      constructor
      · intro h
        obtain rfl := Except.error.inj h
        exact ⟨[], x, xs, rfl, by simp, hx⟩
      · intro h
        obtain ⟨before, z, after, hxs, hbefore, hz⟩ := h
        cases before with
        | nil =>
          obtain ⟨rfl, rfl⟩ := List.cons.inj hxs
          obtain rfl := Except.error.inj (hx.symm.trans hz)
          rfl
        | cons w before =>
          obtain ⟨rfl, -⟩ := List.cons.inj hxs
          obtain ⟨y, hy⟩ := hbefore x (by simp)
          rw [hx] at hy
          contradiction
    | ok y =>
      have hrest : (Except.ok y >>= fun y => xs.mapM f >>= fun ys => pure (y :: ys)) = .error e ↔
          xs.mapM f = .error e := by
        cases xs.mapM f <;> simp [Bind.bind, Except.bind, Pure.pure, Except.pure]
      rw [hrest, ih]
      constructor
      · intro h
        obtain ⟨before, z, after, rfl, hbefore, hz⟩ := h
        refine ⟨x :: before, z, after, rfl, ?_, hz⟩
        rw [List.forall_mem_cons]
        exact ⟨⟨y, hx⟩, hbefore⟩
      · intro h
        obtain ⟨before, z, after, hxs, hbefore, hz⟩ := h
        cases before with
        | nil =>
          obtain ⟨rfl, rfl⟩ := List.cons.inj hxs
          rw [hx] at hz
          contradiction
        | cons w before =>
          obtain ⟨rfl, rfl⟩ := List.cons.inj hxs
          rw [List.forall_mem_cons] at hbefore
          exact ⟨before, z, after, rfl, hbefore.2, hz⟩

end

section

variable {env : Environment} {s : Settings} {q : Problem} {v : Variable}

theorem read_eq_ok_iff : read env = .ok s ↔ ∀ v, readVariable env v = .ok (s.value v) := by
  have hall : Variable.all.mapM (readVariable env) = .ok (Variable.all.map s.value) ↔
      ∀ v, readVariable env v = .ok (s.value v) := by
    rw [mapM_eq_ok_iff]
    exact ⟨fun h v => h v (mem_all v), fun h v _ => h v⟩
  rw [← hall, ← read_eq_mapM]
  constructor
  · intro h
    rw [h]
    rfl
  · intro h
    cases hread : read env with
    | error q =>
      rw [hread] at h
      contradiction
    | ok t =>
      rw [hread] at h
      have hvalues := List.map_inj_left.1 (Except.ok.inj h)
      rw [eq_of_values fun v => hvalues v (mem_all v)]

theorem read_eq_ok_iff_sets : read env = .ok s ↔ ∀ v, Sets env v (s.value v) := by
  simp only [read_eq_ok_iff, (readVariable_decides env _).sets]

theorem read_eq_error_iff :
    read env = .error q ↔ ∃ before v after, Variable.all = before ++ v :: after ∧
      (∀ w ∈ before, ∃ x, Sets env w x) ∧ Faults env v q := by
  simp only [← (readVariable_decides env _).sets, ← (readVariable_decides env _).faults]
  rw [← mapM_eq_error_iff, ← read_eq_mapM]
  cases read env <;> simp [Except.map]

/-- A number that a variable sets is in its range. -/
theorem Sets.scaled {n : Nat} (h : Sets env v (.number n)) :
    ∃ scale k, scale? v = some scale ∧ 1 ≤ k ∧ k ≤ scale.most ∧ n = k * scale.unit := by
  obtain ⟨text, htakes⟩ := h.exists_takes
  cases htakes with
  | number hscale writes least most => exact ⟨_, _, hscale, least, most, rfl⟩

theorem check_of_read (h : ∀ v, Sets env v (s.value v)) : s.intervals.check = .ok () := by
  have hpos {v : Variable} {n : Nat} (hn : Sets env v (.number n))
      (hv : scale? v = some ⟨600000, 1⟩) : n ≠ 0 := by
    obtain ⟨scale, k, hscale, hleast, -, rfl⟩ := hn.scaled
    obtain rfl := Option.some.inj (hv.symm.trans hscale)
    exact Nat.ne_of_gt (Nat.mul_pos hleast Nat.one_pos)
  have hping := hpos (h .pingInterval) rfl
  have hpost := hpos (h .postInterval) rfl
  have herror := hpos (h .errorInterval) rfl
  rw [Intervals.check, if_neg hping, if_neg hpost, if_neg herror]

theorem limit_of_read (h : ∀ v, Sets env v (s.value v)) :
    (Console.newHost s).backlog.limit = s.bufferCapacity := by
  obtain ⟨scale, k, hscale, hleast, -, hcapacity⟩ := (h .bufferCapacity).scaled
  obtain rfl := Option.some.inj hscale
  apply Nat.max_eq_left
  change 1 ≤ s.bufferCapacity
  rw [hcapacity]
  exact Nat.mul_pos hleast Nat.one_pos

end

/-- Settings are read if every variable sets something, and are what the variables set; if one does
not, the first of them in order is complained about. What a variable sets depends on no other, and
settings that were read suit the loop and the backlog. -/
theorem read_or_first_problem (env : Environment) :
    (∀ s, read env = .ok s ↔ ∀ v, Sets env v (s.value v)) ∧
    ((∃ s, read env = .ok s) ↔ ∀ v, ∃ x, Sets env v x) ∧
    (∀ q, read env = .error q ↔ ∃ before v after, Variable.all = before ++ v :: after ∧
      (∀ w ∈ before, ∃ x, Sets env w x) ∧ Faults env v q) ∧
    (∀ v q, Faults env v q →
      q.message = "Configuration error for " ++ v.name ++ ": " ++ q.detail) ∧
    (∀ s, read env = .ok s → (∀ env' s' v, read env' = .ok s' → env v = env' v →
      s.value v = s'.value v) ∧ s.intervals.check = .ok () ∧
      (Console.newHost s).backlog.limit = s.bufferCapacity) := by
  refine ⟨fun s => read_eq_ok_iff_sets, ?_, fun q => read_eq_error_iff, ?_, ?_⟩
  · constructor
    · intro h
      obtain ⟨s, hs⟩ := h
      exact fun v => ⟨_, read_eq_ok_iff_sets.1 hs v⟩
    · intro h
      cases hread : read env with
      | ok s => exact ⟨s, rfl⟩
      | error q =>
        obtain ⟨_, v, _, _, _, hq⟩ := read_eq_error_iff.1 hread
        obtain ⟨x, hx⟩ := h v
        have hdecides := readVariable_decides env v
        cases ((hdecides.faults q).2 hq).symm.trans ((hdecides.sets x).2 hx)
  · intro v q hq
    exact Problem.message_of_subject hq.subject
  · intro s hs
    have hvalues := read_eq_ok_iff_sets.1 hs
    refine ⟨?_, check_of_read hvalues, limit_of_read hvalues⟩
    intro env' s' v hs' hsame
    have hthis := read_eq_ok_iff.1 hs v
    have hother := read_eq_ok_iff.1 hs' v
    rw [readVariable_congr hsame] at hthis
    exact Except.ok.inj (hthis.symm.trans hother)

/-- Blanks and slashes about an endpoint, a plus sign before zeros, bytes that are no text, and in
another environment a number that no machine word holds before one that is too large. -/
theorem read_or_first_problem_of_bytes :
    let bytes (s : String) : List UInt8 := Text.Utf8.encode s.toList
    let env : Environment := fun v =>
      match v with
      | .endpoint => some (bytes " https://a/live// ")
      | .instanceName => some (bytes "\tedge 7")
      | .pingInterval => some (bytes " +0000000000000000000000250 ")
      | .postInterval => some [0xFF]
      | _ => none
    let env' : Environment := fun v =>
      match v with
      | .errorInterval => some (bytes "99999999999999999999")
      | .requestTimeout => some (bytes "301")
      | _ => none
    let s : Settings := ⟨"https://a/live", "edge 7", ⟨250, 1000, 40000⟩, 5000, 10000⟩
    (∀ v, Sets env v (s.value v)) ∧ s.intervals.check = .ok () ∧
      (Console.newHost s).backlog.limit = 10000 ∧
      ∃ before after, Variable.all = before ++ .errorInterval :: after ∧
        (∀ w ∈ before, ∃ x, Sets env' w x) ∧
        Faults env' .errorInterval (.notANumber .errorInterval "99999999999999999999") := by
  intro bytes env env' s
  have hread : read env = .ok s := by decide +kernel
  have hread' : read env' = .error (.notANumber .errorInterval "99999999999999999999") := by
    decide +kernel
  obtain ⟨hok, -, -, -, hsound⟩ := read_or_first_problem env
  obtain ⟨-, -, herror, -⟩ := read_or_first_problem env'
  obtain ⟨-, hcheck, hlimit⟩ := hsound s hread
  refine ⟨(hok s).1 hread, hcheck, hlimit, ?_⟩
  obtain ⟨before, v, after, hall, hbefore, hfaults⟩ := (herror _).1 hread'
  obtain rfl := Option.some.inj hfaults.subject
  exact ⟨before, after, hall, hbefore, hfaults⟩

end Settings

end LiveTelemetry
