import LiveTelemetry.Json.Str
/-!
Lists and objects of a JSON text, from the opening bracket to the closing one.
-/
namespace LiveTelemetry.Json

open Text (Symbol)

/-- Whether a collection ends here, or has something more. -/
inductive Next where
  | stop (rest : List Symbol)
  | more (rest : List Symbol)

def Next.rest : Next → List Symbol
  | stop r => r
  | more r => r

/-- The way to the next element of a list. -/
def nextElement (first : Bool) (s : List Symbol) : Except Fault Next :=
  match skipSpace s with
  | [] => .error .endOfList
  | c :: rest =>
    if c = .scalar ']' then .ok (.stop rest)
    else if first then .ok (.more (c :: rest))
    else if c = .scalar ',' then
      match skipSpace rest with
      | [] => .error .endOfValue
      | d :: after => if d = .scalar ']' then .error .trailingComma else .ok (.more (d :: after))
    else .error .expectedListCommaOrEnd

/-- The way to the next key of an object, past its opening mark. -/
def nextKey (first : Bool) (s : List Symbol) : Except Fault Next :=
  match skipSpace s with
  | [] => .error .endOfObject
  | c :: rest =>
    if c = .scalar '}' then .ok (.stop rest)
    else if first then
      if c = .scalar '"' then .ok (.more rest) else .error .keyMustBeString
    else if c = .scalar ',' then
      match skipSpace rest with
      | [] => .error .endOfValue
      | d :: after =>
        if d = .scalar '"' then .ok (.more after)
        else if d = .scalar '}' then .error .trailingComma
        else .error .keyMustBeString
    else .error .expectedObjectCommaOrEnd

/-- The colon after a key. -/
def colon (s : List Symbol) : Except Fault (List Symbol) :=
  match skipSpace s with
  | [] => .error .endOfObject
  | c :: rest => if c = .scalar ':' then .ok rest else .error .expectedColon

/-- The end of a list whose elements are all read. -/
def endList (s : List Symbol) : Except Fault (List Symbol) :=
  match skipSpace s with
  | [] => .error .endOfList
  | c :: rest =>
    if c = .scalar ']' then .ok rest
    else if c = .scalar ',' ∧ (skipSpace rest).head? = some (.scalar ']') then
      .error .trailingComma
    else .error .trailingCharacters

theorem nextElement_length {first : Bool} {s : List Symbol} {n : Next}
    (h : nextElement first s = .ok n) : n.rest.length ≤ s.length := by
  have hs := skipSpace_length_le s
  unfold nextElement at h
  split at h
  · cases h
  · rename_i c rest hc
    rw [hc, List.length_cons] at hs
    split at h
    · cases h; simp only [Next.rest]; omega
    · split at h
      · cases h; simp only [Next.rest, List.length_cons]; omega
      · split at h
        · have hr := skipSpace_length_le rest
          split at h
          · cases h
          · rename_i d after hd
            rw [hd, List.length_cons] at hr
            split at h
            · cases h
            · cases h; simp only [Next.rest, List.length_cons]; omega
        · cases h

theorem nextElement_stop_length {first : Bool} {s rest : List Symbol}
    (h : nextElement first s = .ok (.stop rest)) : rest.length < s.length := by
  have hs := skipSpace_length_le s
  unfold nextElement at h
  split at h
  · cases h
  · rename_i c rest' hc
    rw [hc, List.length_cons] at hs
    split at h
    · cases h; omega
    · split at h
      · cases h
      · split at h
        · split at h
          · cases h
          · split at h <;> cases h
        · cases h

theorem nextKey_length {first : Bool} {s : List Symbol} {n : Next}
    (h : nextKey first s = .ok n) : n.rest.length < s.length := by
  have hs := skipSpace_length_le s
  unfold nextKey at h
  split at h
  · cases h
  · rename_i c rest hc
    rw [hc, List.length_cons] at hs
    split at h
    · cases h; simp only [Next.rest]; omega
    · split at h
      · split at h
        · cases h; simp only [Next.rest]; omega
        · cases h
      · split at h
        · have hr := skipSpace_length_le rest
          split at h
          · cases h
          · rename_i d after hd
            rw [hd, List.length_cons] at hr
            split at h
            · cases h; simp only [Next.rest]; omega
            · split at h <;> cases h
        · cases h

theorem colon_length {s r : List Symbol} (h : colon s = .ok r) : r.length < s.length := by
  have hs := skipSpace_length_le s
  unfold colon at h
  split at h
  · cases h
  · rename_i c rest hc
    rw [hc, List.length_cons] at hs
    split at h
    · cases h; omega
    · cases h

theorem endList_length {s r : List Symbol} (h : endList s = .ok r) : r.length < s.length := by
  have hs := skipSpace_length_le s
  unfold endList at h
  split at h
  · cases h
  · rename_i c rest hc
    rw [hc, List.length_cons] at hs
    split at h
    · cases h; omega
    · split at h <;> cases h

/-- The elements of a list after those in `done`, which are kept latest first. -/
def elements (element : Reader α) (first : Bool) (done : List α) (s : List Symbol) :
    Except Fault (List α × List Symbol) :=
  match h : nextElement first s with
  | .error e => .error e
  | .ok (.stop rest) => .ok (done.reverse, rest)
  | .ok (.more t) =>
    match ht : element.run t with
    | .error e => .error e
    | .ok (a, r) =>
      have := nextElement_length h
      have := element.shrinks ht
      elements element false (a :: done) r
termination_by s.length
decreasing_by simp only [Next.rest] at *; omega

theorem elements_length {element : Reader α} {first : Bool} {done xs : List α}
    {s r : List Symbol} (h : elements element first done s = .ok (xs, r)) :
    r.length < s.length := by
  fun_induction elements element first done s with
  | case1 => cases h
  | case2 first done s rest hn => cases h; exact nextElement_stop_length hn
  | case3 => cases h
  | case4 first done s t hn a r' ht h1 h2 ih =>
    have := ih h
    simp only [Next.rest] at h1
    omega

/-- The members of an object, each folded into `acc` by the reader that `member` gives for its
name. -/
def members (member : σ → String → Except Fault (Reader σ)) (first : Bool) (acc : σ)
    (s : List Symbol) : Except Fault (σ × List Symbol) :=
  match h : nextKey first s with
  | .error e => .error e
  | .ok (.stop rest) => .ok (acc, rest)
  | .ok (.more t) =>
    match hk : Str.reader.run t with
    | .error e => .error e
    | .ok (name, r) =>
      match member acc name with
      | .error e => .error e
      | .ok value =>
        match hc : colon r with
        | .error e => .error e
        | .ok r =>
          match hv : value.run r with
          | .error e => .error e
          | .ok (acc, r) =>
            have := nextKey_length h
            have := Str.reader.shrinks hk
            have := colon_length hc
            have := value.shrinks hv
            members member false acc r
termination_by s.length
decreasing_by simp only [Next.rest] at *; omega

theorem members_length {member : σ → String → Except Fault (Reader σ)} {first : Bool}
    {acc out : σ} {s r : List Symbol} (h : members member first acc s = .ok (out, r)) :
    r.length < s.length := by
  fun_induction members member first acc s with
  | case1 => cases h
  | case2 first acc s rest hn => cases h; exact nextKey_length hn
  | case3 => cases h
  | case4 => cases h
  | case5 => cases h
  | case6 => cases h
  | case7 _ _ _ _ _ _ _ _ _ _ _ _ _ _ _ h1 h2 h3 h4 ih =>
    have := ih h
    simp only [Next.rest] at h1
    omega

end LiveTelemetry.Json
