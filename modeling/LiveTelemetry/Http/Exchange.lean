import LiveTelemetry.Http.Request
import LiveTelemetry.Url.Reference
/-!
Requests and their answers. An answer may send the request on to another place; the answer of the
last place is the one that counts.
-/
namespace LiveTelemetry.Http

/-- What came of a request, how long it took, and how things stand behind the link. -/
structure Exchange (σ : Type) where
  outcome : Except Failure Answer
  latency : Nat
  beyond : σ

/-- Places a request may be sent on to. -/
def maxHops : Nat := 10

/-- The place that an answer names. -/
def Answer.location? (a : Answer) (place : Url) : Option Url := do
  let text ← Text.Utf8.text? (← a.headers.get? "location")
  place.resolve? text

/-- The request that an answer asks for in place of `r`. -/
def Answer.next? (a : Answer) (r : Request) : Option Request :=
  match a.status.code with
  | 301 | 302 | 303 => (a.location? r.url).map fun u => ⟨.get, u, none⟩
  | 307 | 308 => (a.location? r.url).map fun u => { r with url := u }
  | _ => none

/-- Sends a request, and at most `hops` more that the answers ask for. The first one was sent to
`first`, and `spent` is the time that has passed since. -/
def Link.follow (l : Link σ) (timeout : Nat) (first : Url) :
    Nat → Nat → Request → σ → Exchange σ
  | hops, spent, r, s =>
    let passage := l.carry r s
    let spent := spent + passage.latency
    match passage.delivery with
    | .lost => ⟨.error (.undelivered first), spent, passage.beyond⟩
    | .silent => ⟨.error .late, timeout, passage.beyond⟩
    | .answered a =>
      if timeout < spent then ⟨.error .late, timeout, passage.beyond⟩
      else match a.next? r with
        | none => ⟨.ok a, spent, passage.beyond⟩
        | some next =>
          match hops with
          | 0 => ⟨.error (.endless r.url), spent, passage.beyond⟩
          | hops + 1 =>
            if next.url.isReachable then l.follow timeout first hops spent next passage.beyond
            else ⟨.error (.unusable (some next.url)), spent, passage.beyond⟩

/-- Posts a body to the place written in `target`. -/
def Link.post (l : Link σ) (timeout : Nat) (target : String) (body : List Char) (s : σ) :
    Exchange σ :=
  match Url.ofTarget target with
  | .error e => ⟨.error e, 0, s⟩
  | .ok u => l.follow timeout u maxHops 0 ⟨.post, u, some body⟩ s

end LiveTelemetry.Http
