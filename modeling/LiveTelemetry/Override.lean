import LiveTelemetry.Directive
/-!
The endpoint in use while a redirect lasts. At most one redirect is held: the last one received,
until a look at it finds its time over.
-/
namespace LiveTelemetry

/-- An endpoint that stands in for the configured one, and when it ends. -/
structure Override where
  endpoint : String
  expires : Option Nat
  deriving DecidableEq

namespace Override

def expired (o : Override) (now : Nat) : Bool := o.expires.any (· ≤ now)

/-- What becomes of the override when a directive is received. -/
inductive Change where
  | redirected (endpoint : String) (validFor : Option Nat)
  | renewed (endpoint : String)
  | ended (endpoint : String)
  deriving DecidableEq

/-- The override after the redirect `r` is received at `now`. -/
def ofRedirect (r : Redirect) (now : Nat) : Override :=
  ⟨r.endpoint, r.validFor.map (now + ·)⟩

/-- Takes up the redirect that a directive carries, if any. -/
def apply (held : Option Override) (d : Directive) (now : Nat) :
    Option Override × Option Change :=
  match d.redirect with
  | none => (held, none)
  | some r =>
    let change := if held.map (·.endpoint) = some r.endpoint then Change.renewed r.endpoint
      else .redirected r.endpoint r.validFor
    (some (ofRedirect r now), some change)

/-- The override in effect at `now`; one whose time is over is given up for good. -/
def current (held : Option Override) (now : Nat) : Option Override × Option Change :=
  match held with
  | none => (none, none)
  | some o => if o.expired now then (none, some (.ended o.endpoint)) else (some o, none)

end Override

end LiveTelemetry
