import Switchboard.Error
import Switchboard.Text.Ascii

/-!
# How connections are run

A `SocketConfig` fixes the intervals, limits and origins of a hub's connections; `validate` refuses
those no connection could be run with. All intervals are in milliseconds.

`OriginPolicy` decides which pages may open a connection: those on a list, or the one that is equal
to a given origin.
-/

namespace Switchboard

/-- The limits and intervals of connections. -/
structure SocketConfig where
  readBufferSize : Nat := 1024
  writeBufferSize : Nat := 1024
  allowedOrigins : List String := []
  readTimeout : Nat := 60000
  writeTimeout : Nat := 10000
  heartbeat : Nat := 54000
  maxMessageSize : Nat := 65536
  queueCapacity : Nat := 256
  deriving DecidableEq, Repr, Inhabited

namespace SocketConfig

/-- The first reason not to run connections with a configuration, if there is one. -/
def fault? (c : SocketConfig) : Option Invalid :=
  if c.heartbeat = 0 ∨ c.writeTimeout = 0 then some .zeroInterval
  else if c.readTimeout ≤ c.heartbeat then some (.readTimeoutTooShort c.readTimeout c.heartbeat)
  else if c.queueCapacity = 0 then some .noQueue
  else if c.maxMessageSize = 0 then some .noMessageSize
  else none

/-- Accept a configuration that connections can be run with. -/
def validate (c : SocketConfig) : Except Error Unit :=
  match c.fault? with
  | some fault => .error (.validation fault)
  | none => .ok ()

/-- Whether a page of the given origin may open a connection. An empty list admits every origin, and
a request that names none is always admitted. -/
def originAllowed (c : SocketConfig) (origin : Option String) : Bool :=
  c.allowedOrigins.isEmpty ||
    match origin with
    | none => true
    | some origin =>
      c.allowedOrigins.any fun allowed => allowed = "*" || Ascii.sameText allowed origin

theorem originAllowed_none (c : SocketConfig) : c.originAllowed none = true := Bool.or_true _

/-- With a list that names no origin for all, only the listed ones are admitted. -/
theorem originAllowed_some {c : SocketConfig} (hsome : c.allowedOrigins ≠ [])
    (hstar : "*" ∉ c.allowedOrigins) (origin : String) :
    c.originAllowed (some origin) =
      c.allowedOrigins.any fun allowed => Ascii.sameText allowed origin := by
  have hempty : c.allowedOrigins.isEmpty = false := by simpa using hsome
  change (c.allowedOrigins.isEmpty || c.allowedOrigins.any fun allowed =>
    allowed = "*" || Ascii.sameText allowed origin) = _
  rw [hempty, Bool.false_or, Bool.eq_iff_iff, List.any_eq_true, List.any_eq_true]
  refine exists_congr fun allowed => and_congr_right fun hallowed => ?_
  have hne : allowed ≠ "*" := fun he => hstar (he ▸ hallowed)
  rw [decide_eq_false hne, Bool.false_or]

end SocketConfig

/-- The rule by which a hub admits origins. -/
inductive OriginPolicy where
  /-- Those the configuration lists. -/
  | listed
  /-- The given one and no other; `none` admits just requests that name no origin. -/
  | only (origin : Option String)
  deriving DecidableEq, Repr, Inhabited

/-- Whether a rule admits an origin under a configuration. -/
def OriginPolicy.admits (p : OriginPolicy) (c : SocketConfig) (origin : Option String) : Bool :=
  match p with
  | .listed => c.originAllowed origin
  | .only o => origin = o

end Switchboard
