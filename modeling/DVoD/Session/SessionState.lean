import DVoD.Session.Tier

/-!
# The session state machine

`session.ts`: the states of a session and `SESSION_STATE_TRANSITIONS`.
-/

namespace DVoD.Session

inductive SessionState where
  | browsing
  | quoted
  | paid
  | tokenIssued
  | tunnelOpen
  | active
  | expiredNormal
  | relayRevoked
  | relayUnreachable
  | failoverSelect
  | sessionComplete
deriving DecidableEq, Repr

namespace SessionState

def name : SessionState → String
  | browsing => "BROWSING"
  | quoted => "QUOTED"
  | paid => "PAID"
  | tokenIssued => "TOKEN_ISSUED"
  | tunnelOpen => "TUNNEL_OPEN"
  | active => "ACTIVE"
  | expiredNormal => "EXPIRED_NORMAL"
  | relayRevoked => "RELAY_REVOKED"
  | relayUnreachable => "RELAY_UNREACHABLE"
  | failoverSelect => "FAILOVER_SELECT"
  | sessionComplete => "SESSION_COMPLETE"

end SessionState

open SessionState in
def sessionStateTransitions : SessionState → List SessionState
  | browsing => [quoted]
  | quoted => [paid]
  | paid => [tokenIssued]
  | tokenIssued => [tunnelOpen]
  | tunnelOpen => [active]
  | active => [expiredNormal, relayRevoked, relayUnreachable]
  | relayRevoked => [failoverSelect]
  | relayUnreachable => [failoverSelect]
  | failoverSelect => [tunnelOpen]
  | expiredNormal => [sessionComplete]
  | sessionComplete => []

def isValidTransition (source target : SessionState) : Bool :=
  (sessionStateTransitions source).contains target

/-- What `recordTransition` lets through: `PAID` first, then the table. -/
def Allowed : Option SessionState → SessionState → Prop
  | none, target => target = .paid
  | some source, target => isValidTransition source target = true

instance (source : Option SessionState) (target : SessionState) : Decidable (Allowed source target) := by
  cases source <;> unfold Allowed <;> infer_instance

theorem eq_sessionComplete_of_allowed {target : SessionState}
    (h : Allowed (some .expiredNormal) target) : target = .sessionComplete := by
  cases target <;> simp_all [Allowed, isValidTransition, sessionStateTransitions]

theorem not_allowed_sessionComplete (target : SessionState) :
    ¬ Allowed (some .sessionComplete) target := by
  simp [Allowed, isValidTransition, sessionStateTransitions]

theorem eq_none_or_quoted_of_allowed_paid {source : Option SessionState}
    (h : Allowed source .paid) : source = none ∨ source = some .quoted := by
  rcases source with _ | source
  · exact Or.inl rfl
  · cases source <;> simp_all [Allowed, isValidTransition, sessionStateTransitions]

theorem not_allowed_browsing (source : Option SessionState) : ¬ Allowed source .browsing := by
  rcases source with _ | source
  · simp [Allowed]
  · cases source <;> simp [Allowed, isValidTransition, sessionStateTransitions]

theorem eq_browsing_of_allowed_quoted {source : Option SessionState}
    (h : Allowed source .quoted) : source = some .browsing := by
  rcases source with _ | source
  · simp [Allowed] at h
  · cases source <;> simp_all [Allowed, isValidTransition, sessionStateTransitions]

end DVoD.Session
