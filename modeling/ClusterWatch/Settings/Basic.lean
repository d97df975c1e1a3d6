import ClusterWatch.Duration
import ClusterWatch.Membership.Node
import ClusterWatch.Text.Blank

/-!
What an operator can set. Times are given in whole milliseconds, and every setting has a
default. Settings are checked in a fixed order, and the first that is refused is named.
-/
namespace ClusterWatch

structure DetectionSettings where
  /-- Rest between an acknowledged ping and the next one. -/
  interval : Nat
  /-- How long one attempt may take. -/
  timeout : Nat
  /-- Failed attempts in a row after which a node is reported. -/
  retries : Nat
  /-- Whether one reconnect is tried before a lost connection is reported. -/
  reconnect : Bool
  /-- Whether disconnect events of the transport are followed. -/
  followDisconnects : Bool
deriving DecidableEq, Repr

structure ReadinessSettings where
  /-- For waits that name no time of their own. -/
  defaultTimeout : Nat
deriving DecidableEq, Repr

structure NodeSettings where
  cluster : String
  detection : DetectionSettings
  readiness : ReadinessSettings
deriving DecidableEq, Repr

namespace DetectionSettings

def standard : DetectionSettings := ⟨1000, 30000, 3, false, true⟩

instance : Inhabited DetectionSettings := ⟨standard⟩

def intervalDuration (s : DetectionSettings) : Duration := .ofMillis s.interval

def timeoutDuration (s : DetectionSettings) : Duration := .ofMillis s.timeout

end DetectionSettings

namespace ReadinessSettings

def standard : ReadinessSettings := ⟨30000⟩

instance : Inhabited ReadinessSettings := ⟨standard⟩

def defaultTimeoutDuration (s : ReadinessSettings) : Duration := .ofMillis s.defaultTimeout

end ReadinessSettings

/-- Which setting is refused. -/
inductive SettingsError where
  | blankCluster
  | zeroInterval
  | zeroTimeout
  | noAttempt
deriving DecidableEq, Repr

namespace SettingsError

def settingName : SettingsError → String
  | .blankCluster => "cluster_name"
  | .zeroInterval => "ping_interval_ms"
  | .zeroTimeout => "ping_timeout_ms"
  | .noAttempt => "ping_retries"

def reason : SettingsError → String
  | .blankCluster => "must not be empty"
  | .zeroInterval => "must be greater than zero"
  | .zeroTimeout => "must be greater than zero"
  | .noAttempt => "at least one attempt is required"

def message (e : SettingsError) : String :=
  "invalid setting [" ++ e.settingName ++ "]: " ++ e.reason

end SettingsError

def DetectionSettings.validate (s : DetectionSettings) : Except SettingsError Unit :=
  if s.interval = 0 then .error .zeroInterval
  else if s.timeout = 0 then .error .zeroTimeout
  else if s.retries = 0 then .error .noAttempt
  else .ok ()

namespace NodeSettings

def defaultCluster : String := "search-cluster"

def standard : NodeSettings := ⟨defaultCluster, .standard, .standard⟩

instance : Inhabited NodeSettings := ⟨standard⟩

def clusterName (s : NodeSettings) : ClusterName := ⟨s.cluster⟩

def validate (s : NodeSettings) : Except SettingsError Unit :=
  if Text.strip s.cluster.toList = [] then .error .blankCluster else s.detection.validate

end NodeSettings
end ClusterWatch
