import Datagrid.Fault
import Datagrid.Wire.Octets

/-!
The configuration of a client. Settings say what the user has chosen so far;
`Settings.build` fills in what is missing and refuses what cannot work.
-/
namespace Datagrid

/-- How subscriptions are kept. -/
structure SubscriptionConfig where
  /-- How long a request may take. -/
  timeout : Timespan
  /-- How many notices are kept for a reader. -/
  capacity : Nat
  /-- Whether events bring values along if nothing else is said. -/
  includeValues : Bool
  deriving DecidableEq

structure Config where
  clusterName : String
  clientName : String
  labels : List String
  smartRouting : Bool
  credentials : Octets
  subscription : SubscriptionConfig
  deriving DecidableEq

namespace SubscriptionConfig

def standard : SubscriptionConfig := ⟨.ofSeconds 120, 64, true⟩

/-- The text of a configuration for diagnostics. -/
def debugText (c : SubscriptionConfig) : String :=
  "SubscriptionConfig \x7b operation_timeout: " ++ c.timeout.text ++
    s!", notification_capacity: {c.capacity}, include_values: {c.includeValues} \x7d"

/-- What is chosen of a configuration. -/
structure Settings where
  timeout : Option Timespan
  capacity : Option Nat
  includeValues : Option Bool

namespace Settings

def empty : Settings := ⟨none, none, none⟩

/-- The settings with later choices in place of earlier ones. -/
def override (s later : Settings) : Settings where
  timeout := later.timeout <|> s.timeout
  capacity := later.capacity <|> s.capacity
  includeValues := later.includeValues <|> s.includeValues

/-- The configuration that settings make. -/
def build (s : Settings) : Except ConfigFault SubscriptionConfig :=
  let timeout := s.timeout.getD standard.timeout
  let capacity := s.capacity.getD standard.capacity
  if timeout.isZero then .error .noTimeout
  else if capacity = 0 then .error .noCapacity
  else .ok ⟨timeout, capacity, s.includeValues.getD standard.includeValues⟩

end Settings
end SubscriptionConfig

namespace Config

def standard : Config := ⟨"dev", "hzwire-client", [], true, [], .standard⟩

/-- What is chosen of a configuration. -/
structure Settings where
  clusterName : Option String
  clientName : Option String
  labels : List String
  smartRouting : Option Bool
  credentials : Option Octets
  subscription : SubscriptionConfig.Settings

/-- The configuration that settings make. -/
def Settings.build (s : Settings) : Except ConfigFault Config := do
  let clusterName := s.clusterName.getD standard.clusterName
  if clusterName.isEmpty then throw .noClusterName
  let subscription ← s.subscription.build
  return {
    clusterName
    clientName := s.clientName.getD standard.clientName
    labels := s.labels
    smartRouting := s.smartRouting.getD standard.smartRouting
    credentials := s.credentials.getD standard.credentials
    subscription }

end Config
end Datagrid
