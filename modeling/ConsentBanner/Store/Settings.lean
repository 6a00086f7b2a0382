import ConsentBanner.Config
import ConsentBanner.Rule.Delivery
import ConsentBanner.Store.Basic

/-!
# Configuration and rules in a store

The configuration and the rule set each have a key of their own.  The first look for a configuration
puts the usual one there; rules are taken from a delivered file only if all of it can be read.
-/

set_option autoImplicit false

namespace ConsentBanner.Store

def configKey : String := "config"

def rulesKey : String := "rules"

def saveConfig (store : Store) (config : EngineConfig) : Except StoreError Store :=
  store.put configKey config.encode

/-- The kept configuration.  Where there is none the initial one is kept from now on. -/
def loadConfig (store : Store) : Except StoreError (EngineConfig × Store) := do
  match ← store.get? configKey with
  | some kept =>
    match EngineConfig.decode .direct kept with
    | .ok config => return (config, store)
    | .error cause => throw (.decodingConfig cause)
  | none => return (.initial, ← store.saveConfig .initial)

def loadRules (store : Store) : Except StoreError RuleSet := do
  match ← store.get? rulesKey with
  | some kept => (RuleSet.decode .direct kept).mapError .decodingRules
  | none => return .empty

def installRules (store : Store) (path : String) (delivered : Except FileError String) :
    Except StoreError (RuleSet × Store) := do
  let text ← delivered.mapError (.readingRules path)
  let rules ← (RuleSet.ofText text).mapError (.parsing path)
  return (rules, ← store.put rulesKey rules.encode)

end ConsentBanner.Store
