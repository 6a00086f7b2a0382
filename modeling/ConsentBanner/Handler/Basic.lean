import ConsentBanner.Page.Pointer
import ConsentBanner.Rule.Config

/-!
# Handlers

A handler drives the consent dialogs of one platform.  What it does follows a plan: that of a known
vendor, the steps or the methods of a rule, or a script of outcomes.  What a vendor's plan remembers
from one routine to the next is kept apart from it, under the slot of the handler.
-/

set_option autoImplicit false

namespace ConsentBanner

/-- What a handler does. -/
inductive Routine where
  /-- Says whether the platform is there. -/
  | detect
  /-- Says whether its dialog is showing. -/
  | popup
  | optOut
  | optIn
  /-- Brings up the settings. -/
  | openSettings
  /-- Says whether opting out had effect. -/
  | selfTest
  deriving DecidableEq, Repr

def Routine.text : Routine → String
  | .detect => "detect"
  | .popup => "popup"
  | .optOut => "optOut"
  | .optIn => "optIn"
  | .openSettings => "open"
  | .selfTest => "test"

/-- Platforms with a plan of their own. -/
inductive Vendor where
  | trustArcTop
  | trustArcFrame
  | cookiebot
  | sourcepoint
  | consentManager
  | evidon
  | oneTrust
  | klaro
  | uniconsent
  | conversant
  | airbnb
  deriving DecidableEq, Repr

/-- All vendors, in the order in which they are registered. -/
def Vendor.all : List Vendor :=
  [.trustArcTop, .trustArcFrame, .cookiebot, .sourcepoint, .consentManager, .evidon, .oneTrust,
   .klaro, .uniconsent, .conversant, .airbnb]

def Vendor.name : Vendor → String
  | .trustArcTop => "TrustArc-top"
  | .trustArcFrame => "TrustArc-frame"
  | .cookiebot => "Cybotcookiebot"
  | .sourcepoint => "Sourcepoint-frame"
  | .consentManager => "consentmanager.net"
  | .evidon => "Evidon"
  | .oneTrust => "Onetrust"
  | .klaro => "Klaro"
  | .uniconsent => "Uniconsent"
  | .conversant => "Conversant"
  | .airbnb => "airbnb"

theorem Vendor.mem_all (vendor : Vendor) : vendor ∈ all := by cases vendor <;> simp [all]

theorem Vendor.nodup_names : (all.map name).Nodup := by decide

/-- Where in its flow of frames a message platform was found. -/
inductive Surface where
  | message
  | ccpaNotice
  | ccpaManager
  deriving DecidableEq, Repr

/-- What vendors' plans remember. -/
structure Memory where
  /-- The button that refuses everything at once, if one was seen. -/
  shortcut : Option NodeId
  optInDone : Bool
  /-- The page lets scripts set the choice. -/
  apiAvailable : Bool
  /-- The settings were open already. -/
  settingsOpen : Bool
  surface : Surface
  deriving DecidableEq, Repr

/-- What is remembered before anything happened. -/
def Memory.blank : Memory := ⟨none, false, false, false, .message⟩

/-- What a scripted routine comes to. -/
inductive Outcome where
  | reply (value : Bool)
  | failure (message : String)
  | delayed (time : Nat) (outcome : Outcome)
  deriving DecidableEq, Repr

/-- A handler whose routines follow a script: the first call comes to the first outcome, and so on,
the last outcome being repeated.  A routine without outcomes succeeds. -/
structure ScriptedHandler where
  name : String
  context : RunContext
  prehideSelectors : List String
  isIntermediate : Bool
  hasSelfTest : Bool
  /-- Only detection, opting out and opting in follow the script. -/
  isMinimal : Bool
  script : Routine → List Outcome

/-- The outcome of a call with this number of calls before it. -/
def outcomeAt : List Outcome → Nat → Outcome
  | [], _ => .reply true
  | [last], _ => last
  | first :: _ :: _, 0 => first
  | _ :: second :: rest, n + 1 => outcomeAt (second :: rest) n

/-- What a handler follows. -/
inductive Plan where
  | vendor (vendor : Vendor)
  | steps (rule : StepRule)
  | methods (name : String) (rule : MethodRule)
  | scripted (script : ScriptedHandler)

/-- A registered handler. -/
structure Handler where
  slot : Nat
  plan : Plan

def methodMark : String := "com_"

def Handler.name (handler : Handler) : String :=
  match handler.plan with
  | .vendor vendor => vendor.name
  | .steps rule => rule.name
  | .methods name _ => methodMark ++ name
  | .scripted script => script.name

structure HandlerCall where
  slot : Nat
  name : String
  routine : Routine
  deriving DecidableEq, Repr

/-- How far a routine has come. -/
inductive Progress where
  | begun
  | came (value : Bool)
  deriving DecidableEq, Repr

/-- A note in the journal of what the engine has handlers do. -/
structure JournalEntry where
  call : HandlerCall
  progress : Progress
  deriving DecidableEq, Repr

def HandlerCall.text (call : HandlerCall) : String := call.name ++ "." ++ call.routine.text

end ConsentBanner
