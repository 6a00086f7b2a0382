import ConsentBanner.Vendor.Airbnb
import ConsentBanner.Vendor.ConsentManager
import ConsentBanner.Vendor.Conversant
import ConsentBanner.Vendor.Cookiebot
import ConsentBanner.Vendor.Evidon
import ConsentBanner.Vendor.Klaro
import ConsentBanner.Vendor.OneTrust
import ConsentBanner.Vendor.Sourcepoint
import ConsentBanner.Vendor.TrustArc
import ConsentBanner.Vendor.Uniconsent

/-!
# What vendors' handlers do

The plan of each vendor, routine by routine.  None of these routines fails.
-/

set_option autoImplicit false

namespace ConsentBanner

/-- What a routine comes to where a handler has none of its own. -/
def Routine.usual : Routine → Bool
  | .selfTest => true
  | _ => false

namespace Vendor

/-- What is known of a vendor's handler. -/
def traits : Vendor → Traits
  | .trustArcTop => TrustArcTop.traits
  | .trustArcFrame => TrustArcFrame.traits
  | .cookiebot => Cookiebot.traits
  | .sourcepoint => Sourcepoint.traits
  | .consentManager => ConsentManager.traits
  | .evidon => Evidon.traits
  | .oneTrust => OneTrust.traits
  | .klaro => Klaro.traits
  | .uniconsent => Uniconsent.traits
  | .conversant => Conversant.traits
  | .airbnb => Airbnb.traits

/-- Says whether the platform is there. -/
def detect (timings : Timings) (slot : Nat) : Vendor → Flow Bool
  | .trustArcTop => TrustArcTop.detect slot
  | .trustArcFrame => pure true
  | .cookiebot => Cookiebot.detect
  | .sourcepoint => Sourcepoint.detect slot
  | .consentManager => ConsentManager.detect timings slot
  | .evidon => Evidon.detect
  | .oneTrust => OneTrust.detect
  | .klaro => Klaro.detect slot
  | .uniconsent => Uniconsent.detect
  | .conversant => Conversant.detect
  | .airbnb => Airbnb.detect

/-- Says whether the dialog is showing. -/
def popup (timings : Timings) (slot : Nat) : Vendor → Flow Bool
  | .trustArcTop => TrustArcTop.popup
  | .trustArcFrame => TrustArcFrame.popup
  | .cookiebot => Cookiebot.popup
  | .sourcepoint => Sourcepoint.popup timings slot
  | .consentManager => ConsentManager.popup timings slot
  | .evidon => Evidon.popup
  | .oneTrust => OneTrust.popup
  | .klaro => Klaro.popup
  | .uniconsent => Uniconsent.popup
  | .conversant => Conversant.popup
  | .airbnb => Airbnb.popup

/-- Refuses. -/
def optOut (timings : Timings) (slot : Nat) : Vendor → Flow Bool
  | .trustArcTop => TrustArcTop.optOut slot
  | .trustArcFrame => TrustArcFrame.optOut timings
  | .cookiebot => Cookiebot.optOut timings
  | .sourcepoint => Sourcepoint.optOut timings slot
  | .consentManager => ConsentManager.optOut timings slot
  | .evidon => Evidon.optOut timings
  | .oneTrust => OneTrust.optOut timings
  | .klaro => Klaro.optOut timings slot
  | .uniconsent => Uniconsent.optOut timings
  | .conversant => Conversant.optOut timings
  | .airbnb => Airbnb.optOut timings

/-- Allows. -/
def optIn (timings : Timings) (slot : Nat) : Vendor → Flow Bool
  | .trustArcTop => TrustArcTop.optIn slot
  | .trustArcFrame => TrustArcFrame.optIn timings
  | .cookiebot => Cookiebot.optIn
  | .sourcepoint => Sourcepoint.optIn timings
  | .consentManager => ConsentManager.optIn timings slot
  | .evidon => Evidon.optIn
  | .oneTrust => OneTrust.optIn
  | .klaro => Klaro.optIn slot
  | .uniconsent => Uniconsent.optIn timings
  | .conversant => Conversant.optIn timings
  | .airbnb => Airbnb.optIn timings

/-- Says whether opting out had effect. -/
def selfTest (timings : Timings) (slot : Nat) : Vendor → Flow Bool
  | .cookiebot => Cookiebot.selfTest timings
  | .consentManager => ConsentManager.selfTest timings slot
  | .oneTrust => OneTrust.selfTest timings
  | .klaro => Klaro.selfTest timings
  | .uniconsent => Uniconsent.selfTest
  | .conversant => Conversant.selfTest
  | .airbnb => Airbnb.selfTest
  | _ => pure Routine.selfTest.usual

/-- Brings up the settings.  Only one vendor's dialog has them at hand. -/
def openSettings : Vendor → Flow Bool
  | .trustArcTop => pure true
  | _ => pure Routine.openSettings.usual

def run (timings : Timings) (slot : Nat) (vendor : Vendor) : Routine → Flow Bool
  | .detect => vendor.detect timings slot
  | .popup => vendor.popup timings slot
  | .optOut => vendor.optOut timings slot
  | .optIn => vendor.optIn timings slot
  | .openSettings => vendor.openSettings
  | .selfTest => vendor.selfTest timings slot

end Vendor

end ConsentBanner
