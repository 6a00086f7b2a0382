import ConsentBanner.Rule.Step

/-!
# Hiding elements

Elements are hidden by rules in style elements of their own: one for rules that stay and one for
those that are taken back once a decision was made.
-/

set_option autoImplicit false

namespace ConsentBanner.Hiding

def lastingStyle : String := "autoconsent-css-rules"

/-- The style element for rules that are taken back. -/
def passingStyle : String := "autoconsent-prehide"

def hiddenClass : String := "Autoconsent-Hidden"

/-- Dialogs that are hidden on every page, whatever handlers there are. -/
def everywhere : String :=
  "#didomi-popup,.didomi-popup-container,.didomi-popup-notice,.didomi-consent-popup-preferences," ++
    "#didomi-notice,.didomi-popup-backdrop,.didomi-screen-medium"

def declaration : HideMethod → String
  | .display => "display: none"
  | .opacity => "opacity: 0"

def rule (selectors : List String) (method : HideMethod) : String :=
  ",".intercalate selectors ++ " \x7b " ++ declaration method ++
    " !important; z-index: -1 !important; pointer-events: none !important; \x7d "

end ConsentBanner.Hiding
