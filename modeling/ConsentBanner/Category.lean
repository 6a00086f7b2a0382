import ConsentBanner.Json.Decode

/-!
# Purposes of consent

The six purposes that a consent dialog can switch one by one, each with its one-letter code.
-/

set_option autoImplicit false

namespace ConsentBanner

/-- A purpose of data use that a visitor can allow or refuse. -/
inductive Category where
  /-- Information storage and access. -/
  | storageAccess
  /-- Preferences and functionality. -/
  | preferences
  /-- Performance and analytics. -/
  | analytics
  /-- Content selection, delivery and reporting. -/
  | contentPersonalization
  /-- Ad selection, delivery and reporting. -/
  | adPersonalization
  /-- Other purposes. -/
  | other
  deriving DecidableEq, Repr

namespace Category

/-- All purposes, in their usual order. -/
def all : List Category :=
  [.storageAccess, .preferences, .analytics, .contentPersonalization, .adPersonalization, .other]

/-- The letter of a purpose in rule data. -/
def code : Category → String
  | .storageAccess => "D"
  | .preferences => "A"
  | .analytics => "B"
  | .contentPersonalization => "E"
  | .adPersonalization => "F"
  | .other => "X"

def name : Category → String
  | .storageAccess => "StorageAccess"
  | .preferences => "Preferences"
  | .analytics => "Analytics"
  | .contentPersonalization => "ContentPersonalization"
  | .adPersonalization => "AdPersonalization"
  | .other => "Other"

def ofCode? (letter : String) : Option Category := all.find? fun c => c.code = letter

theorem mem_all (c : Category) : c ∈ all := by cases c <;> simp [all]

theorem ofCode?_code (c : Category) : ofCode? c.code = some c := by cases c <;> decide

def decode : Json.Decoder Category := Json.Decode.constant (all.map fun c => (c.code, c))

end Category

end ConsentBanner
