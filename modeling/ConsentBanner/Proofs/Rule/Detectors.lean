import ConsentBanner.Handler.Run
import ConsentBanner.Proofs.Flow.Consulted
import Mathlib.Data.List.Forall2

/-!
# Detectors

A detector qualifies if it has matchers for what it is asked for and all of them succeed with yes.  On a page that
does not change, a method rule says yes exactly if one of its detectors qualifies.  A matcher whose calls fail is like
one that says no: it rules out its own detector, and nothing else.
-/

set_option autoImplicit false

namespace ConsentBanner

/-- What a detector is asked for. -/
inductive Detector.Sign where
  | present
  | showing

namespace Detector.Sign

/-- The routine that asks for it. -/
def routine : Sign → Routine
  | .present => .detect
  | .showing => .popup

def matchers : Sign → Detector → List PresenceMatcher
  | .present, detector => detector.present
  | .showing, detector => detector.showing

end Detector.Sign

open Detector (Sign)

/-! ## One matcher -/

theorem Lookup.Strict.isPresent (matcher : PresenceMatcher) (scope : Scope) :
    Strict (Lookup.isPresent matcher scope).run := by
  unfold Lookup.isPresent
  refine chain (find matcher.matcher scope) fun found => ?_
  split
  · exact okay false
  · exact okay true
  · exact call (.isChecked _) trivial

def PresenceMatcher.ComesTo (page : FixedPage) (matcher : PresenceMatcher) (outcome : Except PageError Bool) : Prop :=
  (Lookup.isPresent matcher .document).run.consult page = some outcome

instance (page : FixedPage) (matcher : PresenceMatcher) (outcome : Except PageError Bool) :
    Decidable (matcher.ComesTo page outcome) := inferInstanceAs (Decidable (_ = _))

def Detector.Qualifies (page : FixedPage) (sign : Sign) (detector : Detector) : Prop :=
  sign.matchers detector ≠ [] ∧ ∀ matcher ∈ sign.matchers detector, matcher.ComesTo page (.ok true)

theorem Detector.Qualifies.succeeds {page : FixedPage} {sign : Sign} {detector : Detector}
    (qualifies : detector.Qualifies page sign) {matcher : PresenceMatcher} (member : matcher ∈ sign.matchers detector)
    (error : PageError) : ¬matcher.ComesTo page (.error error) := by
  intro fails
  have yes := qualifies.2 matcher member
  cases Option.some.inj (yes.symm.trans fails)

/-! ## The two loops -/

theorem allPresent_glance (matchers : List PresenceMatcher) : (allPresent matchers).IsGlance := by
  induction matchers with
  | nil => exact .done true
  | cons matcher rest ih =>
      refine (Lookup.Strict.isPresent matcher .document).isGlance.bind fun outcome => ?_
      split
      · exact ih
      · exact .done false

/-- The inner loop comes to yes if all matchers do, and else to no. -/
theorem consult_allPresent (page : FixedPage) (matchers : List PresenceMatcher) :
    ∃ answer, (allPresent matchers).consult page = some answer ∧
      (answer = true ↔ ∀ matcher ∈ matchers, matcher.ComesTo page (.ok true)) := by
  induction matchers with
  | nil => exact ⟨true, rfl, by simp⟩
  | cons matcher rest ih =>
      obtain ⟨others, comes, meaning⟩ := ih
      obtain ⟨outcome, first⟩ := (Lookup.Strict.isPresent matcher .document).isGlance.comes page
      change ∃ answer, ((Lookup.isPresent matcher .document).run.bind _).consult page = some answer ∧ _
      rw [Flow.consult_bind, first, Option.bind_some]
      by_cases yes : outcome = .ok true
      · subst yes
        refine ⟨others, comes, ?_⟩
        rw [meaning, List.forall_mem_cons]
        exact ⟨fun all => ⟨first, all⟩, And.right⟩
      · -- The loop stops here, for a no or for a failure.
        refine ⟨false, ?_, nofun, ?_⟩
        · split
          · contradiction
          · rfl
        · intro all
          exact absurd (Option.some.inj (first.symm.trans (all matcher List.mem_cons_self))) yes

theorem anyGroupPresent_glance (groups : List (List PresenceMatcher)) : (anyGroupPresent groups).IsGlance := by
  induction groups with
  | nil => exact .done false
  | cons group rest ih =>
      cases group with
      | nil => exact ih
      | cons matcher others =>
          refine (allPresent_glance _).bind fun all => ?_
          cases all with
          | true => exact .done true
          | false => exact ih

/-- The outer loop comes to yes if a group that is not empty does, and else to no. -/
theorem consult_anyGroupPresent (page : FixedPage) (groups : List (List PresenceMatcher)) :
    ∃ answer, (anyGroupPresent groups).consult page = some answer ∧
      (answer = true ↔
        ∃ group ∈ groups, group ≠ [] ∧ ∀ matcher ∈ group, matcher.ComesTo page (.ok true)) := by
  induction groups with
  | nil => exact ⟨false, rfl, by simp⟩
  | cons group rest ih =>
      obtain ⟨later, comes, meaning⟩ := ih
      cases group with
      | nil =>
          refine ⟨later, comes, ?_⟩
          rw [meaning]
          simp
      | cons matcher others =>
          obtain ⟨all, first, allMeans⟩ := consult_allPresent page (matcher :: others)
          change ∃ answer, ((allPresent (matcher :: others)).bind _).consult page = some answer ∧ _
          rw [Flow.consult_bind, first, Option.bind_some]
          cases all with
          | true =>
              have each := allMeans.mp rfl
              exact ⟨true, rfl, fun _ => ⟨_, List.mem_cons_self, nofun, each⟩, fun _ => rfl⟩
          | false =>
              refine ⟨later, comes, ?_⟩
              rw [meaning]
              constructor
              · rintro ⟨group, member, qualifies⟩
                exact ⟨group, List.mem_cons_of_mem _ member, qualifies⟩
              · rintro ⟨group, member, nonempty, each⟩
                rcases List.mem_cons.mp member with rfl | member
                · cases allMeans.mpr each
                · exact ⟨group, member, nonempty, each⟩

/-! ## Rules -/

namespace MethodRule

variable {sign : Sign} {page : FixedPage}

theorem run_sign (timings : Timings) (rule : MethodRule) (sign : Sign) :
    (rule.run timings sign.routine).run =
      (anyGroupPresent (rule.detectors.map sign.matchers)).bind fun answer => .done (.ok answer) := by
  cases sign <;> rfl

theorem run_glance (timings : Timings) (rule : MethodRule) (sign : Sign) :
    (rule.run timings sign.routine).run.IsGlance := by
  rw [run_sign]
  exact (anyGroupPresent_glance _).bind fun _ => .done _

/-- A rule comes to yes if one of its detectors qualifies, and else to no. -/
theorem consult_run (timings : Timings) (rule : MethodRule) (sign : Sign) (page : FixedPage) :
    ∃ answer, (rule.run timings sign.routine).run.consult page = some (.ok answer) ∧
      (answer = true ↔ ∃ detector ∈ rule.detectors, detector.Qualifies page sign) := by
  obtain ⟨answer, comes, meaning⟩ := consult_anyGroupPresent page (rule.detectors.map sign.matchers)
  refine ⟨answer, ?_, ?_⟩
  · rw [run_sign, Flow.consult_bind, comes]
    rfl
  · rw [meaning]
    simp [Detector.Qualifies]

theorem consult_run_congr (timings : Timings) {rule other : MethodRule} {answer : Bool}
    (alike : (∃ detector ∈ other.detectors, detector.Qualifies page sign) ↔
      ∃ detector ∈ rule.detectors, detector.Qualifies page sign)
    (comes : (rule.run timings sign.routine).run.consult page = some (.ok answer)) :
    (other.run timings sign.routine).run.consult page = some (.ok answer) := by
  obtain ⟨here, isHere, hereMeans⟩ := rule.consult_run timings sign page
  obtain ⟨there, isThere, thereMeans⟩ := other.consult_run timings sign page
  obtain rfl : here = answer := Except.ok.inj (Option.some.inj (isHere.symm.trans comes))
  have same : there = here := Bool.eq_iff_iff.mpr (thereMeans.trans (alike.trans hereMeans.symm))
  exact same ▸ isThere

end MethodRule

/-- The same detectors in another order, each with its matchers in another order. -/
def Detector.Rearranged (sign : Sign) (detectors others : List Detector) : Prop :=
  ∃ between, detectors.Perm between ∧
    List.Forall₂ (fun one other => (sign.matchers one).Perm (sign.matchers other)) between others

namespace Detector

variable {sign : Sign} {page : FixedPage}

theorem qualifies_perm {one other : Detector} (same : (sign.matchers one).Perm (sign.matchers other)) :
    one.Qualifies page sign ↔ other.Qualifies page sign := by
  have empty : sign.matchers one = [] ↔ sign.matchers other = [] := by
    rw [← List.length_eq_zero_iff, ← List.length_eq_zero_iff, same.length_eq]
  have members : ∀ matcher, matcher ∈ sign.matchers one ↔ matcher ∈ sign.matchers other := fun _ => same.mem_iff
  simp only [Qualifies, ne_eq, empty, members]

/-- The order of detectors and of their matchers does not decide whether one qualifies. -/
theorem Rearranged.exists_iff {detectors others : List Detector} (rearranged : Rearranged sign detectors others) :
    (∃ detector ∈ others, detector.Qualifies page sign) ↔
      ∃ detector ∈ detectors, detector.Qualifies page sign := by
  obtain ⟨between, order, each⟩ := rearranged
  have matched : (∃ detector ∈ others, detector.Qualifies page sign) ↔
      ∃ detector ∈ between, detector.Qualifies page sign := by
    clear order
    induction each with
    | nil => simp
    | cons same _ ih => simp [ih, qualifies_perm same]
  rw [matched]
  simp only [order.mem_iff]

end Detector

/-- On a page that does not change, whichever of its calls fail, a method rule that is asked whether its dialog is
there or shows does not fail.  It says yes exactly if one of its detectors qualifies: there are matchers for the
question, and all of them succeed with yes.  A detector with a matcher that fails may as well be left out; and the
order of the detectors and of the matchers in each makes no difference.  Where the page of a world replies in this
way, the question is answered at once, and the world with all that was done to its page stays as it is. -/
theorem MethodRule.detects_iff (timings : Timings) (rule : MethodRule) (sign : Sign) (page : FixedPage) :
    ∃ answer, (rule.run timings sign.routine).run.consult page = some (.ok answer) ∧
      (answer = true ↔ ∃ detector ∈ rule.detectors,
        sign.matchers detector ≠ [] ∧ ∀ matcher ∈ sign.matchers detector,
          (Lookup.isPresent matcher .document).run.consult page = some (.ok true)) ∧
      (∀ before detector after, rule.detectors = before ++ detector :: after →
        (∃ matcher ∈ sign.matchers detector, ∃ error,
          (Lookup.isPresent matcher .document).run.consult page = some (.error error)) →
        (MethodRule.run timings { rule with detectors := before ++ after } sign.routine).run.consult page =
          some (.ok answer)) ∧
      (∀ others, Detector.Rearranged sign rule.detectors others →
        (MethodRule.run timings { rule with detectors := others } sign.routine).run.consult page =
          some (.ok answer)) ∧
      ∀ world : World, page = .ofSnapshot world.page →
        (rule.run timings sign.routine).run.run world = (.done (.ok answer), world) := by
  obtain ⟨answer, comes, meaning⟩ := rule.consult_run timings sign page
  refine ⟨answer, comes, meaning, ?_, ?_, ?_⟩
  · rintro before detector after parts ⟨matcher, member, error, fails⟩
    refine consult_run_congr timings ?_ comes
    have out : ¬detector.Qualifies page sign := fun qualifies => qualifies.succeeds member error fails
    simp [parts, out, or_and_right, exists_or]
  · intro others rearranged
    exact consult_run_congr timings rearranged.exists_iff comes
  · rintro world rfl
    exact (rule.run_glance timings sign).run comes

/-- The first of two detectors has a matcher that cannot be read.  The dialog is there all the same, also if the
detectors are taken the other way round. -/
theorem MethodRule.detects_iff_unreadable :
    let page := FixedPage.ofSnapshot (.ofText "<p>a</p>")
    let sees : String → PresenceMatcher := fun selector => ⟨.css, ⟨.css selector, none⟩⟩
    let broken : Detector := ⟨[sees "p", sees "p["], []⟩
    let sound : Detector := ⟨[sees "p"], []⟩
    (Lookup.isPresent (sees "p[") .document).run.consult page = some (.error (.invalidSelector "p[")) ∧
      (MethodRule.run .usual ⟨[broken, sound], []⟩ .detect).run.consult page = some (.ok true) ∧
      (MethodRule.run .usual ⟨[sound], []⟩ .detect).run.consult page = some (.ok true) ∧
      (MethodRule.run .usual ⟨[sound, broken], []⟩ .detect).run.consult page = some (.ok true) := by
  intro page sees broken sound
  have fails : (Lookup.isPresent (sees "p[") .document).run.consult page =
      some (.error (.invalidSelector "p[")) := by decide +kernel
  have found : (Lookup.isPresent (sees "p") .document).run.consult page = some (.ok true) := by decide +kernel
  -- From here on no value is needed, and none should be computed.
  clear_value page
  obtain ⟨answer, comes, meaning, without, order, -⟩ :=
    MethodRule.detects_iff .usual ⟨[broken, sound], []⟩ .present page
  have yes : answer = true := meaning.mpr ⟨sound, by simp, nofun, by simpa [Sign.matchers, sound] using found⟩
  subst yes
  have swapped : Detector.Rearranged .present [broken, sound] [sound, broken] :=
    ⟨[sound, broken], .swap sound broken [], .cons (.refl _) (.cons (.refl _) .nil)⟩
  refine ⟨fails, comes, ?_, order [sound, broken] swapped⟩
  exact without [] broken [sound] rfl ⟨sees "p[", by simp [Sign.matchers, broken], _, fails⟩

end ConsentBanner
