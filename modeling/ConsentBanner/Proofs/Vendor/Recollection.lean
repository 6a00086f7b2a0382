import ConsentBanner.Proofs.Engine.Waits
import ConsentBanner.Proofs.Handler.Routines
import ConsentBanner.Proofs.Rehearsal.InStep

/-!
# What handlers remember of a detection

Four plans opt out by what they remember of a detection: TrustArc's by the button that refuses everything, Klaro's by
whether the settings are open, consentmanager.net's by whether scripts can set the choice, Sourcepoint's by what the
frame shows.  Two handlers with different pasts that find the same page remember the same of it, and then do the same.
Klaro's is the exception: that the settings were open once is not forgotten when they are found closed.
-/

set_option autoImplicit false

namespace ConsentBanner

open Flow.Modest
open Rehearsal (InStep)

/-- The plan opts out by what it remembers of a detection. -/
def Vendor.recollects : Vendor → Bool
  | .trustArcTop | .klaro | .consentManager | .sourcepoint => true
  | _ => false

/-- The same is remembered as far as opting out goes by it. -/
def Vendor.RemembersAlike : Vendor → Memory → Memory → Prop
  | .trustArcTop, one, two => one.shortcut = two.shortcut
  | .klaro, one, two => one.settingsOpen = two.settingsOpen
  | .consentManager, one, two => one.apiAvailable = two.apiAvailable
  | .sourcepoint, one, two => one.surface = two.surface
  | _, _, _ => True

instance : Allowance.Open Request.IsOblivious where
  page _ _ := trivial
  asks _ := trivial

variable (timings : Timings) (slot : Nat) {one two : Rehearsal}

namespace TrustArcTop

theorem detect_inStep (resembles : one.Resembles two) : one.InStep two (detect slot) fun found last final =>
    found = true → (last.world.memory slot).shortcut = (final.world.memory slot).shortcut := by
  refine (InStep.oblivious resembles (isPresent _)).andThen fun _ {_ _} resembles _ => .ite ?_ (.done resembles nofun)
  refine (InStep.oblivious resembles (query _)).andThen fun _ {_ _} resembles _ => ?_
  exact (InStep.notes Memory.shortcut slot resembles fun _ _ => rfl).andThen fun _ {_ _} resembles alike =>
    .done resembles fun _ => alike

theorem optOut_inStep (resembles : one.Resembles two)
    (alike : (one.world.memory slot).shortcut = (two.world.memory slot).shortcut) :
    one.InStep two (optOut slot) fun _ last final =>
      (last.world.memory slot).shortcut = (final.world.memory slot).shortcut := by
  refine .tells (by rw [alike]) (InStep.keeps Memory.shortcut slot resembles alike ?_)
  split
  · exact .andThen (clickNodes _ _) fun _ => .pure _
  · exact .andThen (hide _ _) fun _ => .andThen (click _ _) fun _ => .pure _

end TrustArcTop

namespace ConsentManager

theorem detect_inStep (resembles : one.Resembles two) : one.InStep two (detect timings slot) fun _ last final =>
    (last.world.memory slot).apiAvailable = (final.world.memory slot).apiAvailable := by
  refine (InStep.oblivious resembles (eval _ _)).andThen fun available {_ _} resembles _ => ?_
  refine (InStep.notes Memory.apiAvailable slot resembles fun _ _ => rfl).andThen fun _ {_ _} resembles alike => ?_
  exact .ite (.done resembles alike) (InStep.keeps Memory.apiAvailable slot resembles alike (isPresent _))

theorem optOut_inStep (resembles : one.Resembles two)
    (alike : (one.world.memory slot).apiAvailable = (two.world.memory slot).apiAvailable) :
    one.InStep two (optOut timings slot) fun _ last final =>
      (last.world.memory slot).apiAvailable = (final.world.memory slot).apiAvailable := by
  refine (InStep.keeps Memory.apiAvailable slot resembles alike (.pause 500)).andThen fun _ {_ _} resembles alike => ?_
  exact .tells (by rw [alike])
    (InStep.keeps Memory.apiAvailable slot resembles alike (.ite (eval _ _) (clickThrough_confined _)))

end ConsentManager

namespace Sourcepoint

theorem detect_inStep (resembles : one.Resembles two) : one.InStep two (detect slot) fun found last final =>
    found = true → (last.world.memory slot).surface = (final.world.memory slot).surface := by
  refine (InStep.oblivious resembles url).andThen fun address {_ _} resembles _ => ?_
  split
  · exact (InStep.notes Memory.surface slot resembles fun _ _ => rfl).andThen fun _ {_ _} resembles alike =>
      .done resembles fun _ => alike
  · exact .done resembles nofun

theorem optOut_inStep (resembles : one.Resembles two)
    (alike : (one.world.memory slot).surface = (two.world.memory slot).surface) :
    one.InStep two (optOut timings slot) fun _ last final =>
      (last.world.memory slot).surface = (final.world.memory slot).surface := by
  refine .tells (by rw [alike]) (InStep.keeps Memory.surface slot resembles alike (.ite ?_ ?_))
  · exact .andThen (click _ _) fun _ => .andThen (click _ _) fun _ => click _ _
  · exact .andThen isManagerOpen_confined fun _ => .ite (refuse_confined _) (optOutOfMessage_confined _)

end Sourcepoint

namespace Klaro

/-- A page with the dialog and its settings. -/
def dialog : Snapshot :=
  .ofText ("<div class=klaro><div class=cookie-modal></div>" ++
    "<div class=cookie-notice><a class=cn-learn-more>more</a></div></div>")

def showsSettings (page : Snapshot) : Bool := (FixedPage.ofSnapshot page).shows modal

/-- That the settings are open is noted if they are seen, and is not forgotten if not. -/
theorem detect_inStep (resembles : one.Resembles two) : one.InStep two (detect slot) fun _ last final =>
    (last.world.memory slot).settingsOpen =
        ((one.world.memory slot).settingsOpen || showsSettings one.world.page) ∧
      (final.world.memory slot).settingsOpen =
        ((two.world.memory slot).settingsOpen || showsSettings one.world.page) := by
  refine InStep.glance resembles (.isPresent modal)
    (show _ = some (showsSettings one.world.page) from Flow.consult_isPresent _ modal) ?_
  cases showsSettings one.world.page with
  | true =>
    rw [if_pos rfl]
    refine (InStep.learn resembles slot _).andThen fun _ {_ _} resembles learned => .done resembles ?_
    simp [learned.1, learned.2]
  | false =>
    rw [if_neg nofun]
    refine (InStep.oblivious resembles (isPresent _)).weaken fun _ _ _ kept => ?_
    simp [(kept slot).1, (kept slot).2]

theorem openChoices_inStep (resembles : one.Resembles two)
    (alike : (one.world.memory slot).settingsOpen = (two.world.memory slot).settingsOpen) :
    one.InStep two (openChoices timings slot) fun _ last final =>
      (last.world.memory slot).settingsOpen = (final.world.memory slot).settingsOpen := by
  refine .tells (by rw [alike]) (.ite ?_ (.done resembles alike))
  refine (InStep.oblivious resembles (click _ _)).andThen fun _ {_ _} resembles _ => ?_
  refine (InStep.oblivious resembles (waitForElement _ _ _)).andThen fun _ {_ _} resembles _ => ?_
  exact InStep.notes Memory.settingsOpen slot resembles fun _ _ => rfl

theorem optOut_inStep (resembles : one.Resembles two)
    (alike : (one.world.memory slot).settingsOpen = (two.world.memory slot).settingsOpen) :
    one.InStep two (optOut timings slot) fun _ last final =>
      (last.world.memory slot).settingsOpen = (final.world.memory slot).settingsOpen := by
  have clicks : ∀ {one two : Rehearsal} selector all, one.Resembles two →
      (one.world.memory slot).settingsOpen = (two.world.memory slot).settingsOpen →
      one.InStep two (Primitive.click selector all) fun _ last final =>
        (last.world.memory slot).settingsOpen = (final.world.memory slot).settingsOpen :=
    fun selector all resembles alike =>
      InStep.keeps Memory.settingsOpen slot resembles alike (click selector all)
  refine (clicks _ _ resembles alike).andThen fun _ {_ _} resembles alike => .ite (.done resembles alike) ?_
  refine (openChoices_inStep timings slot resembles alike).andThen fun _ {_ _} resembles alike => ?_
  refine (clicks _ _ resembles alike).andThen fun _ {_ _} resembles alike => .ite (.done resembles alike) ?_
  exact (clicks _ _ resembles alike).andThen fun _ {_ _} resembles alike => clicks _ _ resembles alike

end Klaro

namespace Vendor

/-- Where the same is remembered, the same is done to refuse, and the same is still remembered. -/
theorem optOut_inStep {vendor : Vendor} (recollects : vendor.recollects = true) (resembles : one.Resembles two)
    (alike : vendor.RemembersAlike (one.world.memory slot) (two.world.memory slot)) :
    one.InStep two (vendor.run timings slot .optOut) fun _ last final =>
      vendor.RemembersAlike (last.world.memory slot) (final.world.memory slot) := by
  cases vendor with
  | trustArcTop => exact TrustArcTop.optOut_inStep slot resembles alike
  | klaro => exact Klaro.optOut_inStep timings slot resembles alike
  | consentManager => exact ConsentManager.optOut_inStep timings slot resembles alike
  | sourcepoint => exact Sourcepoint.optOut_inStep timings slot resembles alike
  | _ => cases recollects

theorem detect_inStep {vendor : Vendor} (recollects : vendor.recollects = true) (resembles : one.Resembles two) :
    one.InStep two (vendor.run timings slot .detect) fun found last final => found = true →
      (vendor.RemembersAlike (last.world.memory slot) (final.world.memory slot) ↔
        (vendor = .klaro → Klaro.showsSettings one.world.page = true ∨
          (one.world.memory slot).settingsOpen = (two.world.memory slot).settingsOpen)) := by
  cases vendor with
  | trustArcTop =>
    exact (TrustArcTop.detect_inStep slot resembles).weaken fun _ _ _ alike found => iff_of_true (alike found) nofun
  | klaro =>
    refine (Klaro.detect_inStep slot resembles).weaken fun _ _ _ notes _ => ?_
    rw [RemembersAlike, notes.1, notes.2]
    cases Klaro.showsSettings one.world.page <;> simp
  | consentManager =>
    exact (ConsentManager.detect_inStep timings slot resembles).weaken fun _ _ _ alike _ => iff_of_true alike nofun
  | sourcepoint =>
    exact (Sourcepoint.detect_inStep slot resembles).weaken fun _ _ _ alike found => iff_of_true (alike found) nofun
  | _ => cases recollects

/-- Whatever was remembered before, a detection of the same page comes to the same, and if it finds the dialog the
same is remembered of it; of Klaro's, unless the settings are closed and only one of the two has seen them open.  From
then on, for as long as that is remembered, the same is done to refuse. -/
theorem detects_afresh {vendor : Vendor} (recollects : vendor.recollects = true) (resembles : one.Resembles two) :
    one.InStep two (vendor.run timings slot .detect) fun found last final => found = true →
      (vendor.RemembersAlike (last.world.memory slot) (final.world.memory slot) ↔
        (vendor = .klaro → Klaro.showsSettings one.world.page = true ∨
          (one.world.memory slot).settingsOpen = (two.world.memory slot).settingsOpen)) ∧
      (vendor.RemembersAlike (last.world.memory slot) (final.world.memory slot) →
        ∀ later other : Rehearsal, later.Resembles other → later.world.memory slot = last.world.memory slot →
          other.world.memory slot = final.world.memory slot →
            later.InStep other (vendor.run timings slot .optOut) fun _ after after' =>
              vendor.RemembersAlike (after.world.memory slot) (after'.world.memory slot)) := by
  refine (detect_inStep timings slot recollects resembles).weaken fun _ last final alike found => ⟨alike found, ?_⟩
  intro same later other resembles kept kept'
  rw [← kept, ← kept'] at same
  exact optOut_inStep timings slot recollects resembles same

/-- Settings that are found open are remembered to be open, by a handler that has seen them before as by another. -/
theorem detects_afresh_settings :
    let fresh := Rehearsal.start (.start Klaro.dialog) [] [] false
    let other := fresh.withMemories [(0, { Memory.blank with settingsOpen := true })]
    klaro.recollects = true ∧ fresh.Resembles other ∧ Klaro.showsSettings fresh.world.page = true ∧
      ∃ last final, fresh.ComesTo (Klaro.detect 0) true last ∧ other.ComesTo (Klaro.detect 0) true final ∧
        klaro.RemembersAlike (last.world.memory 0) (final.world.memory 0) ∧
        last.InStep final (Klaro.optOut .usual 0) fun _ after after' =>
          klaro.RemembersAlike (after.world.memory 0) (after'.world.memory 0) := by
  have recollects : klaro.recollects = true := rfl
  have shows : Klaro.showsSettings Klaro.dialog = true := by decide +kernel
  have finds : ((Klaro.detect 0).run (.start Klaro.dialog)).1.value? = some true := by decide +kernel
  generalize Klaro.dialog = page at shows finds
  intro fresh other
  have resembles : fresh.Resembles other := rfl
  obtain ⟨found, last, final, comes, comes', alike, ends⟩ := detects_afresh .usual 0 recollects resembles
  have runs : (Klaro.detect 0).run fresh.world = (.done true, ((Klaro.detect 0).run fresh.world).2) :=
    Prod.ext (Flow.value?_eq_some.mp finds) rfl
  obtain ⟨rfl, -⟩ := comes.unique (Rehearsal.comesTo_of_run runs)
  obtain ⟨same, onward⟩ := ends rfl
  have remembers := same.mpr fun _ => .inl shows
  exact ⟨recollects, resembles, shows, last, final, comes, comes', remembers, onward remembers last final alike rfl rfl⟩

end Vendor

/-- Settings that were seen open and are found closed are still remembered to be open, so that nothing is done to open
them again; a handler that has not seen them does that. -/
theorem Klaro.detect_recalls_closed :
    let seen := (detect 0).run (.start dialog)
    let other := Rehearsal.start { seen.2 with page := seen.2.page.apply (.remove modal) } [] [] false
    let fresh := other.withMemories []
    let again := other.playFlow 1 (detect 0)
    let first := fresh.playFlow 1 (detect 0)
    seen.1.value? = some true ∧ again.1 = some true ∧ first.1 = some true ∧
      (again.2.world.memory 0).settingsOpen = true ∧ (first.2.world.memory 0).settingsOpen = false ∧
      (again.2.playFlow 40 (optOut .usual 0)).2.world.page.clicks = [] ∧
      (first.2.playFlow 40 (optOut .usual 0)).2.world.page.clicks = [6] := by
  decide +kernel

end ConsentBanner
