import ConsentBanner.Handler.Run
import ConsentBanner.Proofs.Handler.Modest

/-!
# The routines of handlers are modest

Vendor by vendor, then for handlers of every plan.  Main statement: `Handler.run_fits`; where a handler is
only asked about a dialog or about its effect, it learns nothing besides (`Handler.run_idly`).
-/

set_option autoImplicit false

namespace ConsentBanner

open Flow (Modest)
open Flow.Modest

/-- Routines in which some handlers change what they remember. -/
def Routine.learns : Routine → Bool
  | .detect | .optOut | .optIn => true
  | .popup | .openSettings | .selfTest => false

/-- A change of what is remembered that has nothing to do with the TrustArc banner. -/
def Memory.SparesBanner (change : Memory → Memory) : Prop :=
  ∀ memory, (change memory).shortcut = memory.shortcut ∧ (change memory).optInDone = memory.optInDone

/-- The handler in a slot may change what it remembers, but for what has to do with the TrustArc banner. -/
def Allowance.LetsLearn (may : Allowance) (slot : Nat) : Prop :=
  ∀ change, Memory.SparesBanner change → may (.remember slot change)

variable {may : Allowance} [may.Roomy] (timings : Timings) (slot : Nat)

omit [may.Roomy] in
theorem learn_confined {slot : Nat} (learns : may.LetsLearn slot) {change : Memory → Memory}
    (spares : Memory.SparesBanner change) : (remember slot change).Confined may true :=
  .request (learns change spares) trivial

namespace TrustArcTop

theorem detect_modest : (detect slot).Modest :=
  .andThen (isPresent _) fun _ =>
    .ite (.andThen (query _) fun _ => .andThen (memorize _ _) fun _ => .pure _) (.pure _)

theorem optOut_modest : (optOut slot).Modest := by
  refine .andThen (recollect _) fun memory => ?_
  split
  · exact .andThen (clickNodes _ _) fun _ => .pure _
  · exact .andThen (hide _ _) fun _ => .andThen (click _ _) fun _ => .pure _

theorem optIn_modest : (optIn slot).Modest :=
  .andThen (memorize _ _) fun _ => click _ _

end TrustArcTop

namespace TrustArcFrame

theorem popup_confined : popup.Confined may true :=
  .andThen (isVisible _ _) fun _ => .ite (isVisible _ _) (.pure _)

theorem hasStarted_confined : hasStarted.Confined may true :=
  .andThen (isPresent _) fun _ => .ite (.pure _) <|
    .andThen (isVisible _ _) fun _ => .ite (.pure _) (isPresent _)

theorem goToSwitches_confined : (goToSwitches timings).Confined may true := by
  have last : (do let _ ← Flow.poll (Primitive.isVisible ".switch span:first-child" .any) 1000 5 :
      Flow Unit).Confined may true := .andThen (.poll _ (isVisible _ _) _) fun _ => .pure _
  have middle : (do
      let _ ← Primitive.waitForElement timings ".prefPanel" 5000
      if ← Primitive.isVisible ".advance" .any then
        let _ ← Primitive.click ".advance" false
      let _ ← Flow.poll (Primitive.isVisible ".switch span:first-child" .any) 1000 5 :
      Flow Unit).Confined may true :=
    .andThen (waitForElement _ _ _) fun _ => .andThen (isVisible _ _) fun _ =>
      .ite (.andThen (click _ _) fun _ => last) last
  exact .andThen (.poll _ hasStarted_confined _) fun _ => .andThen (isPresent _) fun _ =>
    .ite (.andThen (click _ _) fun _ => middle) middle

theorem flip_confined (switches : String) : (flip timings switches).Confined may true :=
  .andThen (goToSwitches_confined _) fun _ => .andThen (click _ _) fun _ =>
    .andThen (click _ _) fun _ => .andThen (click _ _) fun _ => .pure _

theorem hasLoaded_confined : hasLoaded.Confined may true := .andThen (page _ trivial) fun _ => .pure _

theorem optOut_confined : (optOut timings).Confined may true := by
  have last : (do
      if ← Primitive.click "#catDetails0" false then
        let _ ← Primitive.click ".submit" false
        return true
      else if ← Primitive.click ".required" false then return true
      else flip timings ".switch span:nth-child(1):not(.active)" : Flow Bool).Confined may true :=
    .andThen (click _ _) fun _ => .ite (.andThen (click _ _) fun _ => .pure _) <|
      .andThen (click _ _) fun _ => .ite (.pure _) (flip_confined _ _)
  exact .andThen (.poll _ hasLoaded_confined _) fun _ => .andThen (waitForElement _ _ _) fun _ =>
    .andThen (click _ _) fun _ => .ite (.pure _) <| .andThen (isPresent _) fun _ =>
      .ite (.andThen (waitForElement _ _ _) fun _ => last) last

theorem optIn_confined : (optIn timings).Confined may true :=
  .andThen (click _ _) fun _ => .ite (.pure _) (flip_confined _ _)

end TrustArcFrame

namespace Cookiebot

theorem accept_confined : accept.Confined may true :=
  .andThen (isPresent _) fun _ => .ite (click _ _) (click _ _)

theorem submit_confined : (submit timings).Confined may true :=
  .andThen (eval _ _) fun _ => .ite (.andThen (eval _ _) fun _ => .pause _) (.pure _)

theorem confirmSettings_confined : (confirmSettings timings).Confined may true :=
  .andThen (isPresent _) fun _ => .ite (.andThen (eval _ _) fun _ => .pure _) (.pure _)

theorem refuseEach_confined : (refuseEach timings).Confined may true :=
  .andThen (click _ _) fun _ => .andThen (click _ _) fun _ => .andThen (click _ _) fun _ =>
    .andThen (click _ _) fun _ => .andThen accept_confined fun _ =>
      .andThen (submit_confined _) fun _ => .andThen (confirmSettings_confined _) fun _ => .pure _

theorem optOut_confined : (optOut timings).Confined may true :=
  .andThen (click _ _) fun _ => .ite
    (.andThen (waitForElement _ _ _) fun _ => .andThen (click _ _) fun _ =>
      .andThen (click _ _) fun _ => .pure _) <|
    .andThen (isPresent _) fun _ => .ite (click _ _) <|
      .andThen (click _ _) fun _ => .ite (.pure _) <|
        .andThen (click _ _) fun _ => .ite (.pure _) (refuseEach_confined _)

theorem optIn_confined : optIn.Confined may true :=
  .andThen (isPresent _) fun _ => .ite (click _ _) <|
    .andThen (click _ _) fun _ => .andThen (click _ _) fun _ => .andThen (click _ _) fun _ => .pure _

end Cookiebot

namespace Sourcepoint

theorem detect_confined (learns : may.LetsLearn slot) : (detect slot).Confined may true := by
  refine .andThen url fun address => ?_
  split
  · exact .andThen (learn_confined learns fun _ => ⟨rfl, rfl⟩) fun _ => .pure _
  · exact .pure _

theorem popup_confined : (popup timings slot).Confined may true := by
  refine .andThen (recollect _) fun memory => ?_
  split
  · exact .pure _
  · exact waitForElement _ _ _
  · exact .andThen (waitForElement _ _ _) fun _ => .andThen (isPresent _) fun _ => .pure _

omit [may.Roomy] in
theorem isManagerOpen_confined [may.Open] : isManagerOpen.Confined may true := .andThen url fun _ => .pure _

omit [may.Roomy] in
theorem firstWay_confined [may.Open] : (firstWay timings).Confined may true := by
  have probes : ∀ way, (probe timings way).Confined may true := fun _ =>
    .andThen (waitForElement _ _ _) fun _ => .pure _
  refine .anyOf (probes _) fun other member => ?_
  simp only [List.mem_cons, List.not_mem_nil, or_false] at member
  rcases member with rfl | rfl
  · exact probes _
  · exact probes _

omit [may.Roomy] in
theorem refuse_confined [may.Open] : (refuse timings).Confined may true := by
  refine .andThen (waitForElement _ _ _) fun _ => .andThen (firstWay_confined _) fun way => ?_
  split
  · exact .andThen (.pause _) fun _ => click _ _
  · exact .andThen (click _ _) fun _ => click _ _
  · exact .andThen (waitForElement _ _ _) fun _ => .andThen (click _ _) fun _ =>
      .andThen (click _ _) fun _ => click _ _
  · exact click _ _

omit [may.Roomy] in
theorem optOutOfMessage_confined [may.Open] : (optOutOfMessage timings).Confined may true :=
  .andThen (waitForElement _ _ _) fun _ => .ite
    (.andThen (isPresent _) fun _ => .ite
      (.andThen (click _ _) fun _ => .andThen (.poll _ isManagerOpen_confined _) fun _ =>
        refuse_confined _)
      (click _ _))
    (.pure _)

theorem optOut_confined : (optOut timings slot).Confined may true :=
  .andThen (recollect _) fun _ => .ite
    (.andThen (click _ _) fun _ => .andThen (click _ _) fun _ => click _ _) <|
    .andThen isManagerOpen_confined fun _ => .ite (refuse_confined _) (optOutOfMessage_confined _)

theorem optIn_confined : (optIn timings).Confined may true :=
  .andThen (waitForElement _ _ _) fun _ => .andThen (click _ _) fun _ => .ite (.pure _) (click _ _)

end Sourcepoint

namespace ConsentManager

theorem detect_confined (learns : may.LetsLearn slot) : (detect timings slot).Confined may true :=
  .andThen (eval _ _) fun _ => .andThen (learn_confined learns fun _ => ⟨rfl, rfl⟩) fun _ =>
    .ite (.pure _) (isPresent _)

theorem popup_confined : (popup timings slot).Confined may true :=
  .andThen (recollect _) fun _ => .ite (.andThen (.pause _) fun _ => eval _ _) (isVisible _ _)

omit [may.Roomy] in
theorem clickThrough_confined [may.Open] : (clickThrough timings).Confined may true :=
  .andThen (click _ _) fun _ => .ite (.pure _) <|
    .andThen (isPresent _) fun _ => .ite
      (.andThen (click _ _) fun _ => .andThen (click _ _) fun _ => .pure _)
      (.andThen (click _ _) fun _ => .andThen (waitForElement _ _ _) fun _ =>
        .andThen (click _ _) fun _ => .andThen (click _ _) fun _ => .pure _)

theorem optOut_confined : (optOut timings slot).Confined may true :=
  .andThen (.pause _) fun _ => .andThen (recollect _) fun _ =>
    .ite (eval _ _) (clickThrough_confined _)

theorem optIn_confined : (optIn timings slot).Confined may true :=
  .andThen (recollect _) fun _ => .ite (eval _ _) (click _ _)

theorem selfTest_confined : (selfTest timings slot).Confined may true :=
  .andThen (recollect _) fun _ => .ite (eval _ _) (.pure _)

end ConsentManager

theorem Evidon.optOut_confined : (Evidon.optOut timings).Confined may true :=
  .andThen (click _ _) fun _ => .ite (.pure _) <|
    .andThen (hide _ _) fun _ => .andThen (click _ _) fun _ =>
      .andThen (waitForElement _ _ _) fun _ => .andThen (click _ _) fun _ => .pure _

theorem OneTrust.optOut_confined : (OneTrust.optOut timings).Confined may true := by
  have choices : OneTrust.openChoices.Confined may true :=
    .andThen (isPresent _) fun _ => .ite (click _ _) (click _ _)
  exact .andThen choices fun _ => .andThen (waitForElement _ _ _) fun _ =>
    .andThen (.pause _) fun _ => .andThen (click _ _) fun _ => .andThen (.pause _) fun _ =>
      .andThen (waitForElement _ _ _) fun _ => .andThen (click _ _) fun _ =>
        .andThen (.poll _ (isVisible _ _) _) fun _ => .pure _

namespace Klaro

omit [may.Roomy] in
theorem noteSettings_confined (learns : may.LetsLearn slot) : (noteSettings slot).Confined may true :=
  learn_confined learns fun _ => ⟨rfl, rfl⟩

theorem detect_confined (learns : may.LetsLearn slot) : (detect slot).Confined may true :=
  .andThen (isPresent _) fun _ => .ite (.andThen (noteSettings_confined _ learns) fun _ => .pure _)
    (isPresent _)

theorem openChoices_confined (learns : may.LetsLearn slot) : (openChoices timings slot).Confined may true :=
  .andThen (recollect _) fun _ => .ite
    (.andThen (click _ _) fun _ => .andThen (waitForElement _ _ _) fun _ => noteSettings_confined _ learns)
    (.pure _)

theorem optOut_confined (learns : may.LetsLearn slot) : (optOut timings slot).Confined may true :=
  .andThen (click _ _) fun _ => .ite (.pure _) <|
    .andThen (openChoices_confined _ _ learns) fun _ => .andThen (click _ _) fun _ => .ite (.pure _) <|
      .andThen (click _ _) fun _ => click _ _

theorem optIn_confined : (optIn slot).Confined may true :=
  .andThen (click _ _) fun _ => .ite (.pure _) <|
    .andThen (recollect _) fun _ => .ite (.andThen (click _ _) fun _ => click _ _) (click _ _)

end Klaro

namespace Uniconsent

theorem labelled_confined (labels : List String) : (labelled labels).Confined may true := by
  refine .andThen (query _) fun nodes => ?_
  induction nodes with
  | nil => exact .pure _
  | cons node others ih => exact .andThen (textOf _) fun _ => .andThen ih fun _ => .pure _

theorem uncheckEach_confined (nodes : List NodeId) : (uncheckEach nodes).Confined may true := by
  induction nodes with
  | nil => exact .pure _
  | cons node others ih =>
      exact .andThen (isChecked _) fun _ => .ite (.andThen (clickNodes _ _) fun _ => ih) ih

theorem save_confined : save.Confined may true := by
  refine .andThen (labelled_confined _) fun found => ?_
  split
  · exact .pure _
  · exact .andThen (clickNodes _ _) fun _ => .andThen (.pause _) fun _ => .pure _

theorem optOut_confined : (optOut timings).Confined may true :=
  .andThen (waitForElement _ _ _) fun _ => .andThen (labelled_confined _) fun _ =>
    .andThen (clickNodes _ _) fun _ => .andThen (waitForElement _ _ _) fun _ => .ite
      (.andThen (waitForElement _ _ _) fun _ => .andThen (query _) fun _ =>
        .andThen (uncheckEach_confined _) fun _ => save_confined)
      (.pure _)

end Uniconsent

namespace Conversant

theorem clickWithin_confined (node : NodeId) (selectors : List String) :
    (clickWithin node selectors).Confined may true := by
  induction selectors with
  | nil => exact .pure _
  | cons selector others ih =>
      exact .andThen (queryIn _ _) fun _ => .andThen (clickNodes _ _) fun _ => ih

theorem refuse_confined (item : NodeId) : (refuse item).Confined may true := by
  have opens : (isOpen item).Confined may true := .andThen (queryIn _ _) fun _ => .pure _
  refine .andThen (queryIn _ _) fun _ => .andThen (clickNodes _ _) fun _ =>
    .andThen (.poll _ opens _) fun _ => .andThen (queryIn _ _) fun contents => ?_
  split
  · exact .pure _
  · exact clickWithin_confined _ _

theorem optOut_confined : (optOut timings).Confined may true :=
  .andThen (waitForThenClick _ _ _ _) fun _ => .ite
    (.andThen (waitForElement _ _ _) fun _ => .ite
      (.andThen (waitForThenClick _ _ _ _) fun _ => .andThen (waitForThenClick _ _ _ _) fun _ =>
        .andThen (query _) fun _ => .andThen (.each refuse_confined _) fun _ =>
          .andThen (click _ _) fun _ => .pure _)
      (.pure _))
    (.pure _)

end Conversant

namespace Airbnb

theorem clickToggles_confined (clicks : Nat) : (clickToggles clicks).Confined may true := by
  induction clicks with
  | zero => exact .andThen (query _) fun _ => .pure _
  | succ clicks ih =>
      refine .andThen (query _) fun found => ?_
      split
      · exact .pure _
      · exact .andThen (clickNodes _ _) fun _ => ih

theorem optOut_confined : (optOut timings).Confined may true :=
  .andThen (waitForThenClick _ _ _ _) fun _ => .andThen (clickToggles_confined _) fun _ =>
    waitForThenClick _ _ _ _

end Airbnb

/-- What a vendor's plan does where it learns nothing. -/
theorem Vendor.run_idly (vendor : Vendor) {routine : Routine} (idle : routine.learns = false) :
    (vendor.run timings slot routine).Confined may true := by
  cases routine with
  | popup =>
      cases vendor with
      | trustArcFrame => exact TrustArcFrame.popup_confined
      | cookiebot => exact isPresent _
      | sourcepoint => exact Sourcepoint.popup_confined _ _
      | consentManager => exact ConsentManager.popup_confined _ _
      | _ => exact isVisible _ _
  | openSettings => cases vendor <;> exact .pure _
  | selfTest =>
      have cookie : ∀ text, (do return Text.contains (← Primitive.cookie) text : Flow Bool).Confined may true :=
        fun _ => .andThen cookie fun _ => .pure _
      cases vendor with
      | cookiebot => exact eval _ _
      | consentManager => exact ConsentManager.selfTest_confined _ _
      | oneTrust => exact eval _ _
      | klaro => exact eval _ _
      | uniconsent => exact .andThen (.pause _) fun _ => .andThen (isPresent _) fun _ => .pure _
      | conversant => exact cookie _
      | airbnb => exact .poll _ (cookie _) _
      | _ => exact .pure _
  | detect | optOut | optIn => cases idle

/-- What a vendor's plan does that has nothing to do with the TrustArc banner. -/
theorem Vendor.run_keeps {vendor : Vendor} (other : vendor ≠ .trustArcTop) (routine : Routine)
    (learns : may.LetsLearn slot) : (vendor.run timings slot routine).Confined may true := by
  cases routine with
  | detect =>
      cases vendor with
      | trustArcTop => exact (other rfl).elim
      | trustArcFrame => exact .pure _
      | sourcepoint => exact Sourcepoint.detect_confined _ learns
      | consentManager => exact ConsentManager.detect_confined _ _ learns
      | klaro => exact Klaro.detect_confined _ learns
      | _ => exact isPresent _
  | optOut =>
      cases vendor with
      | trustArcTop => exact (other rfl).elim
      | trustArcFrame => exact TrustArcFrame.optOut_confined _
      | cookiebot => exact Cookiebot.optOut_confined _
      | sourcepoint => exact Sourcepoint.optOut_confined _ _
      | consentManager => exact ConsentManager.optOut_confined _ _
      | evidon => exact Evidon.optOut_confined _
      | oneTrust => exact OneTrust.optOut_confined _
      | klaro => exact Klaro.optOut_confined _ _ learns
      | uniconsent => exact Uniconsent.optOut_confined _
      | conversant => exact Conversant.optOut_confined _
      | airbnb => exact Airbnb.optOut_confined _
  | optIn =>
      cases vendor with
      | trustArcTop => exact (other rfl).elim
      | trustArcFrame => exact TrustArcFrame.optIn_confined _
      | cookiebot => exact Cookiebot.optIn_confined
      | sourcepoint => exact Sourcepoint.optIn_confined _
      | consentManager => exact ConsentManager.optIn_confined _ _
      | klaro => exact Klaro.optIn_confined _
      | evidon => exact click _ _
      | oneTrust => exact click _ _
      | _ => exact waitForThenClick _ _ _ _
  | popup | openSettings | selfTest => exact vendor.run_idly timings slot rfl

theorem Vendor.run_modest (vendor : Vendor) (routine : Routine) :
    (vendor.run timings slot routine).Modest := by
  by_cases other : vendor = .trustArcTop
  · subst other
    cases routine with
    | detect => exact TrustArcTop.detect_modest _
    | optOut => exact TrustArcTop.optOut_modest _
    | optIn => exact TrustArcTop.optIn_modest _
    | popup | openSettings | selfTest => exact Vendor.run_idly timings slot .trustArcTop rfl
  · exact Vendor.run_keeps timings slot other routine fun _ _ => trivial

theorem StepRule.run_allowed (rule : StepRule) (routine : Routine) :
    (rule.run timings routine).Confined may true := by
  have steps : ∀ routine (steps : Option (List RuleStep)),
      (StepRule.run.inOrder timings routine steps).Confined may true := by
    intro routine steps
    cases steps with
    | none => exact .pure _
    | some steps => exact inOrder timings steps
  cases routine with
  | detect =>
      rw [StepRule.run]
      split
      · exact sideBySide timings _
      · exact .pure _
  | _ => exact steps _ _

theorem MethodRule.run_allowed (rule : MethodRule) (routine : Routine) :
    (rule.run timings routine).run.Confined may true := by
  have method : ∀ name consents, (rule.runMethod timings name consents).run.Confined may true :=
    fun _ _ => Modest.runMethod timings _ _ _
  have decides : ∀ consents, (rule.decide timings consents).run.Confined may true := fun _ =>
    chain (method _ _) fun _ => chain (method _ _) fun _ => chain (method _ _) fun _ =>
      chain (method _ _) fun _ => chain (method _ _) fun _ => okay _
  cases routine with
  | detect => exact lift (Modest.anyGroupPresent _)
  | popup => exact lift (Modest.anyGroupPresent _)
  | optOut => exact decides _
  | optIn => exact decides _
  | openSettings => exact chain (method _ _) fun _ => chain (method _ _) fun _ => okay _
  | selfTest => exact okay _

omit [may.Roomy] in
theorem Outcome.run_allowed (outcome : Outcome) : outcome.run.run.Confined may true := by
  induction outcome with
  | reply value => exact okay _
  | failure message => exact fail _
  | delayed time outcome ih => exact chain (rest _) fun _ => ih

omit [may.Roomy] in
theorem ScriptedHandler.run_allowed (handler : ScriptedHandler) {routine : Routine}
    (notes : ∀ call : HandlerCall, call.routine = routine → may (.note call)) :
    (handler.run slot routine).run.Confined may true := by
  unfold ScriptedHandler.run
  split
  · exact chain (lift (.request (notes _ rfl) trivial)) fun _ => Outcome.run_allowed _
  · exact okay _

/-- What a handler does is modest, but for the notes that it makes of its routine. -/
theorem Handler.run_fits (handler : Handler) (routine : Routine) :
    (handler.run timings routine).run.Confined (Request.Fits routine) true := by
  obtain ⟨slot, plan⟩ := handler
  cases plan with
  | vendor vendor => exact lift ((vendor.run_modest timings slot routine).fits routine)
  | steps rule => exact lift (Modest.fits (rule.run_allowed timings routine) routine)
  | methods name rule => exact Modest.fits (rule.run_allowed timings routine) routine
  | scripted script => exact script.run_allowed slot fun _ is => is

/-- The same, where it learns nothing. -/
theorem Handler.run_idly (handler : Handler) {routine : Routine} (idle : routine.learns = false) :
    (handler.run timings routine).run.Confined (Request.FitsIdly routine) true := by
  obtain ⟨slot, plan⟩ := handler
  cases plan with
  | vendor vendor => exact lift (vendor.run_idly timings slot idle)
  | steps rule => exact lift (rule.run_allowed timings routine)
  | methods name rule => exact rule.run_allowed timings routine
  | scripted script => exact script.run_allowed slot fun _ is => is

/-- Requests that handlers may make while they follow a routine that has nothing to do with the TrustArc banner. -/
def Request.FitsApart (routine : Routine) : {β : Type} → Request β → Prop
  | _, .remember _ change => Memory.SparesBanner change
  | _, request => request.Fits routine

instance (routine : Routine) : Allowance.Roomy (Request.FitsApart routine) where
  page _ spares := spares
  asks _ := trivial
  recalls _ := trivial

theorem Handler.run_apart {handler : Handler} (other : handler.plan ≠ .vendor .trustArcTop) (routine : Routine) :
    (handler.run timings routine).run.Confined (Request.FitsApart routine) true := by
  obtain ⟨slot, plan⟩ := handler
  cases plan with
  | vendor vendor =>
      have another : vendor ≠ .trustArcTop := fun is => other (congrArg Plan.vendor is)
      exact lift (Vendor.run_keeps timings slot another routine fun _ spares => spares)
  | steps rule => exact lift (rule.run_allowed timings routine)
  | methods name rule => exact rule.run_allowed timings routine
  | scripted script => exact script.run_allowed slot fun _ is => is

end ConsentBanner
