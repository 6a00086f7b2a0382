import ConsentBanner.Proofs.Engine.Gating
import ConsentBanner.Proofs.Engine.Steady
import ConsentBanner.Proofs.Rehearsal.Polling
import Mathlib.Algebra.Order.Floor.Div

/-!
# Waits with a budget

Waiting for an element, for elements that can be seen and for the page to have loaded is to ask the page at regular
moments.  The budget is a number of moments after the first, which for a time limit is the number of intervals that
cover it.  Waiting for a dialog is the same if the handler can tell at once whether it shows
(`Engine.waits_at_moments`).
-/

set_option autoImplicit false

namespace ConsentBanner

/-! ## What is asked of the page -/

namespace FixedPage

variable (page : FixedPage)

/-- A selector describes some element; none if the call fails. -/
def shows (selector : String) : Bool := !(page.elements .document selector).isEmpty

/-- An element can be seen; it can not if the call fails. -/
def canSee (node : NodeId) : Bool := Primitive.orElse (page.reply (.isVisible node)) false

/-- The elements that a selector describes can be seen, in a sense. -/
def showsVisibly (selector : String) (mode : VisibilityMode) : Bool :=
  Primitive.judge mode ((page.elements .document selector).map page.canSee)

/-- The page has loaded, or does not say how far it has. -/
def hasLoaded : Bool :=
  match page.reply .readyState with
  | .ok state => state != "loading"
  | .error _ => true

end FixedPage

/-- A snapshot shows what a selector describes if calls for elements do not fail and one of these elements belongs to
the page. -/
theorem FixedPage.shows_ofSnapshot {page : Snapshot} {selector : String} :
    (ofSnapshot page).shows selector = true ↔
      page.failing.contains "query_all" = false ∧ ∃ node ∈ page.select selector, page.isAttached node = true := by
  have elements : (ofSnapshot page).elements .document selector =
      Primitive.orElse (page.perform (.queryAll .document selector)).1 [] := rfl
  rw [shows, elements, Snapshot.perform, PageCall.name]
  cases fails : page.failing.contains "query_all" with
  | true => simp [Primitive.orElse]
  | false =>
      simp only [Bool.false_eq_true, if_false, Snapshot.reply, Snapshot.query, Snapshot.select]
      cases Selector.ofText? selector with
      | none => simp [Primitive.orElse]
      | some s => simp [Primitive.orElse, List.filter_eq_nil_iff]

namespace Flow

theorem consult_isPresent (page : FixedPage) (selector : String) :
    (Primitive.isPresent selector).consult page = some (page.shows selector) := rfl

theorem consult_visibilities (page : FixedPage) (nodes : List NodeId) :
    (Primitive.visibilities nodes).consult page = some (nodes.map page.canSee) := by
  induction nodes with
  | nil => rfl
  | cons node rest ih =>
      change ((Primitive.visibilities rest).bind fun others => .done (page.canSee node :: others)).consult page = _
      rw [consult_bind, ih]
      rfl

theorem consult_isVisible (page : FixedPage) (selector : String) (mode : VisibilityMode) :
    (Primitive.isVisible selector mode).consult page = some (page.showsVisibly selector mode) := by
  change ((Primitive.visibilities (page.elements .document selector)).bind
    fun visible => .done (Primitive.judge mode visible)).consult page = _
  rw [consult_bind, consult_visibilities]
  rfl

theorem consult_isReady (page : FixedPage) : Engine.isReady.consult page = some page.hasLoaded := rfl

theorem IsGlance.isReady : Engine.isReady.IsGlance := by
  refine .ask trivial fun reply => ?_
  cases reply <;> exact .done _

end Flow

/-! ## Budgets -/

namespace Timings

variable (timings : Timings) (limit : Nat)

/-- A time limit buys as many moments as intervals cover it, up to the largest number of attempts. -/
theorem attemptsFor_eq (positive : 1 ≤ timings.poll) :
    timings.attemptsFor limit = min (limit ⌈/⌉ timings.poll) attemptLimit := by
  rw [attemptsFor, Nat.max_eq_left positive, Nat.ceilDiv_eq_add_pred_div]

/-- Unless there are too many of them, these moments cover the limit, and by less than an interval more. -/
theorem attemptsFor_covers (positive : 1 ≤ timings.poll) (few : limit ⌈/⌉ timings.poll ≤ attemptLimit) :
    limit ≤ timings.attemptsFor limit * timings.poll ∧
      timings.attemptsFor limit * timings.poll < limit + timings.poll := by
  rw [attemptsFor_eq timings limit positive, Nat.min_eq_left few]
  constructor
  · rw [Nat.mul_comm]
    exact (ceilDiv_le_iff_le_mul positive).mp (Nat.le_refl _)
  · have covered := Nat.div_mul_le_self (limit + timings.poll - 1) timings.poll
    rw [Nat.ceilDiv_eq_add_pred_div]
    omega

end Timings

namespace Flow

theorem IsGlance.pollsFor {attempt : Flow Bool} (glance : attempt.IsGlance) {yes : FixedPage → Bool}
    (asks : ∀ page, attempt.consult page = some (yes page)) (interval retries : Nat) :
    Polls (poll attempt interval retries) id yes interval retries := by
  have same : ((poll attempt interval retries).bind fun answer => .done (id answer)) =
      poll attempt interval retries := bind_done _
  exact same ▸ glance.polls asks id interval retries

end Flow

namespace Engine

open Rehearsal (Round Polled)

/-- A handler that needs no more than a glance tells at once whether its dialog shows. -/
theorem attempt_instant {timings : Timings} {handler : Handler}
    (glance : (handler.run timings .popup).run.IsGlance) (world : World) :
    ∃ answer after, (handler.attempt timings .popup).run world = (.done answer, after) := by
  let noted := (world.answer (.record ⟨handler.call .popup, .begun⟩)).2
  obtain ⟨result, comes⟩ := glance.comes (.ofSnapshot noted.page)
  have runs := glance.run comes
  refine ⟨Handler.outcome result,
    (noted.answer (.record ⟨handler.call .popup, .came (Handler.outcome result)⟩)).2, ?_⟩
  rw [attempt_eq, Flow.run]
  change ((handler.run timings .popup).run.bind _).run noted = _
  rw [Flow.run_bind, runs]
  rfl

/-- What becomes of waiting for a dialog: rounds until the handler says that it shows or no round is left.  If the
handler can tell at once, the rounds begin at regular moments. -/
structure PopupWait (timings : Timings) (handler : Handler) (start : Rehearsal) (vain : List Round) (final : Round) :
    Prop where
  comes : start.ComesTo (waitForPopup timings handler) final.answer final.after
  rounds : Polled (handler.attempt timings .popup) timings.popup timings.popupRetries start vain final
  inVain : ∀ round ∈ vain, round.answer = false
  within : vain.length ≤ timings.popupRetries
  spent : final.answer = false → vain.length = timings.popupRetries
  instant : (∀ world, ∃ answer after, (handler.attempt timings .popup).run world = (.done answer, after)) →
    ∀ place round, (vain ++ [final])[place]? = some round →
      round.before.world.clock = start.world.clock + place * timings.popup ∧
      (handler.attempt timings .popup).run round.before.world = (.done round.answer, round.after.world) ∧
      round.after.world.clock = round.before.world.clock

theorem popupWait (timings : Timings) (handler : Handler) (start : Rehearsal) :
    ∃ vain final, PopupWait timings handler start vain final := by
  have attempts : Steady (fun _ => True) (handler.attempt timings .popup) := steady_attempt timings handler trivial
  obtain ⟨answer, last, enough, plays, -⟩ := start.plays (attempts.poll timings.popup timings.popupRetries)
  obtain ⟨vain, final, rounds, rfl, rfl⟩ := (Rehearsal.comesTo_poll _).mp ⟨enough, plays⟩
  exact ⟨vain, final, ⟨enough, plays⟩, rounds, rounds.inVain, rounds.within, rounds.spent, rounds.moments⟩

/-- Waiting asks at regular moments until the answer is yes or the budget is spent, and is over then.  For an element
the question is whether the selector describes one that belongs to the page, and a failing call counts as no; for
elements to be seen whether they can be, for the page whether it says that it is still loading.  A time limit buys
the number of intervals that cover it.  For a dialog the handler is asked, in rounds.  So it is with every question:
it is asked once, and once after each pause, until the answer is yes or no pause is left. -/
theorem waits_at_moments (timings : Timings) (positive : 1 ≤ timings.poll) :
    (∀ selector limit, Flow.Polls (Primitive.waitForElement timings selector limit) id (·.shows selector)
      timings.poll (timings.attemptsFor limit)) ∧
    (∀ page selector, (FixedPage.ofSnapshot page).shows selector = true ↔
      page.failing.contains "query_all" = false ∧ ∃ node ∈ page.select selector, page.isAttached node = true) ∧
    (∀ selector limit mode, Flow.Polls (Primitive.waitForVisible timings selector limit mode) id
      (·.showsVisibly selector mode) timings.poll (timings.attemptsFor limit)) ∧
    (∀ limit, timings.attemptsFor limit = min (limit ⌈/⌉ timings.poll) (2 ^ 32 - 1) ∧
      (limit ⌈/⌉ timings.poll ≤ 2 ^ 32 - 1 → limit ≤ timings.attemptsFor limit * timings.poll ∧
        timings.attemptsFor limit * timings.poll < limit + timings.poll)) ∧
    Flow.Polls (waitUntilReady timings) (fun _ => ()) FixedPage.hasLoaded timings.ready timings.readyRetries ∧
    (∀ handler start, ∃ vain final, PopupWait timings handler start vain final) ∧
    ∀ attempt interval retries start answer last,
      Rehearsal.ComesTo start (Flow.poll attempt interval retries) answer last ↔
        ∃ vain final, Polled attempt interval retries start vain final ∧ vain.length ≤ retries ∧
          final.answer = answer ∧ final.after = last := by
  refine ⟨fun selector limit => ?_, fun page selector => FixedPage.shows_ofSnapshot,
    fun selector limit mode => ?_, fun limit => ?_, ?_, popupWait timings,
    fun attempt interval retries start answer last => ?_⟩
  · exact (Flow.IsGlance.isPresent selector).pollsFor (fun page => Flow.consult_isPresent page selector) _ _
  · exact (Flow.IsGlance.isVisible selector mode).pollsFor (fun page => Flow.consult_isVisible page selector mode) _ _
  · exact ⟨timings.attemptsFor_eq limit positive, timings.attemptsFor_covers limit positive⟩
  · exact Flow.IsGlance.isReady.polls Flow.consult_isReady (fun _ => ()) _ _
  · refine (Rehearsal.comesTo_poll retries).trans ⟨?_, ?_⟩
    · rintro ⟨vain, final, rounds, ends⟩
      exact ⟨vain, final, rounds, rounds.within, ends⟩
    · rintro ⟨vain, final, rounds, -, ends⟩
      exact ⟨vain, final, rounds, ends⟩

/-- An element that comes between the third and the fourth moment is noticed at the fourth.  A dialog that is told by
a glance is asked for every half second. -/
theorem waits_at_moments_usual :
    let pages : Timeline := fun moment => .ofSnapshot (.ofText (if moment ≤ 500 then "<p>" else "<p><b>"))
    let klaro : Handler := ⟨0, .vendor .klaro⟩
    let start := Rehearsal.start (.start (.ofText "<p>")) [] [] false
    1 ≤ Timings.usual.poll ∧ Timings.usual.attemptsFor 2000 = 10 ∧
      (Primitive.waitForElement .usual "b" 2000).watch pages 0 = some (true, 600) ∧
      ∃ vain final, PopupWait .usual klaro start vain final ∧ ∀ place round,
        (vain ++ [final])[place]? = some round → round.before.world.clock = 0 + place * 500 := by
  intro pages klaro start
  have positive : 1 ≤ Timings.usual.poll := by decide
  have attempts : Timings.usual.attemptsFor 2000 = 10 := by decide
  obtain ⟨elements, -, -, -, -, dialogs, -⟩ := waits_at_moments .usual positive
  refine ⟨positive, attempts, ?_, ?_⟩
  · have before : (FixedPage.ofSnapshot (.ofText "<p>")).shows "b" = false := by decide +kernel
    have after : (FixedPage.ofSnapshot (.ofText "<p><b>")).shows "b" = true := by decide +kernel
    have absent : ∀ moment, moment ≤ 500 → (pages moment).shows "b" = false := fun moment early => by
      simp only [pages, if_pos early, before]
    have there : (pages 600).shows "b" = true := after
    obtain ⟨answer, time, ends, law⟩ := (elements "b" 2000).watched pages 0
    rw [attempts] at law
    cases law with
    | spent _ never =>
        have missed : (pages 600).shows "b" = false := never 3 (by decide)
        rw [there] at missed
        cases missed
    | @found place _ within moment holds least =>
        have late : ¬ time ≤ 500 := fun early => by
          rw [absent time early] at holds
          cases holds
        have soon : ¬ 3 < place := fun beyond => by
          have missed : (pages 600).shows "b" = false := least 3 beyond
          rw [there] at missed
          cases missed
        have is : time = 600 := by
          have usual : Timings.usual.poll = 200 := rfl
          rw [usual] at moment
          omega
        exact is ▸ ends
  · have glance : (klaro.run .usual .popup).run.IsGlance := (Flow.IsGlance.isVisible _ _).bind fun _ => .done _
    obtain ⟨vain, final, wait⟩ := dialogs klaro start
    exact ⟨vain, final, wait, fun place round is => (wait.instant (attempt_instant glance) place round is).1⟩

end Engine

end ConsentBanner
