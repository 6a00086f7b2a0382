import ConsentBanner.Proofs.Engine.Waits
import ConsentBanner.Vendor.Sourcepoint

/-!
# Ways to refuse that come up

In the privacy manager three ways to refuse are waited for side by side, and the first wait to be over decides.  Before
the last of their moments this is the first way that the page offers.  At the last moment it is the first wait in any
case, be it in vain: another way that comes up then is missed (`Sourcepoint.optOut_misses_last`).
-/

set_option autoImplicit false

namespace ConsentBanner.Sourcepoint

open Flow (EndsPolling)
open Primitive (waitForElement)

/-- What is done in the privacy manager once a way to refuse has come up, or none. -/
def carryOut (timings : Timings) : Option Way → Flow Bool
  | some .all => do
    Flow.pause 1000
    Primitive.click rejectAll false
  | some .toggle => do
    let _ ← Primitive.click rejectToggle false
    saveAndExit
  | some .features => do
    let _ ← waitForElement timings features 10000
    let _ ← Primitive.click ".checked > span" true
    let _ ← Primitive.click ".chevron" false
    saveAndExit
  | none => saveAndExit

theorem refuse_eq (timings : Timings) :
    refuse timings = (waitForElement timings ".type-modal" 20000).bind fun _ =>
      (firstWay timings).bind (carryOut timings) := by
  refine congrArg ((waitForElement timings ".type-modal" 20000).bind) (funext fun _ => ?_)
  refine congrArg ((firstWay timings).bind) (funext fun found => ?_)
  match found with
  | some .all | some .toggle | some .features | none => rfl

/-- The first of several ways to refuse that a page offers. -/
def offered? (ways : List Way) (page : FixedPage) : Option Way := ways.find? fun way => page.shows way.selector

theorem offered?_cons (way : Way) (others : List Way) (page : FixedPage) :
    offered? (way :: others) page = (offered? [way] page).or (offered? others page) := by
  change ([way] ++ others).find? _ = _
  exact List.find?_append

theorem offered?_single (way : Way) (page : FixedPage) :
    offered? [way] page = if page.shows way.selector then some way else none := by
  cases shown : page.shows way.selector <;> simp [offered?, shown]

/-- How waiting for several ways side by side ends: before the last moment with the first of them that the page
offers, and at the last moment with what the first wait comes to. -/
inductive EndsProbing (pages : Timeline) (begin interval retries : Nat) (way : Way) (others : List Way) :
    Option Way → Nat → Prop where
  | early {found : Way} {place time : Nat} (within : place < retries) (moment : time = begin + place * interval)
      (offers : offered? (way :: others) (pages time) = some found)
      (least : ∀ earlier, earlier < place → offered? (way :: others) (pages (begin + earlier * interval)) = none) :
      EndsProbing pages begin interval retries way others (some found) time
  | late {found : Option Way} {time : Nat} (moment : time = begin + retries * interval)
      (first : offered? [way] (pages time) = found)
      (never : ∀ earlier, earlier < retries → offered? (way :: others) (pages (begin + earlier * interval)) = none) :
      EndsProbing pages begin interval retries way others found time

namespace EndsProbing

variable {pages : Timeline} {begin interval retries time one two : Nat} {way other : Way} {others : List Way}
  {found later : Option Way}

theorem congr {pages' : Timeline} (ends : EndsProbing pages begin interval retries way others found time)
    (same : ∀ moment, begin ≤ moment → pages' moment = pages moment) :
    EndsProbing pages' begin interval retries way others found time := by
  have seen := fun place => same (begin + place * interval) (Nat.le_add_right _ _)
  cases ends with
  | @early _ place _ within moment offers least =>
      refine .early within moment ?_ fun earlier before => seen earlier ▸ least earlier before
      rw [moment, seen place, ← moment, offers]
  | late moment first never =>
      refine .late moment ?_ fun earlier before => seen earlier ▸ never earlier before
      rw [moment, seen retries, ← moment, first]

/-- One wait by itself. -/
theorem single {answer : Bool}
    (ends : EndsPolling (fun moment => (pages moment).shows way.selector) begin interval retries answer time) :
    EndsProbing pages begin interval retries way [] (if answer then some way else none) time := by
  have single := fun moment => offered?_single way (pages moment)
  cases ends with
  | spent moment never =>
      refine .late moment ?_ fun earlier before => ?_
      · rw [single, moment, never retries (Nat.le_refl retries)]
      · rw [single, never earlier (Nat.le_of_lt before)]
        rfl
  | @found place _ within moment holds least =>
      have missed : ∀ earlier, earlier < place → offered? [way] (pages (begin + earlier * interval)) = none := by
        intro earlier before
        rw [single, least earlier before]
        rfl
      have there : offered? [way] (pages time) = some way := by
        rw [single, holds]
        rfl
      rcases Nat.lt_or_eq_of_le within with before | rfl
      · exact .early before moment there missed
      · exact .late moment there missed

/-- Of two waits the one that is over first decides, and at the same moment the one that stands first. -/
theorem join (positive : 1 ≤ interval) (first : EndsProbing pages begin interval retries way [] found one)
    (second : EndsProbing pages begin interval retries other others later two) :
    EndsProbing pages begin interval retries way (other :: others) (if one ≤ two then found else later)
      (if one ≤ two then one else two) := by
  have both := fun page => offered?_cons way (other :: others) page
  have ordered : ∀ {place next : Nat}, place < next → begin + place * interval < begin + next * interval :=
    fun before => Nat.add_lt_add_left (Nat.mul_lt_mul_of_pos_right before positive) begin
  have neither : ∀ {moment : Nat}, offered? [way] (pages moment) = none →
      offered? (other :: others) (pages moment) = none → offered? (way :: other :: others) (pages moment) = none := by
    intro moment one two
    rw [both, one, two]
    rfl
  cases first with
  | late moment is never =>
      cases second with
      | late moment' _ never' =>
          -- Both are over at the last moment, where the other one is not heard any more.
          have same : one ≤ two := by omega
          rw [if_pos same, if_pos same]
          exact .late moment is fun earlier before => neither (never earlier before) (never' earlier before)
      | @early found place _ within moment' offers least =>
          -- Only the other one has found something in time.
          have before := ordered within
          have sooner : ¬ one ≤ two := by omega
          rw [if_neg sooner, if_neg sooner]
          refine .early within moment' ?_ fun earlier early =>
            neither (never earlier (Nat.lt_trans early within)) (least earlier early)
          rw [both, moment', never place within, ← moment', offers]
          rfl
  | @early found place _ within moment offers least =>
      have there : offered? (way :: other :: others) (pages one) = some found := by
        rw [both, offers]
        rfl
      cases second with
      | late moment' _ never' =>
          have before := ordered within
          have sooner : one ≤ two := by omega
          rw [if_pos sooner, if_pos sooner]
          exact .early within moment there fun earlier early =>
            neither (least earlier early) (never' earlier (Nat.lt_trans early within))
      | @early found' place' _ within' moment' offers' least' =>
          rcases Nat.lt_or_ge place' place with before | after
          · have later := ordered before
            have sooner : ¬ one ≤ two := by omega
            rw [if_neg sooner, if_neg sooner]
            refine .early within' moment' ?_ fun earlier early =>
              neither (least earlier (Nat.lt_trans early before)) (least' earlier early)
            rw [both, moment', least place' before, ← moment', offers']
            rfl
          · -- What stands first wins at the same moment too.
            have later := Nat.mul_le_mul_right interval after
            have sooner : one ≤ two := by omega
            rw [if_pos sooner, if_pos sooner]
            exact .early within moment there fun earlier early =>
              neither (least earlier early) (least' earlier (Nat.lt_of_lt_of_le early after))

end EndsProbing

theorem probe_polls (timings : Timings) (way : Way) :
    Flow.Polls (probe timings way) (fun yes => if yes then some way else none) (·.shows way.selector) timings.poll
      (timings.attemptsFor 2000) :=
  (Flow.IsGlance.isPresent way.selector).polls (fun page => Flow.consult_isPresent page way.selector) _ _ _

theorem watchful_probes (timings : Timings) (way : Way) (others : List Way) :
    (Flow.anyOf (probe timings way) (others.map (probe timings))).Watchful := by
  refine .anyOf (probe_polls timings way).reads fun flow member => ?_
  obtain ⟨other, -, rfl⟩ := List.mem_map.mp member
  exact (probe_polls timings other).reads

/-- Waits for ways to refuse, side by side. -/
theorem watch_probes (timings : Timings) (positive : 1 ≤ timings.poll) (pages : Timeline) (begin : Nat)
    (others : List Way) : ∀ way, ∃ found time,
      (Flow.anyOf (probe timings way) (others.map (probe timings))).watch pages begin = some (found, time) ∧
      EndsProbing pages begin timings.poll (timings.attemptsFor 2000) way others found time := by
  induction others with
  | nil =>
      intro way
      obtain ⟨answer, time, ends, law⟩ := (probe_polls timings way).watched pages begin
      exact ⟨_, time, ends, .single law⟩
  | cons other rest ih =>
      intro way
      obtain ⟨answer, one, first, law⟩ := (probe_polls timings way).watched pages begin
      obtain ⟨later, two, second, laws⟩ := ih other
      refine ⟨_, _, ?_, (EndsProbing.single law).join positive laws⟩
      rw [List.map_cons, Flow.anyOf, Flow.watch, first, second]
      dsimp only
      split <;> rfl

/-- How refusing in the privacy manager goes: it waits for the dialog, and then for a way to refuse.  Nothing is done
until one has come up or the wait is over, and then what has come up is carried out, to its end. -/
structure Refuses (timings : Timings) (start before after : Rehearsal) (found : Option Way) : Prop where
  dialog : ∃ there, start.ComesTo (waitForElement timings ".type-modal" 20000) there before
  probes : before.ComesTo (firstWay timings) found after
  passes : start.Passes after
  ends : EndsProbing start.pages before.world.clock timings.poll (timings.attemptsFor 2000) .all [.toggle, .features]
    found after.world.clock
  comes : ∃ result last, after.ComesTo (carryOut timings found) result last ∧
    start.ComesTo (refuse timings) result last

theorem refuses (timings : Timings) (positive : 1 ≤ timings.poll) (start : Rehearsal) :
    ∃ before after found, Refuses timings start before after found := by
  have waits := (Flow.IsGlance.isPresent ".type-modal").pollsFor
    (fun page => Flow.consult_isPresent page ".type-modal") timings.poll (timings.attemptsFor 20000)
  obtain ⟨there, before, dialog, passed, -⟩ := waits.played start
  have watchful : (firstWay timings).Watchful := watchful_probes timings .all [.toggle, .features]
  obtain ⟨found, after, probes, watched, passes⟩ := watchful.comesTo before
  obtain ⟨found', time, watched', ends⟩ :=
    watch_probes timings positive before.pages before.world.clock [.toggle, .features] .all
  obtain ⟨rfl, rfl⟩ := Prod.mk.inj (Option.some.inj (watched'.symm.trans watched))
  refine ⟨before, after, found', ⟨there, dialog⟩, probes, passed.trans passes, ?_, ?_⟩
  · exact ends.congr fun moment after => (passed.pages after).symm
  · -- Refusing comes to an end on every page, and so does what is left of it.
    have modest : (refuse timings).Modest := refuse_confined timings
    obtain ⟨result, last, enough, plays, -⟩ := start.plays modest
    have comes : start.ComesTo (refuse timings) result last := ⟨enough, plays⟩
    refine ⟨result, last, ?_, comes⟩
    rw [refuse_eq] at comes
    exact probes.onward.mp (dialog.onward.mp comes)

def opensManager (page : FixedPage) : Bool :=
  (Url.read? (Primitive.orElse (page.reply .location) "")).any fun url => url.path = managerPath

/-- Where the privacy manager is open, opting out is to refuse in it. -/
theorem run_optOut (timings : Timings) {slot : Nat} {world : World}
    (newer : (world.memory slot).surface ≠ .ccpaManager) (isOpen : opensManager (.ofSnapshot world.page) = true) :
    (optOut timings slot).run world = (refuse timings).run world := by
  have glance : isManagerOpen.IsGlance := (Flow.IsGlance.ofCall .location trivial "").bind fun _ => .done _
  have comes : isManagerOpen.consult (.ofSnapshot world.page) = some true := congrArg some isOpen
  change (if (world.memory slot).surface = .ccpaManager then optOutOld else
    isManagerOpen.bind fun yes => if yes then refuse timings else optOutOfMessage timings).run world = _
  rw [if_neg newer, Flow.run_bind, glance.run comes]
  rfl

/-- Opting out where the privacy manager is open takes the way to refuse that comes up first: before the last of its
moments the first way that the page offers at the earliest moment at which it offers one.  If none has come up until
then, it refuses everything if that is offered at the last moment, and else it saves without refusing. -/
theorem optOut_takes_offered (timings : Timings) (positive : 1 ≤ timings.poll) (start : Rehearsal) :
    ∃ before after found result last, Refuses timings start before after found ∧
      after.ComesTo (carryOut timings found) result last ∧
      ∀ slot, (start.world.memory slot).surface ≠ .ccpaManager → opensManager (.ofSnapshot start.world.page) = true →
        start.ComesTo (optOut timings slot) result last := by
  obtain ⟨before, after, found, refuses⟩ := refuses timings positive start
  obtain ⟨result, last, carries, comes⟩ := refuses.comes
  refine ⟨before, after, found, result, last, refuses, carries, fun slot newer isOpen => ?_⟩
  exact .ofRun (run_optOut timings newer isOpen) comes

def toggledManager : Snapshot :=
  { Snapshot.ofText ("<div class=type-modal><button class=reject-toggle></button>" ++
      "<button class=sp_choice_type_SAVE_AND_EXIT></button>") with
    url := "https://cdn.privacy-mgmt.com/privacy-manager/index.html?message_id=1", topFrame := false }

/-- Where the toggle is there from the beginning, it is taken. -/
theorem optOut_takes_offered_toggle :
    let start := Rehearsal.start (.start toggledManager) [] [] false
    1 ≤ Timings.usual.poll ∧ (start.world.memory 0).surface ≠ .ccpaManager ∧
      opensManager (.ofSnapshot start.world.page) = true ∧
      ∃ after result last, start.Passes after ∧ after.ComesTo (carryOut .usual (some .toggle)) result last ∧
        start.ComesTo (optOut .usual 0) result last := by
  intro start
  have positive : 1 ≤ Timings.usual.poll := by decide
  have newer : (start.world.memory 0).surface ≠ .ccpaManager := by decide
  have isOpen : opensManager (.ofSnapshot start.world.page) = true := by decide +kernel
  have still : ∀ moment, start.pages moment = .ofSnapshot toggledManager := fun moment =>
    congrArg FixedPage.ofSnapshot (ite_self _)
  have offers : offered? [.all, .toggle, .features] (.ofSnapshot toggledManager) = some .toggle := by decide +kernel
  obtain ⟨before, after, found, result, last, refuses, carries, comes⟩ := optOut_takes_offered .usual positive start
  have toggle : found = some .toggle := by
    cases refuses.ends with
    | early _ _ there _ =>
        rw [still, offers] at there
        exact there.symm
    | late _ _ never =>
        have missed := never 0 (by decide)
        rw [still, offers] at missed
        cases missed
  exact ⟨positive, newer, isOpen, after, result, last, refuses.passes, toggle ▸ carries, comes 0 newer isOpen⟩

/-- Where the toggle only comes up between the last two moments, it is missed: the page offers it at the last moment,
and yet the choice is saved without it. -/
theorem optOut_misses_last :
    let start := Rehearsal.start (.start { toggledManager with failing := ["query_all"] })
      [(21900, [.heal ["query_all"]])] [] false
    let wait := start.playFlow 400 (waitForElement .usual ".type-modal" 20000)
    let play := start.playFlow 400 (optOut .usual 0)
    wait.2.world.clock = 20000 ∧
      (start.pages (20000 + Timings.usual.attemptsFor 2000 * Timings.usual.poll)).shows rejectToggle = true ∧
      toggledManager.first? rejectToggle = some 4 ∧
      toggledManager.first? ".sp_choice_type_SAVE_AND_EXIT" = some 5 ∧
      play.1 = some true ∧ play.2.world.page.clicks = [5] := by
  decide +kernel

end ConsentBanner.Sourcepoint
