import ConsentBanner.Proofs.Flow.Unfolding
import ConsentBanner.Proofs.Rehearsal.Played

/-!
# Rehearsals in which nothing happens by itself

Where the page stands still, nothing is planned and the host answers at once or never, a flow that is played
comes to what it unfolds to, at that time and with those clicks: `Flow.Unfolds.play`.
-/

set_option autoImplicit false

namespace ConsentBanner

theorem Awaits.heard {scene : Scene} {message : Outbound} {rest : List Outbound} {world : World}
    {entry : String × Option Json} (awaits : Awaits scene (message :: rest) world entry)
    (other : ∀ code, message = .evalRequest entry.1 code → scene.answer? code = none) :
    Awaits scene rest world entry := by
  cases awaits with
  | answered has closed => exact .answered has closed
  | waiting unanswered pending told asked =>
      refine .waiting unanswered pending (fun code member => told code (List.mem_cons_of_mem _ member))
        fun some => ?_
      obtain ⟨code, member⟩ := asked some
      rcases List.mem_cons.mp member with same | later
      · have is := told code member
        rw [other code same.symm] at is
        exact absurd is.symm some
      · exact ⟨code, later⟩

/-- What was clicked so far. -/
def World.clicks (world : World) : List NodeId := world.page.clicks

namespace Rehearsal

/-- What page script is answered with. -/
def answer? (rehearsal : Rehearsal) (code : String) : Option Json :=
  if rehearsal.hasHost then
    match rehearsal.replies.get? code with
    | none => some ((rehearsal.world.page.scripts.get? code).getD (.bool false))
    | some .never => none
    | some (.value value _ _) => some value
  else none

/-- Nothing follows a click, no call fails, nothing is planned and all answers are given at once.  Requests
have numbers that were given out, and no more messages were heard than sent. -/
structure IsStill (rehearsal : Rehearsal) : Prop where
  hooks : rehearsal.world.page.hooks = []
  failing : rehearsal.world.page.failing = []
  agenda : rehearsal.agenda = []
  prompt : ∀ code value delay twice,
    rehearsal.replies.get? code = some (.value value delay twice) → delay = none
  numbered : rehearsal.world.Numbered
  heard : rehearsal.seen ≤ rehearsal.world.sent.length

/-- What a rehearsal shows where nothing happens by itself. -/
def scene (rehearsal : Rehearsal) (timings : Timings) (still : rehearsal.IsStill) : Scene :=
  { page := rehearsal.world.page, timings := timings, answer? := rehearsal.answer?, hooks := still.hooks,
    failing := still.failing }

structure Shows (scene : Scene) (rehearsal : Rehearsal) : Prop where
  looks : scene.page.Looks rehearsal.world.page
  agenda : rehearsal.agenda = []
  prompt : ∀ code value delay twice,
    rehearsal.replies.get? code = some (.value value delay twice) → delay = none
  answers : ∀ code, rehearsal.answer? code = scene.answer? code

theorem Shows.onto {scene : Scene} {rehearsal : Rehearsal} {world : World} (shows : rehearsal.Shows scene)
    (looks : scene.page.Looks world.page) : Shows scene { rehearsal with world := world } := by
  refine ⟨looks, shows.agenda, shows.prompt, fun code => ?_⟩
  rw [← shows.answers, answer?, answer?, looks.scripts, shows.looks.scripts]

/-! ## The host answers -/

/-- A request was answered, and nothing else has happened. -/
structure Told (scene : Scene) (id : String) (value : Json) (before after : Rehearsal) : Prop where
  shows : after.Shows scene
  clicks : after.world.page.clicks = before.world.page.clicks
  sent : after.world.sent = before.world.sent
  opened : after.world.bridge.opened = before.world.bridge.opened
  bridge : ∃ place, after.world.bridge = (before.world.bridge.resolve id value place).2

theorem told_give {scene : Scene} {rehearsal : Rehearsal} (shows : rehearsal.Shows scene) (id : String)
    (value : Json) : Told scene id value rehearsal (rehearsal.give id value) := by
  refine ⟨⟨shows.looks, shows.agenda, shows.prompt, shows.answers⟩, rfl, rfl, ?_, _, rfl⟩
  change (rehearsal.world.bridge.resolve id value rehearsal.world.order).2.opened = _
  unfold Bridge.resolve
  split <;> rfl

/-- An answer that was given already is refused. -/
theorem Told.again {scene : Scene} {id : String} {value : Json} {before after : Rehearsal}
    (told : Told scene id value before after) : Told scene id value before (after.give id value) := by
  have again := told_give told.shows id value
  obtain ⟨place, bridge⟩ := told.bridge
  -- The first answer has closed the request.
  have closed : id ∉ after.world.bridge.pending := bridge ▸ (Bridge.resolve_concerns _ id value place).closed
  refine ⟨again.shows, again.clicks.trans told.clicks, again.sent.trans told.sent,
    again.opened.trans told.opened, place, ?_⟩
  obtain ⟨other, refused⟩ := again.bridge
  rw [refused, Bridge.resolve_of_not_mem closed, bridge]

theorem told_giveFromPage {scene : Scene} {rehearsal : Rehearsal} (shows : rehearsal.Shows scene)
    (id code : String) :
    Told scene id ((rehearsal.world.page.scripts.get? code).getD (.bool false)) rehearsal
      (rehearsal.giveFromPage id code) := by
  have failing : rehearsal.world.page.failing = [] := shows.looks.failing.trans scene.failing
  have clicks : (rehearsal.world.page.record (.evaluate code)).clicks = rehearsal.world.page.clicks := by
    rw [Snapshot.clicks, Snapshot.record, List.filterMap_append]
    exact List.append_nil _
  have looks : scene.page.Looks (rehearsal.world.page.record (.evaluate code)) :=
    shows.looks.trans ⟨rfl, rfl, rfl, rfl, rfl, rfl⟩
  have seen : Shows scene { rehearsal with
      world := { rehearsal.world with page := rehearsal.world.page.record (.evaluate code) } } :=
    ⟨looks, shows.agenda, shows.prompt, shows.answers⟩
  have given := fun value => told_give seen id value
  have performed : rehearsal.world.page.perform (.evaluate code) =
      rehearsal.world.page.reply (.evaluate code) := by
    rw [Snapshot.perform, failing]
    rfl
  have scripts : (rehearsal.world.page.record (.evaluate code)).scripts = rehearsal.world.page.scripts := rfl
  rw [giveFromPage, performed, Snapshot.reply, scripts]
  cases rehearsal.world.page.scripts.get? code with
  | some value => exact ⟨(given value).shows, clicks, rfl, (given value).opened, (given value).bridge⟩
  | none =>
      have given := given (.bool false)
      exact ⟨given.shows, clicks, rfl, given.opened, given.bridge⟩

theorem told_hear {scene : Scene} {rehearsal : Rehearsal} (shows : rehearsal.Shows scene) {id code : String}
    {value : Json} (answer : scene.answer? code = some value) :
    Told scene id value rehearsal (rehearsal.hear (.evalRequest id code)) := by
  rw [← shows.answers, answer?] at answer
  cases hasHost : rehearsal.hasHost with
  | false => simp [hasHost] at answer
  | true =>
      simp only [hasHost, if_true] at answer
      simp only [hear, hasHost, if_true, serve]
      cases known : rehearsal.replies.get? code with
      | none =>
          rw [known] at answer
          cases answer
          exact told_giveFromPage shows id code
      | some reply =>
          rw [known] at answer
          cases reply with
          | never => cases answer
          | value value' delay twice =>
              cases answer
              obtain rfl := shows.prompt code value delay twice known
              have once := told_give shows id value
              cases twice with
              | false => exact once
              | true => exact once.again

theorem hear_unanswered {scene : Scene} {rehearsal : Rehearsal} (shows : rehearsal.Shows scene)
    {id code : String} (unanswered : scene.answer? code = none) :
    rehearsal.hear (.evalRequest id code) = rehearsal := by
  rw [← shows.answers, answer?] at unanswered
  cases hasHost : rehearsal.hasHost with
  | false => simp [hear, hasHost]
  | true =>
      simp only [hasHost, if_true] at unanswered
      simp only [hear, hasHost, if_true, serve]
      cases known : rehearsal.replies.get? code with
      | none => rw [known] at unanswered; cases unanswered
      | some reply =>
          rw [known] at unanswered
          cases reply with
          | never => rfl
          | value value delay twice => cases unanswered

theorem Told.mentions {scene : Scene} {id other : String} {value : Json} {before after : Rehearsal}
    (told : Told scene id value before after) (mentioned : after.world.Mentions other) :
    before.world.Mentions other := by
  obtain ⟨place, bridge⟩ := told.bridge
  have concerns := before.world.bridge.resolve_concerns id value place
  rw [World.Mentions, bridge, told.sent] at mentioned
  by_cases apart : other = id
  · subst apart
    rcases mentioned with pending | answered | asked
    · exact absurd pending concerns.closed
    · by_cases pending : other ∈ before.world.bridge.pending
      · exact .inl pending
      · rw [Bridge.resolve_of_not_mem pending] at answered
        exact .inr (.inl answered)
    · exact .inr (.inr asked)
  · obtain ⟨answer, isPending⟩ := concerns.others other apart
    rw [isPending, answer] at mentioned
    exact mentioned

theorem Told.awaits {scene : Scene} {id code : String} {value : Json} {before after : Rehearsal}
    {rest : List Outbound} {entry : String × Option Json} (told : Told scene id value before after)
    (awaits : Awaits scene (.evalRequest id code :: rest) before.world entry)
    (answer : scene.answer? code = some value) : Awaits scene rest after.world entry := by
  obtain ⟨place, bridge⟩ := told.bridge
  have concerns := before.world.bridge.resolve_concerns id value place
  by_cases apart : entry.1 = id
  · subst apart
    cases awaits with
    | answered has closed =>
        rw [Bridge.resolve_of_not_mem closed] at bridge
        simp only at bridge
        rw [← bridge] at has closed
        exact .answered has closed
    | @waiting name _ _ pending isTold _ =>
        obtain rfl := (isTold code List.mem_cons_self).symm.trans answer
        rw [← bridge] at concerns
        have given : after.world.bridge.answer? name = some (value, place) := by
          rw [bridge, Bridge.resolve_of_mem pending]
          exact Keyed.get?_put_self _ _ _
        exact .answered given concerns.closed
  · obtain ⟨same, isPending⟩ := concerns.others entry.1 apart
    have heard := awaits.heard fun code' is => absurd (Outbound.evalRequest.inj is).1.symm apart
    rw [← bridge] at same isPending
    cases heard with
    | answered has closed => exact .answered (same.trans has) (mt isPending.mp closed)
    | waiting unanswered pending isTold asked =>
        exact .waiting (same.trans unanswered) (isPending.mpr pending) isTold asked

/-- What is known while messages are heard one after the other. -/
structure Hears (scene : Scene) (todo : List Outbound) (asked : Asked) (before rehearsal : Rehearsal) : Prop where
  shows : rehearsal.Shows scene
  numbered : rehearsal.world.Numbered
  clicks : rehearsal.world.page.clicks = before.world.page.clicks
  awaits : ∀ entry ∈ asked, Awaits scene todo rehearsal.world entry

theorem Hears.hear {scene : Scene} {message : Outbound} {rest : List Outbound} {asked : Asked}
    {before rehearsal : Rehearsal} (hears : Hears scene (message :: rest) asked before rehearsal) :
    Hears scene rest asked before (rehearsal.hear message) := by
  have passed : (∀ id code, message = .evalRequest id code → scene.answer? code = none) →
      Hears scene rest asked before rehearsal := fun other =>
    ⟨hears.shows, hears.numbered, hears.clicks, fun entry member =>
      (hears.awaits entry member).heard (other entry.1)⟩
  cases message with
  | evalRequest id code =>
      cases answer : scene.answer? code with
      | none =>
          rw [hear_unanswered hears.shows answer]
          refine passed fun _ _ same => ?_
          obtain ⟨-, rfl⟩ := Outbound.evalRequest.inj same
          exact answer
      | some value =>
          have told : Told scene id value rehearsal _ := told_hear hears.shows answer
          refine ⟨told.shows, fun other mentioned => ?_, told.clicks.trans hears.clicks, fun entry member => ?_⟩
          · rw [told.opened]
            exact hears.numbered other (told.mentions mentioned)
          · exact told.awaits (hears.awaits entry member) answer
  | _ => exact passed fun _ _ => nofun

theorem Hears.hearEach {scene : Scene} {todo : List Outbound} {asked : Asked} {before rehearsal : Rehearsal}
    (hears : Hears scene todo asked before rehearsal) : Hears scene [] asked before (todo.foldl Rehearsal.hear rehearsal) :=
    by
  induction todo generalizing rehearsal with
  | nil => exact hears
  | cons message rest ih => exact ih hears.hear

/-- All messages were heard, and nothing else has happened. -/
structure Heard (scene : Scene) (asked : Asked) (before after : Rehearsal) : Prop where
  shows : after.Shows scene
  stands : Stands scene after.seen after.world asked
  clicks : after.world.page.clicks = before.world.page.clicks
  clock : after.world.clock = before.world.clock
  awaits : ∀ entry ∈ asked, Awaits scene [] after.world entry

theorem heard_hearAll {scene : Scene} {asked : Asked} {rehearsal : Rehearsal} (shows : rehearsal.Shows scene)
    (stands : Stands scene rehearsal.seen rehearsal.world asked) : Heard scene asked rehearsal rehearsal.hearAll := by
  have goesOn := goesOn_hearAll rehearsal
  have sent : rehearsal.hearAll.world.sent = rehearsal.world.sent := sent_of_ledger goesOn.ledger
  have seen : rehearsal.hearAll.seen = rehearsal.hearAll.world.sent.length :=
    goesOn.seen.trans (congrArg List.length sent).symm
  have begins : Hears scene (rehearsal.world.sent.drop rehearsal.seen) asked rehearsal
      { rehearsal with seen := rehearsal.world.sent.length } :=
    ⟨⟨shows.looks, shows.agenda, shows.prompt, shows.answers⟩, stands.numbered, rfl, stands.awaits⟩
  have hears : Hears scene [] asked rehearsal rehearsal.hearAll := begins.hearEach
  refine ⟨hears.shows, ⟨hears.shows.looks, hears.numbered, seen.le, stands.apart, ?_⟩, hears.clicks, goesOn.clock,
    hears.awaits⟩
  rw [seen, List.drop_length]
  exact hears.awaits

/-! ## Flows are played as they unfold -/

variable {α : Type} {scene : Scene} {asked : Asked} {value : α} {last : Nat} {clicks : Clicks}
  {rehearsal later : Rehearsal} {flow : Flow α}

/-- A flow is on its way in a rehearsal in which nothing happens by itself. -/
structure Poised (scene : Scene) (flow : Flow α) (asked : Asked) (value : α) (last : Nat) (clicks : Clicks)
    (rehearsal : Rehearsal) : Prop where
  shows : rehearsal.Shows scene
  stands : Stands scene rehearsal.seen rehearsal.world asked
  unfolds : flow.Unfolds scene rehearsal.world.clock asked value last clicks

theorem Shows.isStill (shows : rehearsal.Shows scene) (numbered : rehearsal.world.Numbered)
    (heard : rehearsal.seen ≤ rehearsal.world.sent.length) : rehearsal.IsStill :=
  ⟨shows.looks.hooks.trans scene.hooks, shows.looks.failing.trans scene.failing, shows.agenda, shows.prompt, numbered,
    heard⟩

/-- The host is heard and time passes, and the flow is on its way as before. -/
theorem Poised.proceeds (poised : Poised scene flow asked value last clicks rehearsal)
    (proceeds : Proceeds rehearsal.hearAll flow later) :
    Poised scene flow asked value last clicks later ∧ later.world.page.clicks = rehearsal.world.page.clicks := by
  have heard := heard_hearAll poised.shows poised.stands
  have unfolds := heard.clock ▸ poised.unfolds
  generalize rehearsal.hearAll = hearing at heard unfolds proceeds
  cases proceeds with
  | ready => exact ⟨⟨heard.shows, heard.stands, unfolds⟩, heard.clicks⟩
  | due waits due =>
      rw [heard.shows.agenda] at due
      cases due
  | @time due waits idle next =>
      rw [heard.shows.agenda] at next
      have sleeps : flow.nextDue = some due := (Flow.earlier_eq_some next).resolve_right nofun
      have inTime : ∀ other, flow.nextDue = some other → due ≤ other := fun other wakes =>
        (Option.some.inj (sleeps.symm.trans wakes)).le
      have onward := unfolds.elapse heard.awaits waits (unfolds.early sleeps) inTime
      exact ⟨⟨⟨heard.shows.looks, heard.shows.agenda, heard.shows.prompt, heard.shows.answers⟩,
        heard.stands.same heard.shows.looks rfl rfl, onward⟩, heard.clicks⟩

/-- What is played comes to what it unfolds to, at that time and with those clicks, and leaves a rehearsal in
which nothing happens by itself. -/
structure Performs (value : α) (last : Nat) (clicks : Clicks) (rehearsal : Rehearsal) (flow : Flow α) (fuel : Nat) :
    Prop where
  value : (playFlow fuel rehearsal flow).1 = some value
  clock : (playFlow fuel rehearsal flow).2.world.clock = last
  clicks : logged World.clicks rehearsal flow fuel ∈ clicks
  log : (playFlow fuel rehearsal flow).2.world.clicks =
    rehearsal.world.clicks ++ (logged World.clicks rehearsal flow fuel).map Prod.snd
  still : (playFlow fuel rehearsal flow).2.IsStill

/-- A flow that is on its way and comes to a value comes to that which it unfolds to. -/
theorem Poised.performs {result : α} {after : Rehearsal} (fuel : Nat) : ∀ {rehearsal : Rehearsal} {flow : Flow α}
    {asked : Asked} {clicks : Clicks}, Poised scene flow asked value last clicks rehearsal →
      playFlow fuel rehearsal flow = (some result, after) → Performs value last clicks rehearsal flow fuel := by
  induction fuel with
  | zero => exact fun _ played => by cases played
  | succ fuel ih =>
      intro rehearsal flow asked clicks poised played
      -- What this run clicks comes before all that is still to come, which the hypothesis is about.
      have clock := Flow.run_clock flow rehearsal.world
      obtain ⟨asked', clicked, rest, brings⟩ := poised.unfolds.comesOn rehearsal.world [] rfl
        ((List.append_nil asked).symm ▸ poised.stands)
      generalize runs : flow.run rehearsal.world = moving at clock brings
      obtain ⟨moved, world⟩ := moving
      have soFar : world.clicks = rehearsal.world.clicks ++ clicked := brings.log
      have onwards : ∀ entries ∈ rest,
          (clicked.map fun node => (rehearsal.world.clock, node)) ++ entries ∈ clicks := fun entries member =>
        brings.all (Language.append_mem_mul rfl member)
      have shows := poised.shows.onto brings.stands.looks
      rcases playFlow_cases runs played with ⟨rfl, rfl⟩ | ⟨pending, later, proceeds, onward⟩
      · obtain ⟨rfl, rfl, rfl, rfl⟩ := brings.unfolds.ofDone
        have done : ∀ fuel, playFlow (fuel + 1) rehearsal flow =
            (some result, { rehearsal with world := world }) := by
          intro fuel
          simp only [playFlow, runs, Flow.value?]
        refine ⟨by rw [done], by rw [done]; exact clock, ?_, ?_, ?_⟩
        · rw [logged_done done, stamped_eq soFar, ← List.append_nil (clicked.map _)]
          exact onwards [] rfl
        · rw [done, logged_done done]
          exact snd_stamped ⟨clicked, soFar.symm⟩
        · rw [done]
          exact shows.isStill brings.stands.numbered brings.stands.within
      · have further := proceeds.play runs pending
        have between : Poised scene moved asked' value last rest { rehearsal with world := world } :=
          ⟨shows, List.append_nil asked' ▸ brings.stands, clock ▸ brings.unfolds⟩
        obtain ⟨still, same⟩ := between.proceeds proceeds
        have performs := ih still onward
        have grew : later.world.clicks = rehearsal.world.clicks ++ clicked := same.trans soFar
        refine ⟨further fuel ▸ performs.value, further fuel ▸ performs.clock, ?_, ?_, further fuel ▸ performs.still⟩
        · rw [logged_further further, stamped_eq grew]
          exact onwards _ performs.clicks
        · rw [logged_further further, further, performs.log, List.map_append, ← List.append_assoc]
          exact congrArg (· ++ _) (snd_stamped ⟨clicked, grew.symm⟩)

end Rehearsal

end ConsentBanner
