import ConsentBanner.Proofs.Flow.Turn
import ConsentBanner.Proofs.Lists
import Mathlib.Data.List.Forall2

/-!
# Flows that play their part

A flow relies on what others may do to the ledger while it waits, and guarantees what it does itself
from one such place to the next.  `Flow.Obeys` says that it keeps to this and ends with an outcome, by
recursion over the flow; flows side by side rely on each other's guarantees.  Main statement:
`Turn.keeps`, every turn of a flow that plays its part is as guaranteed and leaves a flow that does.
-/

set_option autoImplicit false

namespace ConsentBanner

abbrev Law : Type := Ledger → Ledger → Prop

/-- The part that one of several flows plays. -/
structure Part (α : Type) where
  /-- What the others may do. -/
  rely : Law
  /-- What the flow itself may do between two places where it gives way. -/
  guar : Law
  /-- What holds from the end of the flow on, by its value. -/
  goal : α → Ledger → Prop
  rely_refl : ∀ ledger, rely ledger ledger
  rely_trans : ∀ {a b c}, rely a b → rely b c → rely a c
  guar_refl : ∀ ledger, guar ledger ledger
  goal_keeps : ∀ {value a b}, goal value a → rely a b → goal value b

namespace Part

variable {α β : Type}

/-- What a flow has to show at its end, with the ledger where it gave way last. -/
def Ends (part : Part α) (value : α) (since now : Ledger) : Prop :=
  part.guar since now ∧ part.goal value now

structure Within (part : Part α) (rely guar : Law) : Prop where
  rely : ∀ {a b}, rely a b → part.rely a b
  guar : ∀ {a b}, part.guar a b → guar a b

/-- Two parts that can be played side by side. -/
structure Beside (part : Part α) (other : Part β) : Prop where
  left : ∀ {a b}, part.guar a b → other.rely a b
  right : ∀ {a b}, other.guar a b → part.rely a b

/-- The parts of two flows that run side by side. -/
structure Pair (rely guar : Law) (one : Part α) (two : Part β) : Prop where
  left : one.Within rely guar
  right : two.Within rely guar
  beside : one.Beside two

/-- Something known stays true whatever a law allows. -/
def Keeps (law : Law) (known : Ledger → Prop) : Prop := ∀ {a b}, known a → law a b → known b

/-- The parts of a race: those of the lanes and the lead that the winner takes. -/
structure Race (rely guar : Law) (known : Ledger → Prop) (lead : Part Bool)
    (lanes : List (Part Bool)) : Prop where
  within : ∀ part ∈ lead :: lanes, part.Within rely guar
  beside : (lead :: lanes).Pairwise Beside
  knownRely : Keeps rely known
  knownGuar : ∀ part ∈ lead :: lanes, Keeps part.guar known

/-- Something is known as long as the winner of a race has not started. -/
structure Unled (rely : Law) (unled : Ledger → Prop) (lanes : List (Part Bool)) : Prop where
  rely : Keeps rely unled
  guar : ∀ part ∈ lanes, Keeps part.guar unled

end Part

namespace Flow

mutual

/-- A flow keeps to a law and ends with an outcome if others keep to theirs.  The ledgers are that of
the last place where it gave way and that of now. -/
def Obeys {α : Type} (rely guar : Law) (ends : α → Law) : Flow α → Law
  | .done value, since, now => ends value since now
  | .ask (β := β) request next, since, now =>
    if request.givesWay then
      guar since now ∧
        ∀ (later : Ledger) (reply : β), rely now later → Obeys rely guar ends (next reply) later later
    else
      ∀ (reply : β) (after : Ledger), now.MayReply request reply after →
        Obeys rely guar ends (next reply) since after
  | .sleep _ next, since, now =>
    guar since now ∧ ∀ later, rely now later → Obeys rely guar ends next later later
  | .asleep _ _ next, since, now =>
    guar since now ∧ ∀ later, rely now later → Obeys rely guar ends next later later
  | .await _ next, since, now =>
    guar since now ∧
      ∀ later reply, rely now later → Obeys rely guar ends (next reply) later later
  | .both (β := β) (γ := γ) left right next, since, now =>
    guar since now ∧ ∃ (one : Part β) (two : Part γ),
      Part.Pair rely guar one two ∧
      (∀ later, one.rely now later → Obeys one.rely one.guar one.Ends left later later) ∧
      (∀ later, two.rely now later → Obeys two.rely two.guar two.Ends right later later) ∧
      ∀ a b later, one.goal a later → two.goal b later →
        Obeys rely guar ends (next a b) later later
  | .first (β := β) left right next, since, now =>
    guar since now ∧ ∃ (one : Part β) (two : Part β),
      Part.Pair rely guar one two ∧
      (∀ later, one.rely now later → Obeys one.rely one.guar one.Ends left later later) ∧
      (∀ later, two.rely now later → Obeys two.rely two.guar two.Ends right later later) ∧
      ∀ a later, one.goal a later ∨ two.goal a later → Obeys rely guar ends (next a) later later
  | .race lanes started winner next, since, now =>
    guar since now ∧ ∃ (known : Ledger → Prop) (lead : Part Bool) (parts : List (Part Bool)),
      known now ∧ Part.Race rely guar known lead parts ∧ LanesObey lanes parts now ∧
      (started = true →
        ∀ later, lead.rely now later → Obeys lead.rely lead.guar lead.Ends winner later later) ∧
      (started = false → ∃ unled : Ledger → Prop, unled now ∧ Part.Unled rely unled parts ∧
        (∀ part ∈ parts, ∀ won later, unled won → part.goal true won → lead.rely won later →
          Obeys lead.rely lead.guar lead.Ends winner later later) ∧
        ∀ later, unled later → (∀ part ∈ parts, part.goal false later) →
          Obeys rely guar ends (next none) later later) ∧
      ∀ value later, known later → (∀ part ∈ parts, ∃ result, part.goal result later) →
        lead.goal value later → Obeys rely guar ends (next (some value)) later later

/-- The lanes of a race play their parts. -/
def LanesObey : List (Flow Bool) → List (Part Bool) → Ledger → Prop
  | [], [], _ => True
  | lane :: rest, part :: parts, now =>
    (∀ later, part.rely now later → Obeys part.rely part.guar part.Ends lane later later) ∧
      LanesObey rest parts now
  | _, _, _ => False

end

end Flow

namespace Part

variable {α β : Type}

/-- A flow plays its part whenever it goes on. -/
def Holds (part : Part α) (flow : Flow α) (now : Ledger) : Prop :=
  ∀ later, part.rely now later → flow.Obeys part.rely part.guar part.Ends later later

theorem Holds.now {part : Part α} {flow : Flow α} {now : Ledger} (holds : part.Holds flow now) :
    flow.Obeys part.rely part.guar part.Ends now now :=
  holds now (part.rely_refl now)

theorem Holds.later {part : Part α} {flow : Flow α} {now later : Ledger} (holds : part.Holds flow now)
    (relied : part.rely now later) : part.Holds flow later :=
  fun _ further => holds _ (part.rely_trans relied further)

theorem Holds.goal {part : Part α} {value : α} {now : Ledger} (holds : part.Holds (.done value) now) :
    part.goal value now :=
  holds.now.2

/-- When the left one of two flows has moved, both play their parts. -/
theorem Pair.leftMoves {rely guar : Law} {one : Part α} {two : Part β} {left moved : Flow α}
    {right : Flow β} {before later : Ledger} (pair : Pair rely guar one two)
    (keeps : ∀ {part : Part α}, part.Holds left before →
      part.guar before later ∧ part.Holds moved later)
    (holds : one.Holds left before) (other : two.Holds right before) :
    guar before later ∧ one.Holds moved later ∧ two.Holds right later := by
  obtain ⟨did, after⟩ := keeps holds
  exact ⟨pair.left.guar did, after, other.later (pair.beside.left did)⟩

/-- When the right one of two flows has moved, both play their parts. -/
theorem Pair.rightMoves {rely guar : Law} {one : Part α} {two : Part β} {left : Flow α}
    {right moved : Flow β} {before later : Ledger} (pair : Pair rely guar one two)
    (keeps : ∀ {part : Part β}, part.Holds right before →
      part.guar before later ∧ part.Holds moved later)
    (holds : two.Holds right before) (other : one.Holds left before) :
    guar before later ∧ two.Holds moved later ∧ one.Holds left later := by
  obtain ⟨did, after⟩ := keeps holds
  exact ⟨pair.right.guar did, after, other.later (pair.beside.right did)⟩

theorem Race.lead {rely guar : Law} {known : Ledger → Prop} {lead : Part Bool}
    {lanes : List (Part Bool)} (race : Race rely guar known lead lanes) : lead.Within rely guar :=
  race.within lead List.mem_cons_self

theorem Race.aside {rely guar : Law} {known : Ledger → Prop} {lead part : Part Bool}
    {before after : List (Part Bool)} (race : Race rely guar known lead (before ++ part :: after)) :
    lead.Beside part ∧ (∀ other ∈ before, other.Beside part) ∧
      ∀ other ∈ after, part.Beside other := by
  have beside := race.beside
  rw [List.pairwise_cons, List.pairwise_append, List.pairwise_cons] at beside
  obtain ⟨withLead, _, ⟨behind, _⟩, across⟩ := beside
  exact ⟨withLead part (by simp), fun other member => across other member part (by simp), behind⟩

theorem Race.lane {rely guar : Law} {known : Ledger → Prop} {lead : Part Bool}
    {lanes : List (Part Bool)} (race : Race rely guar known lead lanes) {part : Part Bool}
    (member : part ∈ lanes) : part.Within rely guar :=
  race.within part (List.mem_cons_of_mem _ member)

/-- Each lane relies on the winner and on the other lanes. -/
theorem Race.relies {rely guar : Law} {known : Ledger → Prop} {lead own : Part Bool}
    {before after : List (Part Bool)} (race : Race rely guar known lead (before ++ own :: after)) :
    ∀ part ∈ lead :: (before ++ after), ∀ {a b}, part.guar a b → own.rely a b := by
  obtain ⟨besideLead, besideBefore, besideAfter⟩ := race.aside
  intro part member
  rcases List.mem_cons.mp member with rfl | member
  · exact besideLead.left
  · rcases List.mem_append.mp member with member | member
    · exact (besideBefore part member).left
    · exact (besideAfter part member).right

/-- A race goes on without a lane that is done; what that has come to is known. -/
theorem Race.without {rely guar : Law} {known : Ledger → Prop} {lead own : Part Bool}
    {before after : List (Part Bool)} (race : Race rely guar known lead (before ++ own :: after))
    (value : Bool) :
    Race rely guar (fun ledger => known ledger ∧ own.goal value ledger) lead (before ++ after) := by
  have sub : (lead :: (before ++ after)).Sublist (lead :: (before ++ own :: after)) := by simp
  have relies := race.relies
  refine ⟨fun part member => race.within part (sub.subset member), race.beside.sublist sub, ?_, ?_⟩
  · intro a b knows relied
    exact ⟨race.knownRely knows.1 relied,
      own.goal_keeps knows.2 ((race.lane (by simp)).rely relied)⟩
  · intro part member a b knows did
    exact ⟨race.knownGuar part (sub.subset member) knows.1 did,
      own.goal_keeps knows.2 (relies part member did)⟩

/-- What is known without a winner, and what a lane has come to. -/
theorem Unled.without {rely guar : Law} {known unled : Ledger → Prop} {lead own : Part Bool}
    {before after : List (Part Bool)} (keeps : Unled rely unled (before ++ own :: after))
    (race : Race rely guar known lead (before ++ own :: after)) (value : Bool) :
    Unled rely (fun ledger => unled ledger ∧ own.goal value ledger) (before ++ after) := by
  have stable := race.relies
  refine ⟨fun knows relied => ⟨keeps.rely knows.1 relied,
    own.goal_keeps knows.2 ((race.lane (by simp)).rely relied)⟩, fun part member _ _ knows did => ?_⟩
  have within : part ∈ before ++ own :: after := subset_insert own before after member
  exact ⟨keeps.guar part within knows.1 did,
    own.goal_keeps knows.2 (stable part (List.mem_cons_of_mem _ member) did)⟩

end Part

namespace Flow

theorem lanesObey_iff (now : Ledger) : ∀ (lanes : List (Flow Bool)) (parts : List (Part Bool)),
    LanesObey lanes parts now ↔ List.Forall₂ (fun lane part => part.Holds lane now) lanes parts := by
  intro lanes
  induction lanes with
  | nil =>
      intro parts
      cases parts <;> simp [LanesObey]
  | cons lane rest ih =>
      intro parts
      cases parts with
      | nil => simp [LanesObey]
      | cons part parts => simp only [LanesObey, List.forall₂_cons, ih parts, Part.Holds]

theorem lanesObey_map {γ : Type*} {now : Ledger} {lane : γ → Flow Bool} {part : γ → Part Bool} :
    ∀ {members : List γ}, (∀ member ∈ members, (part member).Holds (lane member) now) →
      LanesObey (members.map lane) (members.map part) now := by
  intro members
  induction members with
  | nil => exact fun _ => trivial
  | cons member rest ih =>
      intro holds
      exact ⟨holds member List.mem_cons_self,
        ih fun other within => holds other (List.mem_cons_of_mem _ within)⟩

theorem LanesObey.later {now later : Ledger} {lanes : List (Flow Bool)} {parts : List (Part Bool)}
    (obey : LanesObey lanes parts now) (relied : ∀ part ∈ parts, part.rely now later) :
    LanesObey lanes parts later := by
  rw [lanesObey_iff] at obey ⊢
  induction obey with
  | nil => exact .nil
  | cons holds _ ih =>
      refine .cons (holds.later (relied _ List.mem_cons_self)) (ih fun part member => ?_)
      exact relied part (List.mem_cons_of_mem _ member)

theorem LanesObey.split {now : Ledger} {ahead behind : List (Flow Bool)} {lane : Flow Bool}
    {parts : List (Part Bool)} (obey : LanesObey (ahead ++ lane :: behind) parts now) :
    ∃ before part after, parts = before ++ part :: after ∧ LanesObey ahead before now ∧
      part.Holds lane now ∧ LanesObey behind after now := by
  induction ahead generalizing parts with
  | nil =>
      cases parts with
      | nil => exact obey.elim
      | cons part after => exact ⟨[], part, after, rfl, trivial, obey.1, obey.2⟩
  | cons first ahead ih =>
      cases parts with
      | nil => exact obey.elim
      | cons own parts =>
          obtain ⟨before, part, after, rfl, holdsBefore, holds, holdsAfter⟩ := ih obey.2
          exact ⟨own :: before, part, after, rfl, ⟨obey.1, holdsBefore⟩, holds, holdsAfter⟩

theorem LanesObey.append {now : Ledger} {ahead behind : List (Flow Bool)}
    {before after : List (Part Bool)} (first : LanesObey ahead before now)
    (second : LanesObey behind after now) : LanesObey (ahead ++ behind) (before ++ after) now := by
  induction ahead generalizing before with
  | nil =>
      cases before with
      | nil => exact second
      | cons _ _ => exact first.elim
  | cons lane ahead ih =>
      cases before with
      | nil => exact first.elim
      | cons part before => exact ⟨first.1, ih first.2⟩

theorem Burst.obeys {α : Type} {rely guar : Law} {ends : α → Law} {flow after : Flow α}
    {since before later : Ledger} (burst : Burst flow before after later)
    (obeys : flow.Obeys rely guar ends since before) : after.Obeys rely guar ends since later := by
  induction burst with
  | rest => exact obeys
  | ask goesOn replied _ ih =>
      simp only [Obeys, goesOn, Bool.false_eq_true, if_false] at obeys
      exact ih (obeys _ _ replied)

theorem Obeys.pause {α : Type} {part : Part α} {flow : Flow α} {since now : Ledger}
    (waits : flow.givesWay = true) (obeys : flow.Obeys part.rely part.guar part.Ends since now) :
    part.guar since now ∧ part.Holds flow now := by
  cases flow with
  | done value =>
      refine ⟨obeys.1, fun later relied => ⟨part.guar_refl later, ?_⟩⟩
      exact part.goal_keeps obeys.2 relied
  | ask request next =>
      have page : request.givesWay = true := waits
      simp only [Obeys, page, if_true] at obeys
      refine ⟨obeys.1, fun later relied => ?_⟩
      simp only [Obeys, page, if_true]
      exact ⟨part.guar_refl later, fun further reply relied' =>
        obeys.2 further reply (part.rely_trans relied relied')⟩
  | sleep time next =>
      refine ⟨obeys.1, fun later relied => ⟨part.guar_refl later, fun further relied' => ?_⟩⟩
      exact obeys.2 further (part.rely_trans relied relied')
  | asleep due order next =>
      refine ⟨obeys.1, fun later relied => ⟨part.guar_refl later, fun further relied' => ?_⟩⟩
      exact obeys.2 further (part.rely_trans relied relied')
  | await id next =>
      refine ⟨obeys.1, fun later relied => ⟨part.guar_refl later, fun further reply relied' => ?_⟩⟩
      exact obeys.2 further reply (part.rely_trans relied relied')
  | both left right next =>
      obtain ⟨kept, one, two, pair, left, right, onward⟩ := obeys
      refine ⟨kept, fun later relied => ⟨part.guar_refl later, one, two, pair, ?_, ?_, onward⟩⟩
      · exact Part.Holds.later left (pair.left.rely relied)
      · exact Part.Holds.later right (pair.right.rely relied)
  | first left right next =>
      obtain ⟨kept, one, two, pair, left, right, onward⟩ := obeys
      refine ⟨kept, fun later relied => ⟨part.guar_refl later, one, two, pair, ?_, ?_, onward⟩⟩
      · exact Part.Holds.later left (pair.left.rely relied)
      · exact Part.Holds.later right (pair.right.rely relied)
  | race lanes started winner next =>
      obtain ⟨kept, known, lead, parts, knows, race, obey, won, lost, onward⟩ := obeys
      refine ⟨kept, fun later relied => ⟨part.guar_refl later, known, lead, parts,
        race.knownRely knows relied, race, obey.later fun _ member => (race.lane member).rely relied,
        fun started => Part.Holds.later (won started) (race.lead.rely relied), fun unstarted => ?_,
        onward⟩⟩
      obtain ⟨unled, knew, keeps, rest⟩ := lost unstarted
      exact ⟨unled, keeps.rely knew relied, keeps, rest⟩

/-- A burst brings a flow from one place where it plays its part to the next. -/
theorem Burst.keeps {α : Type} {part : Part α} {flow after : Flow α} {before later : Ledger}
    (burst : Burst flow before after later)
    (obeys : flow.Obeys part.rely part.guar part.Ends before before) :
    part.guar before later ∧ part.Holds after later :=
  (burst.obeys obeys).pause burst.givesWay

section Race

variable {α : Type} {part : Part α} {ahead behind lanes : List (Flow Bool)} {lane moved winner : Flow Bool}
  {started : Bool} {next : Option Bool → Flow α} {before later ledger : Ledger}

theorem keeps_lane (keeps : ∀ {part : Part Bool}, part.Holds lane before →
      part.guar before later ∧ part.Holds moved later)
    (holds : part.Holds (.race (ahead ++ lane :: behind) started winner next) before) :
    part.guar before later ∧ part.Holds (.race (ahead ++ moved :: behind) started winner next) later := by
  obtain ⟨_, known, lead, parts, knows, race, obey, won, lost, onward⟩ := holds.now
  obtain ⟨before, own, after, rfl, ahead, lane, behind⟩ := obey.split
  obtain ⟨did, moved⟩ := keeps lane
  obtain ⟨besideLead, besideBefore, besideAfter⟩ := race.aside
  have member : own ∈ before ++ own :: after := by simp
  have lanes := (ahead.later fun other known => (besideBefore other known).right did).append
    (show LanesObey (_ :: _) (own :: after) _ from
      ⟨moved, behind.later fun other known => (besideAfter other known).left did⟩)
  have knows := race.knownGuar own (List.mem_cons_of_mem _ member) knows did
  refine ⟨(race.lane member).guar did, fun further relied => ⟨part.guar_refl further, known, lead,
    _, race.knownRely knows relied, race,
    lanes.later fun _ within => (race.lane within).rely relied,
    fun started => Part.Holds.later (Part.Holds.later (won started) (besideLead.right did))
      (race.lead.rely relied), fun unstarted => ?_, onward⟩⟩
  obtain ⟨unled, knew, keeps, rest⟩ := lost unstarted
  exact ⟨unled, keeps.rely (keeps.guar own member knew did) relied, keeps, rest⟩

/-- A lane has come to true, and the winner starts. -/
theorem keeps_win (member : .done true ∈ lanes) (holds : part.Holds (.race lanes false winner next) ledger) :
    part.guar ledger ledger ∧ part.Holds (.race lanes true winner next) ledger := by
  refine ⟨part.guar_refl ledger, fun further relied => ?_⟩
  obtain ⟨_, known, lead, parts, knows, race, obey, _, lost, onward⟩ := holds.now
  obtain ⟨ahead, behind, rfl⟩ := List.append_of_mem member
  obtain ⟨before, own, after, rfl, _, lane, _⟩ := obey.split
  obtain ⟨unled, knew, _, wins, _⟩ := lost rfl
  have starts : ∀ later, lead.rely ledger later → Obeys lead.rely lead.guar lead.Ends _ later later :=
    fun later => wins own (by simp) ledger later knew lane.goal
  exact ⟨part.guar_refl further, known, lead, _, race.knownRely knows relied, race,
    obey.later fun _ within => (race.lane within).rely relied,
    fun _ => Part.Holds.later starts (race.lead.rely relied), (nomatch ·), onward⟩

theorem keeps_leave {value : Bool} (noticed : value = true → started = true)
    (holds : part.Holds (.race (ahead ++ .done value :: behind) started winner next) ledger) :
    part.guar ledger ledger ∧ part.Holds (.race (ahead ++ behind) started winner next) ledger := by
  refine ⟨part.guar_refl ledger, fun further relied => ?_⟩
  obtain ⟨_, known, lead, parts, knows, race, obey, won, lost, onward⟩ := holds.now
  obtain ⟨before, own, after, rfl, ahead, lane, behind⟩ := obey.split
  -- What the lane has come to is known from now on.
  have fewer := race.without value
  refine ⟨part.guar_refl further, _, lead, before ++ after,
    fewer.knownRely ⟨knows, lane.goal⟩ relied, fewer,
    (ahead.append behind).later fun _ within => (fewer.lane within).rely relied,
    fun started => Part.Holds.later (won started) (race.lead.rely relied), ?_, ?_⟩
  · intro started
    have unwon : value = false := by
      by_contra wins
      simp [noticed (by simpa using wins)] at started
    subst unwon
    obtain ⟨unled, knew, keeps, wins, loses⟩ := lost started
    have without := keeps.without race false
    refine ⟨_, without.rely ⟨knew, lane.goal⟩ relied, without,
      fun other member won later knows => wins other (subset_insert own before after member) won later knows.1,
      fun later knows goals => loses later knows.1 fun other member => ?_⟩
    rcases mem_insert member with rfl | member
    · exact knows.2
    · exact goals other member
  · intro result later knows goals led
    refine onward result later knows.1 (fun other member => ?_) led
    rcases mem_insert member with rfl | member
    · exact ⟨value, knows.2⟩
    · exact goals other member

theorem keeps_winner (keeps : ∀ {part : Part Bool}, part.Holds winner before →
      part.guar before later ∧ part.Holds moved later)
    (holds : part.Holds (.race lanes true winner next) before) :
    part.guar before later ∧ part.Holds (.race lanes true moved next) later := by
  obtain ⟨_, known, lead, parts, knows, race, obey, won, lost, onward⟩ := holds.now
  obtain ⟨did, moved⟩ := keeps (won rfl)
  have first : lead ∈ lead :: parts := List.mem_cons_self
  have beside := (List.pairwise_cons.mp race.beside).1
  exact ⟨race.lead.guar did, fun further relied => ⟨part.guar_refl further, known, lead, parts,
    race.knownRely (race.knownGuar lead first knows did) relied, race,
    (obey.later fun other member => (beside other member).left did).later
      fun _ within => (race.lane within).rely relied,
    fun _ => moved.later (race.lead.rely relied), (nomatch ·), onward⟩⟩

end Race

/-- Every turn of a flow that plays its part is as guaranteed, and it plays its part afterwards. -/
theorem Turn.keeps {α : Type} {flow after : Flow α} {before later : Ledger}
    (turn : Turn flow before after later) :
    ∀ {part : Part α}, part.Holds flow before → part.guar before later ∧ part.Holds after later := by
  induction turn with
  | start _ burst => exact fun holds => burst.keeps holds.now
  | page reply burst => exact fun holds => burst.keeps (holds.now.2 _ reply (Part.rely_refl _ _))
  | lieDown ledger _ _ _ =>
      exact fun holds => ⟨Part.guar_refl _ ledger, holds⟩
  | skip _ burst => exact fun holds => burst.keeps (holds.now.2 _ (Part.rely_refl _ _))
  | wake _ _ burst => exact fun holds => burst.keeps (holds.now.2 _ (Part.rely_refl _ _))
  | answered reply burst => exact fun holds => burst.keeps (holds.now.2 _ reply (Part.rely_refl _ _))
  | left _ ih =>
      intro part holds
      obtain ⟨_, one, two, pair, left, right, onward⟩ := holds.now
      obtain ⟨did, moved, right⟩ := pair.leftMoves ih left right
      exact ⟨did, fun further relied => ⟨part.guar_refl further, one, two, pair,
        moved.later (pair.left.rely relied), right.later (pair.right.rely relied), onward⟩⟩
  | right _ ih =>
      intro part holds
      obtain ⟨_, one, two, pair, left, right, onward⟩ := holds.now
      obtain ⟨did, moved, left⟩ := pair.rightMoves ih right left
      exact ⟨did, fun further relied => ⟨part.guar_refl further, one, two, pair,
        left.later (pair.left.rely relied), moved.later (pair.right.rely relied), onward⟩⟩
  | join burst =>
      intro part holds
      obtain ⟨_, one, two, _, left, right, onward⟩ := holds.now
      exact burst.keeps (onward _ _ _ (Part.Holds.goal left) (Part.Holds.goal right))
  | either _ ih =>
      intro part holds
      obtain ⟨_, one, two, pair, left, right, onward⟩ := holds.now
      obtain ⟨did, moved, right⟩ := pair.leftMoves ih left right
      exact ⟨did, fun further relied => ⟨part.guar_refl further, one, two, pair,
        moved.later (pair.left.rely relied), right.later (pair.right.rely relied), onward⟩⟩
  | other _ ih =>
      intro part holds
      obtain ⟨_, one, two, pair, left, right, onward⟩ := holds.now
      obtain ⟨did, moved, left⟩ := pair.rightMoves ih right left
      exact ⟨did, fun further relied => ⟨part.guar_refl further, one, two, pair,
        left.later (pair.left.rely relied), moved.later (pair.right.rely relied), onward⟩⟩
  | leftFirst burst =>
      intro part holds
      obtain ⟨_, one, two, _, left, _, onward⟩ := holds.now
      exact burst.keeps (onward _ _ (.inl (Part.Holds.goal left)))
  | rightFirst burst =>
      intro part holds
      obtain ⟨_, one, two, _, _, right, onward⟩ := holds.now
      exact burst.keeps (onward _ _ (.inr (Part.Holds.goal right)))
  | lane _ ih => exact fun holds => keeps_lane ih holds
  | win ledger member => exact fun holds => keeps_win member holds
  | leave ledger noticed => exact fun holds => keeps_leave noticed holds
  | winner _ ih => exact fun holds => keeps_winner ih holds
  | lost burst =>
      intro part holds
      obtain ⟨_, known, lead, parts, knows, race, obey, won, lost, onward⟩ := holds.now
      cases parts with
      | nil =>
          obtain ⟨_, knew, _, _, loses⟩ := lost rfl
          exact burst.keeps (loses _ knew (by simp))
      | cons _ _ => exact obey.elim
  | decided burst =>
      intro part holds
      obtain ⟨_, known, lead, parts, knows, race, obey, won, lost, onward⟩ := holds.now
      cases parts with
      | nil => exact burst.keeps (onward _ _ knows (by simp) (Part.Holds.goal (won rfl)))
      | cons _ _ => exact obey.elim

end Flow

end ConsentBanner
