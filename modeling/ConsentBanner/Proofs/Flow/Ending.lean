import ConsentBanner.Proofs.Flow.Turn

/-!
# Flows come to an end

No flow takes turns for ever, whatever the surroundings reply.  `Flow.ends` says so by recursion on the
flow; what runs side by side ends because each of its parts does.
-/

set_option autoImplicit false

namespace ConsentBanner.Flow

variable {α β γ : Type}

def Becomes (after before : Flow α) : Prop :=
  ∃ first last, Turn before first after last

/-- A flow can not take turns for ever. -/
abbrev Ends (flow : Flow α) : Prop := Acc Becomes flow

theorem Ends.turn {flow after : Flow α} {first last : Ledger} (ends : Ends flow)
    (turn : Turn flow first after last) : Ends after :=
  ends.inv ⟨first, last, turn⟩

theorem Ends.turns {flow after : Flow α} {first last : Ledger} (ends : Ends flow)
    (turns : Turns flow first after last) : Ends after := by
  induction turns with
  | refl => exact ends
  | head turn _ ih => exact ih (ends.turn turn)

theorem Ends.burst {flow after : Flow α} {first last : Ledger} (ends : Ends flow)
    (burst : Burst flow first after last) : Ends after :=
  ends.turns burst.turns

/-- What a flow becomes in several turns, one at least. -/
theorem Turn.becomes {flow between after : Flow α} {first middle last : Ledger}
    (turn : Turn flow first between middle) (rest : Turns between middle after last) :
    Relation.TransGen Becomes after flow := by
  induction rest generalizing flow first with
  | refl => exact .single ⟨_, _, turn⟩
  | head next _ ih => exact .tail (ih next) ⟨_, _, turn⟩

theorem ends_done (value : α) : Ends (.done value) := by
  refine .intro _ fun after becomes => ?_
  obtain ⟨first, last, turn⟩ := becomes
  cases turn with
  | start goesOn _ => cases goesOn

theorem ends_ask {request : Request β} {next : β → Flow α} (onward : ∀ reply, Ends (next reply)) :
    Ends (.ask request next) := by
  refine .intro _ fun after becomes => ?_
  obtain ⟨first, last, turn⟩ := becomes
  cases turn with
  | start goesOn burst =>
      cases burst with
      | rest _ waits => exact absurd (goesOn.symm.trans waits) nofun
      | ask _ _ later => exact (onward _).burst later
  | page reply burst => exact (onward reply).burst burst

theorem ends_asleep {due order : Nat} {next : Flow α} (onward : Ends next) :
    Ends (.asleep due order next) := by
  refine .intro _ fun after becomes => ?_
  obtain ⟨first, last, turn⟩ := becomes
  cases turn with
  | start goesOn _ => cases goesOn
  | wake _ _ burst => exact onward.burst burst

theorem ends_sleep {time : Nat} {next : Flow α} (onward : Ends next) : Ends (.sleep time next) := by
  refine .intro _ fun after becomes => ?_
  obtain ⟨first, last, turn⟩ := becomes
  cases turn with
  | start goesOn _ => cases goesOn
  | lieDown _ _ due order => exact ends_asleep onward
  | skip _ burst => exact onward.burst burst

theorem ends_await {id : String} {next : Option Json → Flow α} (onward : ∀ reply, Ends (next reply)) :
    Ends (.await id next) := by
  refine .intro _ fun after becomes => ?_
  obtain ⟨first, last, turn⟩ := becomes
  cases turn with
  | start goesOn _ => cases goesOn
  | answered reply burst => exact (onward reply).burst burst

theorem ends_both {next : β → γ → Flow α} (onward : ∀ a b, Ends (next a b)) {left : Flow β}
    {right : Flow γ} (one : Ends left) (two : Ends right) : Ends (.both left right next) := by
  induction one generalizing right with
  | intro left one ihLeft =>
      have endsLeft : Ends left := .intro left one
      induction two with
      | intro right two ihRight =>
          have endsRight : Ends right := .intro right two
          refine .intro _ fun after becomes => ?_
          obtain ⟨first, last, turn⟩ := becomes
          cases turn with
          | start goesOn _ => cases goesOn
          | left turn => exact ihLeft _ ⟨first, last, turn⟩ endsRight
          | right turn => exact ihRight _ ⟨first, last, turn⟩
          | join burst => exact (onward _ _).burst burst

theorem ends_first {next : β → Flow α} (onward : ∀ a, Ends (next a)) {left right : Flow β}
    (one : Ends left) (two : Ends right) : Ends (.first left right next) := by
  induction one generalizing right with
  | intro left one ihLeft =>
      induction two with
      | intro right two ihRight =>
          have endsRight : Ends right := .intro right two
          refine .intro _ fun after becomes => ?_
          obtain ⟨first, last, turn⟩ := becomes
          cases turn with
          | start goesOn _ => cases goesOn
          | either turn => exact ihLeft _ ⟨first, last, turn⟩ endsRight
          | other turn => exact ihRight _ ⟨first, last, turn⟩
          | leftFirst burst => exact (onward _).burst burst
          | rightFirst burst => exact (onward _).burst burst

inductive Shifts : List (Flow Bool) → List (Flow Bool) → Prop where
  | turn {ahead behind : List (Flow Bool)} {lane moved : Flow Bool} (becomes : Becomes moved lane) :
      Shifts (ahead ++ moved :: behind) (ahead ++ lane :: behind)
  | leave {ahead behind : List (Flow Bool)} {lane : Flow Bool} :
      Shifts (ahead ++ behind) (ahead ++ lane :: behind)

theorem Shifts.cases {lane : Flow Bool} {rest after : List (Flow Bool)} (shifts : Shifts after (lane :: rest)) :
    (∃ moved, Becomes moved lane ∧ after = moved :: rest) ∨ after = rest ∨
      ∃ others, Shifts others rest ∧ after = lane :: others := by
  generalize whole : lane :: rest = lanes at shifts
  cases shifts with
  | @turn ahead behind lane' moved becomes =>
      cases ahead with
      | nil =>
          obtain ⟨rfl, rfl⟩ := List.cons.inj whole
          exact .inl ⟨moved, becomes, rfl⟩
      | cons first ahead =>
          obtain ⟨rfl, rfl⟩ := List.cons.inj whole
          exact .inr (.inr ⟨_, .turn becomes, rfl⟩)
  | @leave ahead behind lane' =>
      cases ahead with
      | nil =>
          obtain ⟨rfl, rfl⟩ := List.cons.inj whole
          exact .inr (.inl rfl)
      | cons first ahead =>
          obtain ⟨rfl, rfl⟩ := List.cons.inj whole
          exact .inr (.inr ⟨_, .leave, rfl⟩)

theorem lanes_end_nil : Acc Shifts [] := by
  refine .intro _ fun after shifts => ?_
  generalize whole : [] = lanes at shifts
  cases shifts <;> simp at whole

theorem lanes_end_cons {lane : Flow Bool} {rest : List (Flow Bool)} (ends : Ends lane)
    (others : Acc Shifts rest) : Acc Shifts (lane :: rest) := by
  induction ends generalizing rest with
  | intro lane ends ihLane =>
      induction others with
      | intro rest others ihRest =>
          refine .intro _ fun after shifts => ?_
          rcases shifts.cases with ⟨moved, becomes, rfl⟩ | rfl | ⟨fewer, within, rfl⟩
          · exact ihLane moved becomes (.intro rest others)
          · exact .intro after others
          · exact ihRest fewer within

theorem Turn.ofRace {lanes : List (Flow Bool)} {started : Bool} {winner : Flow Bool}
    {next : Option Bool → Flow α} {after : Flow α} {before later : Ledger}
    (turn : Turn (.race lanes started winner next) before after later) :
    (∃ others, Shifts others lanes ∧ after = .race others started winner next) ∨
      (started = false ∧ after = .race lanes true winner next) ∨
      (∃ moved, Becomes moved winner ∧ after = .race lanes started moved next) ∨
      ∃ value, Burst (next value) before after later := by
  generalize whole : Flow.race lanes started winner next = flow at turn
  cases turn with
  | start goesOn _ =>
      subst whole
      cases goesOn
  | lane turn =>
      cases whole
      exact .inl ⟨_, .turn ⟨_, _, turn⟩, rfl⟩
  | win _ _ =>
      cases whole
      exact .inr (.inl ⟨rfl, rfl⟩)
  | leave _ _ =>
      cases whole
      exact .inl ⟨_, .leave, rfl⟩
  | winner turn =>
      cases whole
      exact .inr (.inr (.inl ⟨_, ⟨_, _, turn⟩, rfl⟩))
  | lost burst =>
      cases whole
      exact .inr (.inr (.inr ⟨_, burst⟩))
  | decided burst =>
      cases whole
      exact .inr (.inr (.inr ⟨_, burst⟩))
  | _ => cases whole

theorem ends_race {next : Option Bool → Flow α} (onward : ∀ a, Ends (next a)) :
    ∀ (started : Bool) {lanes : List (Flow Bool)} {winner : Flow Bool}, Acc Shifts lanes → Ends winner →
      Ends (.race lanes started winner next) := by
  -- Only the start of the winner leads from one value of the flag to the other.
  have step : ∀ started : Bool, (started = false → ∀ {lanes : List (Flow Bool)} {winner : Flow Bool},
      Acc Shifts lanes → Ends winner → Ends (.race lanes true winner next)) →
      ∀ {lanes : List (Flow Bool)} {winner : Flow Bool}, Acc Shifts lanes → Ends winner →
        Ends (.race lanes started winner next) := by
    intro started wins lanes winner each lead
    induction each generalizing winner with
    | intro lanes each ihLanes =>
        induction lead with
        | intro winner lead ihWinner =>
            have endsWinner : Ends winner := .intro winner lead
            refine .intro _ fun after becomes => ?_
            obtain ⟨first, last, turn⟩ := becomes
            rcases turn.ofRace with ⟨others, shifts, rfl⟩ | ⟨unstarted, rfl⟩ | ⟨moved, becomes, rfl⟩ |
              ⟨value, burst⟩
            · exact ihLanes others shifts endsWinner
            · exact wins unstarted (.intro lanes each) endsWinner
            · exact ihWinner moved becomes
            · exact (onward value).burst burst
  intro started
  cases started with
  | true => exact step true nofun
  | false => exact step false fun _ => step true nofun

mutual

/-- No flow takes turns for ever. -/
theorem ends : ∀ {α : Type} (flow : Flow α), Ends flow
  | _, .done value => ends_done value
  | _, .ask _ next => ends_ask fun reply => ends (next reply)
  | _, .sleep _ next => ends_sleep (ends next)
  | _, .asleep _ _ next => ends_asleep (ends next)
  | _, .await _ next => ends_await fun reply => ends (next reply)
  | _, .both left right next => ends_both (fun a b => ends (next a b)) (ends left) (ends right)
  | _, .first left right next => ends_first (fun a => ends (next a)) (ends left) (ends right)
  | _, .race lanes started winner next =>
      ends_race (fun a => ends (next a)) started (lanes_end lanes) (ends winner)

theorem lanes_end : ∀ lanes : List (Flow Bool), Acc Shifts lanes
  | [] => lanes_end_nil
  | lane :: rest => lanes_end_cons (ends lane) (lanes_end rest)

end

end ConsentBanner.Flow
