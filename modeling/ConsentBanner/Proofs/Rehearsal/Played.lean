import ConsentBanner.Proofs.Flow.Story
import ConsentBanner.Proofs.Rehearsal.Playing

/-!
# Acts that were played

What comes of flows and acts that are played, with the times at which entries came to a log: messages that were
sent, or clicks.  `Rehearsal.snd_logged_sent` says that no message is left out.
-/

set_option autoImplicit false

namespace ConsentBanner

namespace Rehearsal

variable {α β : Type}

/-- What came to a log between two worlds, with the time of the first. -/
def stamped (log : World → List β) (before after : World) : List (Nat × β) :=
  ((log after).drop (log before).length).map fun entry => (before.clock, entry)

/-- What comes to a log while a flow is taken further so often, each entry with its time. -/
def logged (log : World → List β) (rehearsal : Rehearsal) (flow : Flow α) : Nat → List (Nat × β)
  | 0 => []
  | fuel + 1 =>
    logged log rehearsal flow fuel ++
      stamped log (playFlow fuel rehearsal flow).2.world (playFlow (fuel + 1) rehearsal flow).2.world

/-- An act that was played. -/
structure Played (α : Type) where
  value : Option α
  /-- The messages that it sent, each with its time. -/
  posted : List (Nat × Outbound)
  after : Rehearsal

/-- An act is played, but taken further no more often than is said. -/
def playWithin (fuel : Nat) (rehearsal : Rehearsal) (act : Act α) : Played α :=
  let begun := act.begin rehearsal.world
  let within := { rehearsal with world := begun.2 }
  let result := playFlow fuel within begun.1
  ⟨result.1, stamped World.sent rehearsal.world begun.2 ++ logged World.sent within begun.1 fuel, result.2⟩

/-- Acts are played one after the other, each within a bound of its own. -/
def playEach (rehearsal : Rehearsal) : List (Nat × Act α) → List (Played α)
  | [] => []
  | (fuel, act) :: rest =>
    let played := playWithin fuel rehearsal act
    played :: playEach played.after rest

theorem playWithin_patience (rehearsal : Rehearsal) (act : Act α) :
    rehearsal.play act = ((playWithin patience rehearsal act).value, (playWithin patience rehearsal act).after) := by
  simp only [play, playWithin]

theorem stamped_eq {log : World → List β} {before after : World} {more : List β}
    (grew : log after = log before ++ more) :
    stamped log before after = more.map fun entry => (before.clock, entry) := by
  rw [stamped, grew, List.drop_left]

theorem snd_stamped {log : World → List β} {before after : World} (grew : log before <+: log after) :
    log after = log before ++ (stamped log before after).map Prod.snd := by
  obtain ⟨more, grew⟩ := grew
  rw [stamped_eq grew.symm, ← grew, List.map_map]
  exact congrArg (log before ++ ·) (List.map_id more).symm

/-- The log of a flow that is taken further begins with what came to it meanwhile. -/
theorem logged_further {log : World → List β} {rehearsal later : Rehearsal} {flow moved : Flow α}
    (further : ∀ fuel, playFlow (fuel + 1) rehearsal flow = playFlow fuel later moved) (fuel : Nat) :
    logged log rehearsal flow (fuel + 1) =
      stamped log rehearsal.world later.world ++ logged log later moved fuel := by
  induction fuel with
  | zero =>
      rw [logged, logged, logged, further]
      exact (List.append_nil _).symm
  | succ fuel ih => rw [logged, ih, further, further, logged, List.append_assoc]

theorem logged_done {log : World → List β} {rehearsal last : Rehearsal} {flow : Flow α} {value : α}
    (done : ∀ fuel, playFlow (fuel + 1) rehearsal flow = (some value, last)) (fuel : Nat) :
    logged log rehearsal flow (fuel + 1) = stamped log rehearsal.world last.world := by
  induction fuel with
  | zero =>
      rw [logged, logged, done]
      rfl
  | succ fuel ih =>
      rw [logged, ih, done, done, stamped_eq (List.append_nil _).symm]
      exact List.append_nil _

theorem run_sent (flow : Flow α) (world : World) : world.sent <+: (flow.run world).2.sent := by
  obtain ⟨story, -, follows⟩ := (flow.run_adequate world).runs.turns.tells
  exact follows.sent

theorem playFlow_sent (fuel : Nat) : ∀ (rehearsal : Rehearsal) (flow : Flow α),
    (playFlow fuel rehearsal flow).2.world.sent <+: (playFlow (fuel + 1) rehearsal flow).2.world.sent := by
  induction fuel with
  | zero =>
      intro rehearsal flow
      have sent := run_sent flow rehearsal.world
      rw [playFlow, playFlow]
      generalize flow.run rehearsal.world = result at sent ⊢
      obtain ⟨moved, world⟩ := result
      have heard : ({ rehearsal with world := world } : Rehearsal).hearAll.world.sent = world.sent :=
        sent_of_ledger (goesOn_hearAll _).ledger
      simp only [playFlow]
      generalize ({ rehearsal with world := world } : Rehearsal).hearAll = hearing at heard ⊢
      have caught := sent_of_ledger (goesOn_catchUp hearing).ledger
      split
      · exact sent
      · split
        · exact heard ▸ sent
        · split
          · exact (caught.trans heard).symm ▸ sent
          · split
            · exact heard.symm ▸ sent
            · exact heard.symm ▸ sent
  | succ fuel ih =>
      intro rehearsal flow
      rw [playFlow]
      conv => rhs; rw [playFlow]
      generalize flow.run rehearsal.world = result
      obtain ⟨moved, world⟩ := result
      simp only
      split
      · exact List.prefix_rfl
      · split
        · exact ih _ _
        · split
          · exact ih _ _
          · split
            · exact ih _ _
            · exact List.prefix_rfl

/-- No message is left out. -/
theorem snd_logged_sent (rehearsal : Rehearsal) (flow : Flow α) (fuel : Nat) :
    (playFlow fuel rehearsal flow).2.world.sent =
      rehearsal.world.sent ++ (logged World.sent rehearsal flow fuel).map Prod.snd := by
  induction fuel with
  | zero => exact (List.append_nil _).symm
  | succ fuel ih =>
      rw [logged, List.map_append, ← List.append_assoc, ← ih]
      exact snd_stamped (playFlow_sent fuel rehearsal flow)

end Rehearsal

end ConsentBanner
