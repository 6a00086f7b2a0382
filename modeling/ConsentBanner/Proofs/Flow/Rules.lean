import ConsentBanner.Flow.Primitive
import ConsentBanner.Proofs.Flow.Part

/-!
# Rules for flows that play their part

One rule for each way to put flows together, so that a part is checked along the text of a flow.
-/

set_option autoImplicit false

namespace ConsentBanner

open Part (Keeps)

theorem Part.Within.weaken {α : Type} {rely rely' guar guar' : Law} {part : Part α}
    (within : part.Within rely guar) (relies : ∀ {a b}, rely' a b → rely a b)
    (allows : ∀ {a b}, guar a b → guar' a b) : part.Within rely' guar' :=
  ⟨fun relied => within.rely (relies relied), fun did => allows (within.guar did)⟩

/-- A part for flows of all types: something stays known. -/
structure Conduct where
  rely : Law
  guar : Law
  known : Ledger → Prop
  rely_refl : ∀ ledger, rely ledger ledger
  rely_trans : ∀ {a b c}, rely a b → rely b c → rely a c
  guar_refl : ∀ ledger, guar ledger ledger
  keeps : Keeps rely known

namespace Conduct

variable {α β : Type}

def part (conduct : Conduct) (α : Type) : Part α where
  rely := conduct.rely
  guar := conduct.guar
  goal _ := conduct.known
  rely_refl := conduct.rely_refl
  rely_trans := conduct.rely_trans
  guar_refl := conduct.guar_refl
  goal_keeps := conduct.keeps

/-- Flows of the same conduct go together if what one does is what another one relies on. -/
structure Social (conduct : Conduct) : Prop where
  social : ∀ {a b}, conduct.guar a b → conduct.rely a b

theorem Social.pair {conduct : Conduct} (social : conduct.Social) {rely guar : Law}
    (within : (conduct.part Unit).Within rely guar) :
    Part.Pair rely guar (conduct.part α) (conduct.part β) where
  left := ⟨within.rely, within.guar⟩
  right := ⟨within.rely, within.guar⟩
  beside := ⟨social.social, social.social⟩

theorem Social.race {conduct : Conduct} (social : conduct.Social) {rely guar : Law}
    (within : (conduct.part Unit).Within rely guar) (count : Nat) :
    Part.Race rely guar conduct.known (conduct.part Bool)
      (List.replicate count (conduct.part Bool)) where
  within part member := by
    rw [← List.replicate_succ] at member
    exact (List.eq_of_mem_replicate member) ▸ ⟨within.rely, within.guar⟩
  beside := by
    rw [← List.replicate_succ]
    exact List.pairwise_replicate.mpr (.inr ⟨social.social, social.social⟩)
  knownRely known relied := conduct.keeps known (within.rely relied)
  knownGuar part member := by
    rw [← List.replicate_succ] at member
    obtain rfl := List.eq_of_mem_replicate member
    exact fun known did => conduct.keeps known (social.social did)

end Conduct

namespace Flow

variable {α β : Type} {rely guar : Law}

theorem Obeys.weaken {rely' guar' : Law} {ends ends' : α → Law}
    (relies : ∀ {a b}, rely' a b → rely a b) (allows : ∀ {a b}, guar a b → guar' a b)
    (finish : ∀ value {since now}, ends value since now → ends' value since now) :
    ∀ {flow : Flow α} {since now : Ledger},
      flow.Obeys rely guar ends since now → flow.Obeys rely' guar' ends' since now
  | .done value, _, _, obeys => finish value obeys
  | .ask _ _, _, _, obeys => by
      unfold Obeys at obeys ⊢
      split at obeys
      next waits =>
        rw [if_pos waits]
        exact ⟨allows obeys.1, fun later reply relied =>
          weaken relies allows finish (obeys.2 later reply (relies relied))⟩
      next goesOn =>
        rw [if_neg goesOn]
        exact fun reply after replied => weaken relies allows finish (obeys reply after replied)
  | .sleep _ next, _, _, obeys =>
      ⟨allows obeys.1, fun later relied =>
        have onward := weaken relies allows finish
          (show next.Obeys rely guar ends later later from obeys.2 later (relies relied))
        onward⟩
  | .asleep _ _ next, _, _, obeys =>
      ⟨allows obeys.1, fun later relied =>
        have onward := weaken relies allows finish
          (show next.Obeys rely guar ends later later from obeys.2 later (relies relied))
        onward⟩
  | .await _ _, _, _, obeys =>
      ⟨allows obeys.1, fun later reply relied =>
        weaken relies allows finish (obeys.2 later reply (relies relied))⟩
  | .both _ _ _, _, _, obeys =>
      have ⟨kept, one, two, pair, left, right, onward⟩ := obeys
      ⟨allows kept, one, two,
        ⟨pair.left.weaken relies allows, pair.right.weaken relies allows, pair.beside⟩, left, right,
        fun a b later onA onB => weaken relies allows finish (onward a b later onA onB)⟩
  | .first _ _ _, _, _, obeys =>
      have ⟨kept, one, two, pair, left, right, onward⟩ := obeys
      ⟨allows kept, one, two,
        ⟨pair.left.weaken relies allows, pair.right.weaken relies allows, pair.beside⟩, left, right,
        fun a later on => weaken relies allows finish (onward a later on)⟩
  | .race _ _ _ _, _, _, obeys =>
      have ⟨kept, known, lead, parts, knows, fits, lanes, won, lost, onward⟩ := obeys
      have weaker : Part.Race rely' guar' known lead parts :=
        ⟨fun part member => (fits.within part member).weaken relies allows, fits.beside,
          fun known relied => fits.knownRely known (relies relied), fits.knownGuar⟩
      ⟨allows kept, known, lead, parts, knows, weaker, lanes, won, fun unstarted =>
        have ⟨unled, knew, keeps, wins, loses⟩ := lost unstarted
        ⟨unled, knew, ⟨fun known relied => keeps.rely known (relies relied), keeps.guar⟩, wins,
          fun later knows goals => weaken relies allows finish (loses later knows goals)⟩,
        fun value later knows goals led =>
          weaken relies allows finish (onward value later knows goals led)⟩

theorem Obeys.bind {ends : β → Law} {f : α → Flow β} : ∀ {flow : Flow α} {since now : Ledger},
    flow.Obeys rely guar (fun a => (f a).Obeys rely guar ends) since now →
      (flow.bind f).Obeys rely guar ends since now
  | .done _, _, _, obeys => obeys
  | .ask _ _, _, _, obeys => by
      unfold Flow.bind Obeys
      unfold Obeys at obeys
      split at obeys
      next waits =>
        rw [if_pos waits]
        exact ⟨obeys.1, fun later reply relied => bind (obeys.2 later reply relied)⟩
      next goesOn =>
        rw [if_neg goesOn]
        exact fun reply after replied => bind (obeys reply after replied)
  | .sleep _ next, _, _, obeys =>
      ⟨obeys.1, fun later relied =>
        have onward := bind (show next.Obeys rely guar _ later later from obeys.2 later relied)
        onward⟩
  | .asleep _ _ next, _, _, obeys =>
      ⟨obeys.1, fun later relied =>
        have onward := bind (show next.Obeys rely guar _ later later from obeys.2 later relied)
        onward⟩
  | .await _ _, _, _, obeys =>
      ⟨obeys.1, fun later reply relied => bind (obeys.2 later reply relied)⟩
  | .both _ _ _, _, _, obeys =>
      have ⟨kept, one, two, pair, left, right, onward⟩ := obeys
      ⟨kept, one, two, pair, left, right, fun a b later onA onB => bind (onward a b later onA onB)⟩
  | .first _ _ _, _, _, obeys =>
      have ⟨kept, one, two, pair, left, right, onward⟩ := obeys
      ⟨kept, one, two, pair, left, right, fun a later on => bind (onward a later on)⟩
  | .race _ _ _ _, _, _, obeys =>
      have ⟨kept, known, lead, parts, knows, fits, lanes, won, lost, onward⟩ := obeys
      ⟨kept, known, lead, parts, knows, fits, lanes, won, fun unstarted =>
        have ⟨unled, knew, keeps, wins, loses⟩ := lost unstarted
        ⟨unled, knew, keeps, wins, fun later knows goals => bind (loses later knows goals)⟩,
        fun value later knows goals led => bind (onward value later knows goals led)⟩

variable {since now : Ledger}

/-- One flow after the other, as written in steps. -/
theorem Obeys.andThen {ends : β → Law} {flow : Flow α} {f : α → Flow β}
    (obeys : flow.Obeys rely guar (fun a => (f a).Obeys rely guar ends) since now) :
    (flow >>= f).Obeys rely guar ends since now :=
  bind obeys

theorem obeys_request {ends : α → Law} {request : Request α} (goesOn : request.givesWay = false)
    (onward : ∀ reply after, now.MayReply request reply after → ends reply since after) :
    (Flow.request request).Obeys rely guar ends since now := by
  simp only [Flow.request, Obeys, goesOn, Bool.false_eq_true, if_false]
  exact onward

theorem obeys_send {ends : Unit → Law} {message : Outbound}
    (onward : ends () since (now.send message)) :
    (Flow.send message).Obeys rely guar ends since now :=
  obeys_request rfl fun _ _ replied => replied ▸ onward

theorem obeys_ask {ends : α → Law} {call : PageCall α} {otherwise : α} (kept : guar since now)
    (onward : ∀ later value, rely now later → ends value later later) :
    (Primitive.ask call otherwise).Obeys rely guar ends since now :=
  ⟨kept, fun later _ relied => onward later _ relied⟩

theorem obeys_pause {ends : Unit → Law} {time : Nat} (kept : guar since now)
    (onward : ∀ later, rely now later → ends () later later) :
    (Flow.pause time).Obeys rely guar ends since now :=
  ⟨kept, onward⟩

/-- What an attempt has to show, with this number of attempts left after it. -/
def AttemptEnds (rely guar : Law) (found : Nat → Law) (ends : Bool → Law) : Nat → Bool → Law
  | left + 1, false, since, now =>
    guar since now ∧ ∀ later, rely now later → found left later later
  | _, yes, since, now => ends yes since now

theorem attemptEnds_true {found : Nat → Law} {ends : Bool → Law} {left : Nat} :
    AttemptEnds rely guar found ends left true since now = ends true since now := by
  cases left <;> rfl

/-- Asking again and again.  What is found is indexed by the number of attempts left. -/
theorem obeys_poll {ends : Bool → Law} {attempt : Flow Bool} {interval : Nat} (found : Nat → Law)
    (attempts : ∀ left {since now}, found left since now →
      attempt.Obeys rely guar (AttemptEnds rely guar found ends left) since now) :
    ∀ retries {since now}, found retries since now →
      (Flow.poll attempt interval retries).Obeys rely guar ends since now := by
  intro retries
  induction retries with
  | zero =>
      intro since now finds
      refine (attempts 0 finds).weaken id id ?_
      intro yes since now ended
      cases yes <;> exact ended
  | succ retries ih =>
      intro since now finds
      refine Obeys.bind ((attempts (retries + 1) finds).weaken id id ?_)
      intro yes since now ended
      cases yes with
      | false => exact ⟨ended.1, fun later relied => ih (ended.2 later relied)⟩
      | true => exact ended

end Flow

theorem Conduct.Social.all {α : Type} {conduct : Conduct} (social : conduct.Social) {now : Ledger} :
    ∀ {flows : List (Flow α)}, (∀ flow ∈ flows, (conduct.part α).Holds flow now) →
      conduct.known now → (conduct.part (List α)).Holds (Flow.all flows) now := by
  intro flows
  induction flows with
  | nil => exact fun _ known later relied => ⟨conduct.guar_refl later, conduct.keeps known relied⟩
  | cons flow rest ih =>
      intro holds known later relied
      have first := holds flow List.mem_cons_self
      have others := ih (fun other member => holds other (List.mem_cons_of_mem _ member)) known
      exact ⟨conduct.guar_refl later, conduct.part α, conduct.part (List α),
        social.pair ⟨id, id⟩, first.later relied, others.later relied,
        fun _ _ later _ known => ⟨conduct.guar_refl later, known⟩⟩

end ConsentBanner
