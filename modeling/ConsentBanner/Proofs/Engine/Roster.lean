import ConsentBanner.Engine.State

/-!
# Handlers that take part

Every handler that is registered gets a slot of its own, and registering or taking out handlers leaves
everything else that the engine knows.
-/

set_option autoImplicit false

namespace ConsentBanner.EngineState

/-- The handlers have slots of their own. -/
structure Slotted (state : EngineState) : Prop where
  distinct : (state.handlers.map Handler.slot).Nodup
  given : ∀ handler ∈ state.handlers, handler.slot < state.nextSlot

theorem slotted_initial : initial.Slotted := ⟨List.nodup_nil, by simp [initial]⟩

theorem Slotted.add {state : EngineState} (slotted : state.Slotted) (plan : Plan) :
    (state.add plan).Slotted := by
  refine ⟨?_, fun handler member => ?_⟩
  · simp only [EngineState.add, List.map_append, List.map_cons, List.map_nil]
    refine List.nodup_append.mpr ⟨slotted.distinct, by simp, fun slot old other new => ?_⟩
    obtain ⟨handler, member, rfl⟩ := List.mem_map.mp old
    obtain rfl := List.mem_singleton.mp new
    exact Nat.ne_of_lt (slotted.given handler member)
  · rcases List.mem_append.mp member with old | new
    · exact Nat.lt_succ_of_lt (slotted.given handler old)
    · obtain rfl := List.mem_singleton.mp new
      exact Nat.lt_succ_self _

theorem Slotted.addAll {state : EngineState} (slotted : state.Slotted) (plans : List Plan) :
    (plans.foldl EngineState.add state).Slotted := by
  induction plans generalizing state with
  | nil => exact slotted
  | cons plan rest ih => exact ih (slotted.add plan)

theorem Slotted.addRules {state : EngineState} (slotted : state.Slotted) (rules : RuleSet) :
    (state.addRules rules).Slotted :=
  slotted.addAll _

theorem Slotted.disable {state : EngineState} (slotted : state.Slotted) (names : List String) :
    (state.disable names).Slotted :=
  ⟨slotted.distinct.sublist (List.filter_sublist.map _),
    fun handler member => slotted.given handler (List.mem_filter.mp member).1⟩

theorem found_confirm (state : EngineState) (handler : Handler) :
    (state.confirm handler).found = some (state.found.getD handler) := by
  unfold confirm
  split
  next found => simp [found]
  next found => simp [found]

theorem phase_confirm (state : EngineState) (handler : Handler) :
    (state.confirm handler).phase = state.phase := by
  unfold confirm
  split <;> rfl

theorem config_confirm (state : EngineState) (handler : Handler) :
    (state.confirm handler).config = state.config := by
  unfold confirm
  split <;> rfl

theorem handlers_confirm (state : EngineState) (handler : Handler) :
    (state.confirm handler).handlers = state.handlers := by
  unfold confirm
  split <;> rfl

theorem nextSlot_confirm (state : EngineState) (handler : Handler) :
    (state.confirm handler).nextSlot = state.nextSlot := by
  unfold confirm
  split <;> rfl

theorem Slotted.confirm {state : EngineState} (slotted : state.Slotted) (handler : Handler) :
    (state.confirm handler).Slotted := by
  refine ⟨?_, ?_⟩
  · rw [handlers_confirm]
    exact slotted.distinct
  · rw [handlers_confirm, nextSlot_confirm]
    exact slotted.given

structure SameButRoster (before after : EngineState) : Prop where
  found : after.found = before.found
  config : after.config = before.config
  phase : after.phase = before.phase

theorem sameButRoster_addAll (plans : List Plan) (state : EngineState) :
    state.SameButRoster (plans.foldl add state) := by
  induction plans generalizing state with
  | nil => exact ⟨rfl, rfl, rfl⟩
  | cons plan rest ih =>
      have later := ih (state.add plan)
      exact ⟨later.found, later.config, later.phase⟩

theorem sameButRoster_addRules (rules : RuleSet) (state : EngineState) :
    state.SameButRoster (state.addRules rules) :=
  sameButRoster_addAll _ state

theorem handlers_addAll (plans : List Plan) (state : EngineState) :
    (plans.foldl add state).handlers =
      state.handlers ++ (plans.zipIdx state.nextSlot).map fun entry => ⟨entry.2, entry.1⟩ := by
  induction plans generalizing state with
  | nil => simp
  | cons plan rest ih => simp [ih, add]

end ConsentBanner.EngineState
