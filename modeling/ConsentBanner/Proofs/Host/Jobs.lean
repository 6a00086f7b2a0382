import ConsentBanner.Proofs.Engine.Decisions
import ConsentBanner.Proofs.Host.Service

/-!
# The jobs of a host

A host has its engine announce itself, start and test itself, each once at most, and meanwhile has page script
evaluated.  `Host.Staffed` says which task is at which job, and what each job has told so far; a task that goes
on either goes on with its job or tells nothing that matters (`Staffed.goOn`).
-/

set_option autoImplicit false

namespace ConsentBanner.Host

open Flow (Steps Allowed)

/-- What the host has the engine do, beside taking the values of page script. -/
inductive Job where
  | announce
  | start
  | test
  deriving DecidableEq

namespace Job

variable {timings : Timings} {config : EngineConfig} {rules : RuleSet}

def flow (timings : Timings) (config : EngineConfig) (rules : RuleSet) : Job → Flow Unit
  | announce => Engine.announce
  | start => Engine.receive timings (.initResponse config rules)
  | test => Engine.receive timings .selfTest

/-- What a job tells by the time it is done. -/
def Script : Job → List Cue → Prop
  | announce, whole => ∃ url, whole = [.mark (.said (.init url))]
  | start, whole => Performance whole
  | test, whole => Engine.Trial whole

theorem recites (job : Job) :
    (job.flow timings config rules).Recites Exchange.cue? fun _ whole => job.Script whole := by
  have only : ∀ {flow : Flow Bool} {script : List Cue → Prop},
      flow.Recites Exchange.cue? (fun _ whole => script whole) →
      (flow.bind fun _ => .done ()).Recites Exchange.cue? fun _ whole => script whole := by
    intro flow script recites
    refine recites.bind fun _ one told => .done ?_
    rwa [List.append_nil]
  cases job with
  | announce => exact Engine.recites_announce
  | start => exact only (Engine.performs_setUp config rules)
  | test => exact only Engine.recites_selfTest

theorem recited (job : Job) {told : List Exchange} {flow : Flow Unit}
    (steps : Steps (job.flow timings config rules) told flow) :
    ∃ whole, job.Script whole ∧ outline told <+: whole := by
  obtain ⟨_, whole, script, part⟩ := job.recites.begun steps
  exact ⟨whole, script, part⟩

theorem unlearned {job : Job} (other : job ≠ .start) {told : List Exchange} {flow : Flow Unit}
    (steps : Steps (job.flow timings config rules) told flow) : .learned ∉ outline told := by
  obtain ⟨whole, script, part⟩ := job.recited steps
  intro learned
  have within := part.subset learned
  cases job with
  | announce =>
      obtain ⟨url, rfl⟩ := script
      simp at within
  | start => exact other rfl
  | test =>
      obtain ⟨found, rest, value, url, rfl, unlearned, -⟩ := script
      rcases List.mem_cons.mp within with is | later
      · cases is
      · exact unlearned later

theorem keepsFound (job : Job) : (job.flow timings config rules).Confined Request.KeepsFound true := by
  have steadily : ∀ {α : Type} {flow : Flow α}, Engine.Steady (fun _ => True) flow →
      flow.Confined Request.KeepsFound true := fun steady => (steady.weaken fun _ steady => steady.keepsFound).1
  cases job with
  | announce => exact steadily (.andThen Engine.steady_url fun _ => Engine.steady_send _)
  | start => exact .andThen (Engine.keepsFound_setUp config rules) fun _ => .pure _
  | test => exact steadily (.andThen (Engine.steady_selfTest timings trivial) fun _ => .pure _)

end Job

/-- Requests of tasks that have nothing to do with decisions. -/
def IsBystander : {β : Type} → Request β → Prop :=
  fun request => request.Silent Exchange.cue? ∧ request.KeepsFound

theorem bystander_evaluate (timings : Timings) (id code : String) :
    (evaluate timings id code).Confined IsBystander false := by
  rw [evaluate_eq]
  exact ⟨⟨⟨fun _ => rfl, trivial⟩, trivial⟩, fun _ => ⟨⟨⟨fun _ => rfl, trivial⟩, trivial⟩, fun _ => trivial⟩⟩

/-- Nothing is left to do but to have page script evaluated. -/
def OnlyEvaluates (timings : Timings) (tasks : List Task) : Prop :=
  ∀ task ∈ tasks, ∃ id code told, Steps (evaluate timings id code) told task.flow

/-- Page script may be evaluated at any time, and nothing else comes of it. -/
theorem evaluate_ends {timings : Timings} {id code : String} {told : List Exchange} {flow : Flow Unit}
    (steps : Steps (evaluate timings id code) told flow) :
    ∃ rest, Steps flow rest (.done ()) ∧ outline rest = [] := by
  have handsIn : ∀ value, Steps (handIn id value) [⟨.resolve id value, true⟩] (.done ()) := fun value =>
    .afterReply (.resolve id value) true (.refl _)
  rw [evaluate_eq] at steps
  rcases steps.ofAsk with ⟨-, rfl⟩ | ⟨reply, later, -, onward⟩
  · exact ⟨_, .afterReply (.page (.evaluate code)) (.ok .null) (handsIn _), rfl⟩
  rcases onward.ofAsk with ⟨-, rfl⟩ | ⟨known, last, -, ended⟩
  · exact ⟨_, handsIn _, rfl⟩
  · obtain ⟨rfl, -⟩ := ended.ofDone
    exact ⟨_, .refl _, rfl⟩

/-! ## Who does what -/

/-- Every task is a job that goes on or none at all, and every job that has begun goes on or is done. -/
structure Staffed (timings : Timings) (config : EngineConfig) (rules : RuleSet) (begun : Job → Prop)
    (story : Job → List Exchange) (tasks : List Task) (duties : List (Task × Option Job)) : Prop where
  tasks : tasks = duties.map Prod.fst
  once : (duties.filterMap Prod.snd).Nodup
  goes : ∀ duty ∈ duties, ∀ job ∈ duty.2, begun job ∧
    Steps (job.flow timings config rules) (story job) duty.1.flow
  others : ∀ duty ∈ duties, duty.2 = none → duty.1.flow.Confined IsBystander false
  ended : ∀ job, begun job → (∃ duty ∈ duties, duty.2 = some job) ∨
    Steps (job.flow timings config rules) (story job) (.done ())
  unbegun : ∀ job, ¬begun job → story job = []

section Staffed

variable {timings : Timings} {config : EngineConfig} {rules : RuleSet} {begun : Job → Prop}
  {story : Job → List Exchange} {tasks : List Task} {duties : List (Task × Option Job)}

theorem Staffed.bystander (staffed : Staffed timings config rules begun story tasks duties) {flow : Flow Unit}
    (confined : flow.Confined IsBystander false) (waiting : Option Nat) :
    Staffed timings config rules begun story (tasks ++ [⟨flow, waiting⟩]) (duties ++ [(⟨flow, waiting⟩, none)]) := by
  refine ⟨by rw [staffed.tasks, List.map_append]; rfl, ?_, fun duty member job is => ?_, fun duty member none => ?_,
    fun job has => ?_, staffed.unbegun⟩
  · rw [List.filterMap_append]
    exact (List.append_nil _).symm ▸ staffed.once
  · rcases List.mem_append.mp member with old | new
    · exact staffed.goes duty old job is
    · obtain rfl := List.mem_singleton.mp new
      cases is
  · rcases List.mem_append.mp member with old | new
    · exact staffed.others duty old none
    · obtain rfl := List.mem_singleton.mp new
      exact confined
  · exact (staffed.ended job has).imp_left fun ⟨duty, member, is⟩ => ⟨duty, List.mem_append_left _ member, is⟩

theorem Staffed.begin (staffed : Staffed timings config rules begun story tasks duties) {job : Job} {task : Task}
    (fresh : ¬begun job) (is : task.flow = job.flow timings config rules) {now : Job → Prop}
    (begins : ∀ other, now other ↔ begun other ∨ other = job) :
    Staffed timings config rules now story (tasks ++ [task]) (duties ++ [(task, some job)]) := by
  refine ⟨by rw [staffed.tasks, List.map_append]; rfl, ?_, fun duty member other held => ?_,
    fun duty member none => ?_, fun other has => ?_, fun other hasNot => ?_⟩
  · rw [List.filterMap_append]
    refine List.nodup_append.mpr ⟨staffed.once, List.nodup_singleton job, fun one old two new => ?_⟩
    obtain rfl := List.mem_singleton.mp new
    obtain ⟨duty, member, held⟩ := List.mem_filterMap.mp old
    rintro rfl
    exact fresh (staffed.goes duty member _ held).1
  · rcases List.mem_append.mp member with old | new
    · obtain ⟨has, steps⟩ := staffed.goes duty old other held
      exact ⟨(begins other).mpr (.inl has), steps⟩
    · obtain rfl := List.mem_singleton.mp new
      obtain rfl := Option.some.inj held
      rw [is, staffed.unbegun _ fresh]
      exact ⟨(begins _).mpr (.inr rfl), .refl _⟩
  · rcases List.mem_append.mp member with old | new
    · exact staffed.others duty old none
    · obtain rfl := List.mem_singleton.mp new
      cases none
  · rcases (begins other).mp has with old | rfl
    · exact (staffed.ended other old).imp_left fun ⟨duty, member, is⟩ => ⟨duty, List.mem_append_left _ member, is⟩
    · exact .inl ⟨_, List.mem_append_right _ List.mem_cons_self, rfl⟩
  · exact staffed.unbegun other fun has => hasNot ((begins other).mpr (.inl has))

/-- The duty of a task that has gone on stays with it, unless the task is done. -/
theorem Staffed.replace {before later still : List (Task × Option Job)} {own moved : Task} {label : Option Job}
    {grown : Job → List Exchange}
    (staffed : Staffed timings config rules begun story tasks (before ++ (own, label) :: later))
    (which : still = [] ∧ moved.flow = .done () ∨ still = [(moved, label)])
    (here : ∀ job, label = some job → Steps (job.flow timings config rules) (grown job) moved.flow)
    (aside : label = none → moved.flow.Confined IsBystander false)
    (elsewhere : ∀ other, label ≠ some other → grown other = story other) :
    Staffed timings config rules begun grown ((before ++ (still ++ later)).map Prod.fst)
      (before ++ (still ++ later)) := by
  have members : ∀ duty ∈ before ++ (still ++ later), duty ∈ before ++ later ∨ duty = (moved, label) := by
    intro duty member
    rcases which with ⟨rfl, -⟩ | rfl
    · exact .inl member
    · exact (mem_insert member).symm
  have old : ∀ duty ∈ before ++ later, duty ∈ before ++ (own, label) :: later :=
    fun duty member => subset_insert _ before later member
  have kept : before ++ later ⊆ before ++ (still ++ later) := fun duty member => by
    simp only [List.mem_append] at member ⊢
    tauto
  -- Nobody else is at the job of the task.
  have others : ∀ duty ∈ before ++ later, ∀ other ∈ duty.2, label ≠ some other := by
    rintro duty member other is rfl
    have apart : (before.filterMap Prod.snd ++ other :: later.filterMap Prod.snd).Nodup := by
      simpa using staffed.once
    refine (List.nodup_cons.mp (List.nodup_middle.mp apart)).1 ?_
    rw [← List.filterMap_append]
    exact List.mem_filterMap.mpr ⟨duty, member, is⟩
  refine ⟨rfl, ?_, fun duty member job is => ?_, fun duty member none => ?_, fun job has => ?_, fun job hasNot => ?_⟩
  · refine staffed.once.sublist ?_
    rcases which with ⟨rfl, -⟩ | rfl
    · exact ((List.sublist_cons_self _ later).append_left before).filterMap _
    · cases label <;> simp
  · rcases members duty member with apart | rfl
    · rw [elsewhere job (others duty apart job is)]
      exact staffed.goes duty (old duty apart) job is
    · exact ⟨(staffed.goes (own, label) (by simp) job is).1, here job is⟩
  · rcases members duty member with apart | rfl
    · exact staffed.others duty (old duty apart) none
    · exact aside none
  · by_cases same : label = some job
    · rcases which with ⟨-, done⟩ | rfl
      · exact .inr (done ▸ here job same)
      · exact .inl ⟨(moved, label), by simp, same⟩
    · rw [elsewhere job same]
      refine (staffed.ended job has).imp_left ?_
      rintro ⟨duty, member, is⟩
      rcases mem_insert member with rfl | apart
      · exact absurd is same
      · exact ⟨duty, kept apart, is⟩
  · rw [elsewhere job fun same => hasNot (staffed.goes (own, label) (by simp) job same).1]
    exact staffed.unbegun job hasNot

/-- One task has gone on: what it told belongs to its job, or it does not matter. -/
theorem Staffed.goOn (host : Host) (world : World) {ahead behind : List Task} {task : Task} {flow : Flow Unit}
    {told : List Exchange} (staffed : Staffed timings config rules begun story (ahead ++ task :: behind) duties)
    (steps : Steps task.flow told flow) :
    (∃ job duties, begun job ∧ Steps (job.flow timings config rules) (story job ++ told) flow ∧
      Staffed timings config rules begun (Function.update story job (story job ++ told))
        (host.afterTask ahead behind flow world).tasks duties) ∨
    Allowed IsBystander told ∧ ∃ duties,
      Staffed timings config rules begun story (host.afterTask ahead behind flow world).tasks duties := by
  obtain ⟨before, rest, rfl, rfl, isRest⟩ := List.map_eq_append_iff.mp staffed.tasks.symm
  obtain ⟨⟨own, label⟩, later, rfl, rfl, rfl⟩ := List.map_eq_cons_iff.mp isRest
  obtain ⟨still, tasks, which⟩ : ∃ still : List (Task × Option Job),
      (host.afterTask (before.map Prod.fst) (later.map Prod.fst) flow world).tasks =
        (before ++ (still ++ later)).map Prod.fst ∧
      (still = [] ∧ (⟨flow, none⟩ : Task).flow = .done () ∨ still = [(⟨flow, none⟩, label)]) := by
    rw [Host.afterTask]
    cases done : flow.value? with
    | some value => exact ⟨[], by simp, .inl ⟨rfl, Flow.value?_eq_some.mp done⟩⟩
    | none => exact ⟨[(⟨flow, none⟩, label)], by simp, .inr rfl⟩
  rw [tasks]
  cases label with
  | none =>
      obtain ⟨confined, allowed⟩ := steps.confined (staffed.others (own, none) (by simp) rfl)
      exact .inr ⟨allowed, _, staffed.replace which (fun _ is => by cases is) (fun _ => confined) fun _ _ => rfl⟩
  | some job =>
      obtain ⟨has, begins⟩ := staffed.goes (own, some job) (by simp) job rfl
      have onward := begins.trans steps
      refine .inl ⟨job, _, has, onward, staffed.replace which (fun other is => ?_) (fun none => by cases none)
        fun other apart => ?_⟩
      · obtain rfl := Option.some.inj is
        rw [Function.update_self]
        exact onward
      · exact Function.update_of_ne (fun same => apart (congrArg some same.symm)) _ _

/-- What a job has told so far, and that it is all when only evaluations are left. -/
theorem Staffed.recited (staffed : Staffed timings config rules begun story tasks duties) (job : Job) :
    ∃ whole, job.Script whole ∧ outline (story job) <+: whole ∧
      (OnlyEvaluates timings tasks → begun job → outline (story job) = whole) := by
  by_cases complete : OnlyEvaluates timings tasks ∧ begun job
  · obtain ⟨only, has⟩ := complete
    obtain ⟨rest, steps, silent⟩ : ∃ rest, Steps (job.flow timings config rules) (story job ++ rest) (.done ()) ∧
        outline rest = [] := by
      rcases staffed.ended job has with ⟨duty, member, is⟩ | ended
      · obtain ⟨id, code, told, evaluates⟩ := only duty.1 (staffed.tasks ▸ List.mem_map_of_mem member)
        obtain ⟨rest, ended, silent⟩ := evaluate_ends evaluates
        exact ⟨rest, (staffed.goes duty member job is).2.trans ended, silent⟩
      · exact ⟨[], (List.append_nil (story job)).symm ▸ ended, rfl⟩
    have script : job.Script (outline (story job ++ rest)) := job.recites.ended steps
    rw [outline_append, silent, List.append_nil] at script
    exact ⟨_, script, List.prefix_rfl, fun _ _ => rfl⟩
  · obtain ⟨flow, steps⟩ : ∃ flow, Steps (job.flow timings config rules) (story job) flow := by
      by_cases has : begun job
      · rcases staffed.ended job has with ⟨duty, member, is⟩ | ended
        · exact ⟨_, (staffed.goes duty member job is).2⟩
        · exact ⟨_, ended⟩
      · rw [staffed.unbegun job has]
        exact ⟨_, .refl _⟩
    obtain ⟨whole, script, part⟩ := job.recited steps
    exact ⟨whole, script, part, fun only has => absurd ⟨only, has⟩ complete⟩

end Staffed

end ConsentBanner.Host
