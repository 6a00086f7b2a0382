import ConsentBanner.Host
import ConsentBanner.Proofs.Flow.Awaited
import ConsentBanner.Proofs.Flow.Story

/-!
# The course of a service

While a host serves, it hears messages and its tasks go on, whichever comes first, and the page does what
it likes meanwhile: a `Course` is any number of such steps.  What a task does is its story, where the page
may reply anything.  Nothing is said of the order of tasks or of what comes first when both a message is
waiting and a task can go on, so that a course may take every choice.
-/

set_option autoImplicit false

namespace ConsentBanner

/-- What happens about requests for page script while a host serves. -/
inductive Happening where
  /-- The host takes a message in hand. -/
  | heard (message : Outbound)
  /-- The page replies to a call for the value of page script. -/
  | evaluated (code : String) (reply : Except PageError Json)
  /-- The value of page script is handed in to the engine. -/
  | handedIn (id : String) (value : Json)

def PageCall.happening? : {α : Type} → PageCall α → Except PageError α → Option Happening
  | _, .evaluate code, reply => some (.evaluated code reply)
  | _, _, _ => none

/-- What a request is to the host. -/
def Request.happening? : {β : Type} → Request β → β → Option Happening
  | _, .page call, reply => call.happening? reply
  | _, .resolve id value, _ => some (.handedIn id value)
  | _, _, _ => none

/-- What a story is to the host. -/
def happenings (story : List Exchange) : List Happening :=
  story.filterMap fun exchange => exchange.request.happening? exchange.reply

def heard (history : List Happening) : List Outbound :=
  history.filterMap fun
    | .heard message => some message
    | _ => none

/-- The values that were handed in, each with the request that it is for. -/
def handedIn (history : List Happening) : List (String × Json) :=
  history.filterMap fun
    | .handedIn id value => some (id, value)
    | _ => none

/-- Requests for page script among messages, each with its code. -/
def requests (messages : List Outbound) : List (String × String) :=
  messages.filterMap fun
    | .evalRequest id code => some (id, code)
    | _ => none

theorem heard_append (one two : List Happening) : heard (one ++ two) = heard one ++ heard two :=
  List.filterMap_append

theorem handedIn_append (one two : List Happening) : handedIn (one ++ two) = handedIn one ++ handedIn two :=
  List.filterMap_append

theorem requests_append (one two : List Outbound) : requests (one ++ two) = requests one ++ requests two :=
  List.filterMap_append

theorem happenings_append (one two : List Exchange) :
    happenings (one ++ two) = happenings one ++ happenings two :=
  List.filterMap_append

/-- A task hears no messages. -/
theorem heard_happenings (story : List Exchange) : heard (happenings story) = [] := by
  induction story with
  | nil => rfl
  | cons exchange rest ih =>
      obtain ⟨request, reply⟩ := exchange
      have silent : heard (request.happening? reply).toList = [] := by
        cases request with
        | page call => cases call <;> rfl
        | _ => rfl
      have split : happenings (⟨request, reply⟩ :: rest) =
          (request.happening? reply).toList ++ happenings rest := by
        rw [happenings, List.filterMap_cons]
        cases request.happening? reply <;> rfl
      rw [split, heard_append, silent, ih, List.append_nil]

namespace Host

/-- The host when a task has gone on: it leaves when it is done. -/
def afterTask (host : Host) (ahead behind : List Task) (flow : Flow Unit) (world : World) : Host :=
  { host with
    world := world
    tasks := match flow.value? with
      | some () => ahead ++ behind
      | none => ahead ++ ⟨flow, none⟩ :: behind }

/-- One step of a service. -/
inductive Happens : Host → List Happening → Host → Prop where
  | hear {host : Host} {message : Outbound} (waits : host.message? = some message) :
      Happens host [.heard message] (host.handle message)
  /-- A task leaves no requests open but those that it awaits itself. -/
  | goOn {host : Host} {ahead behind : List Task} {task : Task} {flow : Flow Unit} {world : World}
      {story : List Exchange} (tasks : host.tasks = ahead ++ task :: behind)
      (steps : task.flow.Steps story flow) (follows : host.world.ledger.Follows story world.ledger)
      (leaves : ∀ free, host.world.bridge.Covered free task.flow.awaited →
        world.bridge.Covered free flow.awaited) :
      Happens host (happenings story) (host.afterTask ahead behind flow world)
  /-- Anything else happens, as far as nobody's messages or requests are concerned. -/
  | aside {host : Host} {world : World} (steps : Nat) (ledger : world.ledger = host.world.ledger)
      (bridge : world.bridge = host.world.bridge) :
      Happens host [] { host with world := world, steps := steps }

/-- Any number of steps. -/
inductive Course (first : Host) : List Happening → Host → Prop where
  | here : Course first [] first
  | step {history more : List Happening} {host next : Host} (course : Course first history host)
      (happens : Happens host more next) : Course first (history ++ more) next

/-- The host when it has handled all messages that were waiting. -/
def drain (host : Host) : Host := (host.world.sent.drop host.handled).foldl handle host

theorem handle_sent (host : Host) (message : Outbound) :
    (host.handle message).world.sent = host.world.sent ∧
      (host.handle message).handled = host.handled + 1 := by
  unfold handle respond addTask
  constructor
  all_goals
    simp only
    repeat' split
    all_goals rfl

/-- Whoever handles all messages that wait goes through them one by one. -/
theorem Course.drain {first : Host} : ∀ {host : Host} {history : List Happening},
    Course first history host →
      Course first (history ++ (host.world.sent.drop host.handled).map .heard) host.drain := by
  intro host history course
  unfold Host.drain
  generalize waiting : host.world.sent.drop host.handled = messages
  induction messages generalizing host history with
  | nil =>
      rw [List.map_nil, List.append_nil]
      exact course
  | cons message rest ih =>
      obtain ⟨sent, handled⟩ := host.handle_sent message
      have waits : host.message? = some message := by
        have first := congrArg List.head? waiting
        rw [List.head?_drop] at first
        exact first
      have others : (host.handle message).world.sent.drop (host.handle message).handled = rest := by
        rw [sent, handled, ← List.tail_drop, waiting, List.tail_cons]
      have later := ih (course.step (.hear waits)) others
      rw [List.append_assoc] at later
      exact later

end Host

end ConsentBanner
