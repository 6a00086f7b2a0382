import ConsentBanner.Proofs.Lists
import ConsentBanner.Proofs.Store.Places
import Mathlib.Logic.Basic

/-!
# Sequences of calls to stores

A store in memory answers each sequence of calls as a map from keys does.  A store in a folder answers as a map from
places: keys that lead to one place share one value, and calls fail whose keys lead nowhere.  For names as keys the
two stores answer alike (`Store.answers_faithful`); other keys may be confused (`Store.answers_confused`).
-/

set_option autoImplicit false

namespace ConsentBanner

inductive StoreCall where
  | get (key : String)
  | set (key : String) (value : Json)
  | remove (key : String)

/-- What a call answers if it succeeds: what it got, if anything. -/
abbrev StoreAnswer : Type := Except StoreError (Option Json)

namespace StoreCall

def key : StoreCall → String
  | .get key => key
  | .set key _ => key
  | .remove key => key

/-- The text of the value that a call sets can be read back. -/
def IsReadable : StoreCall → Prop
  | .set _ value => Json.read value.pretty = .ok value
  | _ => True

section Slots

variable {σ : Type} [DecidableEq σ] (slot : String → σ)

/-- What a call and its answer leave in a slot.  A call that fails changes nothing. -/
def leaves (place : σ) (held : Option Json) : StoreCall × StoreAnswer → Option Json
  | (.set key value, .ok _) => if slot key = place then some value else held
  | (.remove key, .ok _) => if slot key = place then none else held
  | _ => held

/-- What calls leave in a slot where nothing was: the value of the last one that set it, unless it was removed
since. -/
def left (history : List (StoreCall × StoreAnswer)) (place : σ) : Option Json :=
  history.foldl (leaves slot place) none

/-- What a call has to answer where the slots hold certain values. -/
def told (held : σ → Option Json) : StoreCall → Option Json
  | .get key => held (slot key)
  | _ => none

theorem leaves_remove_of_none {held : σ → Option Json} {key : String} (nothing : held (slot key) = none)
    (answer : StoreAnswer) : (fun place => leaves slot place (held place) (.remove key, answer)) = held := by
  funext place
  cases answer with
  | error cause => rfl
  | ok result =>
      rw [leaves]
      split
      next same => rw [← same, nothing]
      next => rfl

theorem left_snoc (history : List (StoreCall × StoreAnswer)) (exchange : StoreCall × StoreAnswer) (place : σ) :
    left slot (history ++ [exchange]) place = leaves slot place (left slot history place) exchange := by
  rw [left, left, List.foldl_append]
  rfl

end Slots

end StoreCall

namespace Store

open StoreCall

/-- The answer to a call, and the store after it. -/
def answer (store : Store) : StoreCall → StoreAnswer × Store
  | .get key => (store.get? key, store)
  | .set key value =>
    match store.put key value with
    | .ok after => (.ok none, after)
    | .error cause => (.error cause, store)
  | .remove key =>
    match store.erase key with
    | .ok after => (.ok none, after)
    | .error cause => (.error cause, store)

def answers : Store → List StoreCall → List (StoreCall × StoreAnswer)
  | _, [] => []
  | store, call :: rest => (call, (store.answer call).1) :: answers (store.answer call).2 rest

/-- Each answer is a good one for what the earlier calls left, if each call keeps up what the store holds. -/
theorem throughout_answers {σ : Type} [DecidableEq σ] {slot : String → σ}
    (holds : Store → (σ → Option Json) → Prop) (good : Option Json → StoreCall × StoreAnswer → Prop)
    {calls : List StoreCall}
    (step : ∀ call ∈ calls, ∀ store held, holds store held →
      good (call.told slot held) (call, (store.answer call).1) ∧
        holds (store.answer call).2 fun place => leaves slot place (held place) (call, (store.answer call).1))
    {store : Store} (start : holds store fun _ => none) :
    Throughout (fun before exchange => good (exchange.1.told slot (left slot before)) exchange)
      (store.answers calls) := by
  suffices every : ∀ (history : List (StoreCall × StoreAnswer)) (store : Store), holds store (left slot history) →
      ∀ before exchange after, store.answers calls = before ++ exchange :: after →
        good (exchange.1.told slot (left slot (history ++ before))) exchange from
    fun before exchange after split => every [] store start before exchange after split
  clear start
  induction calls with
  | nil =>
      intro history store _ before exchange after split
      simp [answers] at split
  | cons call rest ih =>
      intro history store isHeld before exchange after split
      obtain ⟨first, onward⟩ := step call List.mem_cons_self store _ isHeld
      cases before with
      | nil =>
          obtain ⟨rfl, -⟩ := List.cons.inj split
          rwa [List.append_nil]
      | cons head before =>
          obtain ⟨rfl, others⟩ := List.cons.inj split
          have later := ih (fun call member => step call (List.mem_cons_of_mem _ member))
            (history ++ [(call, (store.answer call).1)]) (store.answer call).2
            (by simpa only [funext (left_snoc slot history _)] using onward) before exchange after others
          rwa [List.append_assoc] at later

theorem answer_memory (values : Keyed String Json) (call : StoreCall) :
    ∃ after, (memory values).answer call = (.ok (call.told id values.get?), .memory after) ∧
      ∀ key, after.get? key = leaves id key (values.get? key) (call, .ok (call.told id values.get?)) := by
  cases call with
  | get key => exact ⟨values, rfl, fun _ => rfl⟩
  | set key value =>
      refine ⟨values.put key value, rfl, fun other => ?_⟩
      by_cases same : key = other
      · subst same
        simp [leaves, Keyed.get?_put_self]
      · simp [leaves, same, Keyed.get?_put_of_ne]
  | remove key =>
      refine ⟨values.erase key, rfl, fun other => ?_⟩
      by_cases same : key = other
      · subst same
        simp [leaves, Keyed.get?_erase_self]
      · simp [leaves, same, Keyed.get?_erase_of_ne]

end Store

namespace Folder

open StoreCall

/-- A folder that has come of another one through calls with certain keys holds these values in its files. -/
structure Holds (start : Folder) (keys : String → Prop) (now : Folder) (held : Option Place → Option Json) :
    Prop where
  place : now.place = start.place
  alike : start.disk.Alike now.disk
  nowhere : held none = none
  files : ∀ key, keys key → ∀ place, start.slot key = some place →
    now.disk.at? place = (held (some place)).map fun value => .file value.pretty
  readable : ∀ slot value, held slot = some value → Json.read value.pretty = .ok value

namespace Holds

variable {start now : Folder} {keys : String → Prop} {held : Option Place → Option Json} {key : String}
  {place : Place}

theorem slot (holds : start.Holds keys now held) (key : String) : now.slot key = start.slot key := by
  rw [Folder.slot, holds.place]
  exact (holds.alike.locate start.place (fileName key)).symm

/-- Where a file is written or removed, the values in the other slots stay. -/
theorem sets (holds : start.Holds keys now held) (leads : start.slot key = some place) (value : Option Json)
    (readable : ∀ given, value = some given → Json.read given.pretty = .ok given) {after : Disk}
    (sets : now.disk.Sets place (value.map Json.pretty) after) :
    start.Holds keys { now with disk := after } fun slot => if start.slot key = slot then value else held slot where
  place := holds.place
  alike := holds.alike.trans sets.alike
  nowhere := by rw [leads, if_neg (Option.some_ne_none place)]; exact holds.nowhere
  files other known apart reaches := by
    by_cases same : apart = place
    · rw [same, leads, if_pos rfl]
      exact sets.here.trans (Option.map_map _ _ _)
    · rw [leads, if_neg fun equal => same (Option.some.inj equal).symm]
      exact (sets.elsewhere apart same).trans (holds.files other known apart reaches)
  readable slot given isHeld := by
    split at isHeld
    · exact readable given isHeld
    · exact holds.readable slot given isHeld

theorem answer_of_slot {call : StoreCall} (holds : start.Holds keys now held) (known : keys call.key)
    (readable : call.IsReadable) (leads : start.slot call.key = some place) :
    ∃ later, (Store.files now).answer call = (.ok (call.told start.slot held), .files later) ∧
      start.Holds keys later fun slot =>
        leaves start.slot slot (held slot) (call, .ok (call.told start.slot held)) := by
  have reaches : now.slot call.key = some place := (holds.slot call.key).trans leads
  have isThere := holds.files call.key known place leads
  have free : now.disk.at? place ≠ some .directory := by
    rw [isThere]
    cases held (some place) <;> nofun
  cases call with
  | get key =>
      have leads : start.slot key = some place := leads
      have reaches : now.slot key = some place := reaches
      refine ⟨now, Prod.ext ?_ rfl, holds⟩
      change now.get? key = .ok (held (start.slot key))
      rw [get?_of_slot reaches, isThere, leads]
      cases isHeld : held (some place) with
      | none => rfl
      | some value => simp [holds.readable _ value isHeld]
  | set key value =>
      obtain ⟨after, written, sets⟩ := put_of_slot reaches free value
      have written : now.put key value = .ok { now with disk := after } := written
      refine ⟨_, ?_, holds.sets leads (some value) (fun given is => Option.some.inj is ▸ readable) sets⟩
      simp only [Store.answer, Store.put, written]
      rfl
  | remove key =>
      have leads : start.slot key = some place := leads
      cases isHeld : held (some place) with
      | none =>
          have erased : now.erase key = .ok now := erase_of_free reaches (by rw [isThere, isHeld]; rfl)
          refine ⟨now, ?_, ?_⟩
          · simp only [Store.answer, Store.erase, erased]
            rfl
          · rwa [leaves_remove_of_none _ (leads ▸ isHeld)]
      | some value =>
          obtain ⟨after, erased, sets⟩ := erase_of_file reaches (by rw [isThere, isHeld]; rfl)
          have erased : now.erase key = .ok { now with disk := after } := erased
          refine ⟨_, ?_, holds.sets leads none (fun _ => nofun) sets⟩
          simp only [Store.answer, Store.erase, erased]
          rfl

/-- A call whose key leads nowhere changes nothing and gets nothing, if it succeeds at all. -/
theorem answer_of_no_slot {call : StoreCall} (holds : start.Holds keys now held)
    (nowhere : start.slot call.key = none) :
    ∃ answer, (Store.files now).answer call = (answer, .files now) ∧
      (start.Holds keys now fun slot => leaves start.slot slot (held slot) (call, answer)) ∧
      ∀ result, answer = .ok result → result = call.told start.slot held := by
  have missing : now.slot call.key = none := (holds.slot call.key).trans nowhere
  cases call with
  | get key =>
      have missing : now.slot key = none := missing
      refine ⟨now.get? key, rfl, holds, fun result got => ?_⟩
      rw [told, show start.slot key = none from nowhere, holds.nowhere]
      exact get?_of_no_slot missing got
  | set key value =>
      have missing : now.slot key = none := missing
      obtain ⟨cause, fails⟩ := put_of_no_slot missing value
      refine ⟨.error (.changing cause), ?_, holds, fun _ => nofun⟩
      simp [Store.answer, Store.put, fails, Except.map]
  | remove key =>
      have missing : now.slot key = none := missing
      have nothing : held (start.slot key) = none := by
        rw [show start.slot key = none from nowhere, holds.nowhere]
      simp only [leaves_remove_of_none _ nothing]
      rcases erase_of_no_slot missing with stays | ⟨cause, fails⟩
      · refine ⟨.ok none, ?_, holds, fun result is => (Except.ok.inj is).symm⟩
        simp [Store.answer, Store.erase, stays, Except.map]
      · refine ⟨.error (.changing cause), ?_, holds, fun _ => nofun⟩
        simp [Store.answer, Store.erase, fails, Except.map]

end Holds

theorem holds_nothing (folder : Folder) {keys : String → Prop}
    (free : ∀ key, keys key → ∀ place, folder.slot key = some place → folder.disk.at? place = none) :
    folder.Holds keys folder fun _ => none where
  place := rfl
  alike := .refl folder.disk
  nowhere := rfl
  files key known place leads := free key known place leads
  readable _ _ := nofun

/-- A call changes nothing, or the file at the slot of its key and nothing else. -/
theorem sets_of_answer (folder : Folder) (call : StoreCall) :
    ((Store.files folder).answer call).2 = .files folder ∨
      ∃ place text after, folder.slot call.key = some place ∧ folder.disk.Sets place text after ∧
        ((Store.files folder).answer call).2 = .files { folder with disk := after } := by
  cases call with
  | get key => exact .inl rfl
  | set key value =>
      cases written : folder.disk.write folder.place (fileName key) value.pretty with
      | error cause => exact .inl (by simp [Store.answer, Store.put, put, written, Except.map])
      | ok after =>
          obtain ⟨place, leads, sets⟩ := Disk.sets_of_write written
          refine .inr ⟨place, _, after, ?_, sets, by simp [Store.answer, Store.put, put, written, Except.map]⟩
          exact congrArg Except.toOption leads
  | remove key =>
      cases removed : folder.disk.remove folder.place (fileName key) with
      | error cause =>
          refine .inl ?_
          cases cause <;> simp [Store.answer, Store.erase, erase, removed, Except.map]
      | ok after =>
          obtain ⟨place, leads, sets⟩ := Disk.sets_of_remove removed
          refine .inr ⟨place, _, after, ?_, sets, by simp [Store.answer, Store.erase, erase, removed, Except.map]⟩
          exact congrArg Except.toOption leads

/-- A call about another slot does not change what is got. -/
theorem get?_answer {folder : Folder} {call : StoreCall} {key : String} {place : Place}
    (leads : folder.slot key = some place) (apart : folder.slot call.key ≠ some place) :
    ((Store.files folder).answer call).2.get? key = folder.get? key := by
  rcases folder.sets_of_answer call with same | ⟨other, text, after, reaches, sets, changed⟩
  · rw [same]
    rfl
  · rw [changed]
    exact get?_of_sets leads sets fun same => apart (same ▸ reaches)

/-- There is nothing right in a folder. -/
def IsEmpty (folder : Folder) : Prop := ∀ name, folder.disk.at? (folder.place ++ [name]) = none

theorem IsEmpty.free {folder : Folder} (empty : folder.IsEmpty) {key : String} (plain : IsPlain key) {place : Place}
    (leads : folder.slot key = some place) : folder.disk.at? place = none := by
  rw [folder.slot_of_isPlain plain] at leads
  exact Option.some.inj leads ▸ empty _

end Folder

namespace Store

open StoreCall Folder

/-- The slots of names are as different as the names. -/
theorem leaves_of_plain (folder : Folder) {call : StoreCall} (simple : IsPlain call.key) {key : String}
    (plain : IsPlain key) (held : Option Json) (answer : StoreAnswer) :
    leaves folder.slot (folder.slot key) held (call, answer) = leaves id key held (call, answer) := by
  cases call with
  | get other => rfl
  | set other value | remove other =>
      have same : folder.slot other = folder.slot key ↔ other = key :=
        ⟨folder.slot_injective simple plain, congrArg folder.slot⟩
      cases answer with
      | error cause => rfl
      | ok result => simp [leaves, same]

theorem answers_of_plain {start : Folder} {calls : List StoreCall} : ∀ {now : Folder} {values : Keyed String Json}
    {held : Option Place → Option Json}, start.Holds IsPlain now held →
    (∀ key, IsPlain key → values.get? key = held (start.slot key)) →
    (∀ call ∈ calls, IsPlain call.key ∧ call.IsReadable) →
    (files now).answers calls = (memory values).answers calls := by
  induction calls with
  | nil => exact fun _ _ _ => rfl
  | cons call rest ih =>
      intro now values held holds agree plain
      obtain ⟨simple, readable⟩ := plain call List.mem_cons_self
      obtain ⟨later, filed, laterHolds⟩ := holds.answer_of_slot simple readable (start.slot_of_isPlain simple)
      obtain ⟨after, kept, changed⟩ := answer_memory values call
      have same : call.told start.slot held = call.told id values.get? := by
        cases call with
        | get key => exact (agree key simple).symm
        | _ => rfl
      have alike : ∀ key, IsPlain key → after.get? key =
          leaves start.slot (start.slot key) (held (start.slot key)) (call, .ok (call.told start.slot held)) := by
        intro key isName
        rw [changed key, leaves_of_plain start simple isName, same, agree key isName]
      rw [answers, answers, filed, kept, same]
      exact congrArg _ (ih laterHolds alike fun call member => plain call (List.mem_cons_of_mem _ member))

/-- A store in memory answers each sequence of calls as a map from keys does, and so does a store in an empty folder
if the keys are names.  With other keys a store in a folder where nothing is at their places answers as a map from
places does: a call whose key leads to a place succeeds, and one whose key leads nowhere gets nothing.  In whatever
folder, a call about one place does not change what is got from another one. -/
theorem answers_faithful {calls : List StoreCall} (readable : ∀ call ∈ calls, call.IsReadable) :
    Throughout (fun before exchange => exchange.2 = .ok (exchange.1.told id (left id before)))
        ((memory []).answers calls) ∧
      (∀ folder : Folder, folder.IsEmpty → (∀ call ∈ calls, IsPlain call.key) →
        (files folder).answers calls = (memory []).answers calls) ∧
      (∀ folder : Folder,
        (∀ call ∈ calls, ∀ place, folder.slot call.key = some place → folder.disk.at? place = none) →
        Throughout (fun before exchange =>
            ((folder.slot exchange.1.key).isSome = true →
                exchange.2 = .ok (exchange.1.told folder.slot (left folder.slot before))) ∧
              ∀ result, exchange.2 = .ok result → result = exchange.1.told folder.slot (left folder.slot before))
          ((files folder).answers calls)) ∧
      ∀ (folder : Folder) (call : StoreCall) (key : String) (place : Place), folder.slot key = some place →
        folder.slot call.key ≠ some place → ((files folder).answer call).2.get? key = (files folder).get? key := by
  refine ⟨?_, fun folder empty plain => ?_, fun folder free => ?_, fun folder call key place leads apart =>
    get?_answer leads apart⟩
  · refine throughout_answers (fun store held => ∃ values, store = memory values ∧ values.get? = held)
      (fun expected exchange => exchange.2 = .ok expected) ?_ ⟨[], rfl, rfl⟩
    rintro call - store held ⟨values, rfl, rfl⟩
    obtain ⟨after, answered, changed⟩ := answer_memory values call
    rw [answered]
    exact ⟨rfl, after, rfl, funext changed⟩
  · have nothing := holds_nothing folder fun key simple place leads => empty.free simple leads
    exact answers_of_plain nothing (fun _ _ => rfl) fun call member => ⟨plain call member, readable call member⟩
  · refine throughout_answers
      (fun store held => ∃ now, store = files now ∧
        folder.Holds (fun key => ∃ call ∈ calls, call.key = key) now held)
      (fun expected exchange => ((folder.slot exchange.1.key).isSome = true → exchange.2 = .ok expected) ∧
        ∀ result, exchange.2 = .ok result → result = expected) ?_ ⟨folder, rfl, folder.holds_nothing ?_⟩
    · rintro call member store held ⟨now, rfl, isHeld⟩
      cases leads : folder.slot call.key with
      | some place =>
          obtain ⟨later, answered, laterHeld⟩ :=
            isHeld.answer_of_slot ⟨call, member, rfl⟩ (readable call member) leads
          rw [answered]
          exact ⟨⟨fun _ => rfl, fun result is => (Except.ok.inj is).symm⟩, later, rfl, laterHeld⟩
      | none =>
          obtain ⟨answer, answered, still, gets⟩ := isHeld.answer_of_no_slot leads
          rw [answered]
          exact ⟨⟨fun somewhere => by simp at somewhere, gets⟩, now, rfl, still⟩
    · rintro key ⟨call, member, rfl⟩ place leads
      exact free call member place leads

/-- A value is set, got and removed, and removed again when it is missing. -/
theorem answers_faithful_removed :
    let folder : Folder := ⟨.withDirectory ["store"], ["store"], "store"⟩
    let calls : List StoreCall :=
      [.set "rules" (.bool true), .get "rules", .remove "rules", .remove "rules", .get "rules"]
    (∀ call ∈ calls, call.IsReadable) ∧ folder.IsEmpty ∧ (∀ call ∈ calls, IsPlain call.key) ∧
      (∀ call ∈ calls, ∀ place, folder.slot call.key = some place → folder.disk.at? place = none) ∧
      (files folder).answers calls = (memory []).answers calls ∧
      told folder.slot (left folder.slot [(.set "rules" (.bool true), .ok none)]) (.get "rules") = some (.bool true) ∧
      ((files folder).answer (.set "rules" .null)).2.get? "config" = (files folder).get? "config" := by
  intro folder calls
  have reads : Json.read (Json.bool true).pretty = .ok (.bool true) := rfl
  have readable : ∀ call ∈ calls, call.IsReadable := by simpa [calls, IsReadable] using reads
  have empty : folder.IsEmpty := fun name => by simp [folder, Disk.at?, Disk.withDirectory, Keyed.get?]
  have rules : IsPlain "rules" := ⟨by decide, by decide, by decide⟩
  have config : IsPlain "config" := ⟨by decide, by decide, by decide⟩
  have plain : ∀ call ∈ calls, IsPlain call.key := by
    intro call member
    have same : ∀ call ∈ calls, call.key = "rules" := by decide
    exact same call member ▸ rules
  have leads := folder.slot_of_isPlain config
  have apart : folder.slot "rules" ≠ some (folder.place ++ [fileName "config"]) := fun same =>
    absurd (folder.slot_injective rules config (same.trans leads.symm)) (by decide)
  have free : ∀ call ∈ calls, ∀ place, folder.slot call.key = some place → folder.disk.at? place = none :=
    fun call member _ reaches => empty.free (plain call member) reaches
  obtain ⟨-, alike, slots, others⟩ := answers_faithful readable
  have kept := slots folder free [(.set "rules" (.bool true), .ok none)] (.get "rules", .ok (some (.bool true))) _ rfl
  exact ⟨readable, empty, plain, free, alike folder empty plain, (kept.2 _ rfl).symm,
    others folder (.set "rules" .null) _ _ leads apart⟩

/-- A key with a step on the spot shares the file of the name alone, so that one value replaces the other, where a
store in memory keeps both. -/
theorem answers_confused :
    let folder : Folder := ⟨.withDirectory ["store"], ["store"], "store"⟩
    let calls : List StoreCall := [.set "x" (.bool true), .set "./x" (.bool false), .get "x"]
    folder.IsEmpty ∧
      (files folder).answers calls = calls.zip [.ok none, .ok none, .ok (some (.bool false))] ∧
      (memory []).answers calls = calls.zip [.ok none, .ok none, .ok (some (.bool true))] := by
  intro folder calls
  refine ⟨fun name => ?_, rfl, rfl⟩
  simp [folder, Disk.at?, Disk.withDirectory, Keyed.get?]

end Store

end ConsentBanner
