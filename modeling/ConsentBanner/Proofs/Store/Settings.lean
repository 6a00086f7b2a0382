import ConsentBanner.Proofs.Json.RoundTrip
import ConsentBanner.Proofs.Store.Transcript
import ConsentBanner.Store.Settings

/-!
# Configurations and rules that are kept

What is done with the settings in a store is a sequence of calls to it, which ends with the first one that fails
(`Deal`).  Whatever fails leaves the store as it was, and what was kept is what is found later
(`Store.keeps_settings`).

Rules that are installed change what is got under their own key and under those that lead to the same file, as a file
in a folder has many names (`Store.installRules_confuses`).
-/

set_option autoImplicit false

namespace ConsentBanner

/-- Something done with a store through calls to it. -/
inductive Deal (α : Type) where
  | done (result : Except StoreError α)
  /-- A call, and what is done with what it got. -/
  | call (made : StoreCall) (onward : Option Json → Deal α)

/-- What comes of a deal: its result, the store after it, and the calls that were made. -/
structure Deal.Outcome (α : Type) where
  result : Except StoreError α
  store : Store
  calls : List StoreCall

namespace Deal

variable {α : Type}

/-- Makes the calls of a deal, up to the first one that fails. -/
def on : Deal α → Store → Outcome α
  | .done result, store => ⟨result, store, []⟩
  | .call made onward, store =>
    match store.answer made with
    | (.error cause, after) => ⟨.error cause, after, [made]⟩
    | (.ok got, after) =>
      let rest := (onward got).on after
      { rest with calls := made :: rest.calls }

/-- What a deal comes to if it succeeds, with the store after it. -/
def Outcome.yield (outcome : Outcome α) : Except StoreError (α × Store) :=
  outcome.result.map fun value => (value, outcome.store)

/-- A deal that fails leaves the store as it was. -/
def IsCareful (deal : Deal α) : Prop :=
  ∀ store cause, (deal.on store).result = .error cause → (deal.on store).store = store

/-- Puts a value under a key, and comes to another one. -/
def keep (key : String) (kept : Json) (value : α) : Deal α := .call (.set key kept) fun _ => .done (.ok value)

/-- Gets the kept configuration; where there is none, the initial one is kept. -/
def loadConfig : Deal EngineConfig :=
  .call (.get Store.configKey) fun got =>
    match got with
    | some kept => .done ((EngineConfig.decode .direct kept).mapError .decodingConfig)
    | none => keep Store.configKey EngineConfig.initial.encode .initial

def loadRules : Deal RuleSet :=
  .call (.get Store.rulesKey) fun got =>
    match got with
    | some kept => .done ((RuleSet.decode .direct kept).mapError .decodingRules)
    | none => .done (.ok .empty)

def saveConfig (config : EngineConfig) : Deal Unit := keep Store.configKey config.encode ()

def installRules (path : String) (delivered : Except FileError String) : Deal RuleSet :=
  match delivered with
  | .error cause => .done (.error (.readingRules path cause))
  | .ok text =>
    match RuleSet.ofText text with
    | .error cause => .done (.error (.parsing path cause))
    | .ok rules => keep Store.rulesKey rules.encode rules

theorem on_keep (key : String) (kept : Json) (value : α) (store : Store) : (keep key kept value).on store =
    match store.put key kept with
    | .ok after => ⟨.ok value, after, [.set key kept]⟩
    | .error cause => ⟨.error cause, store, [.set key kept]⟩ := by
  rw [keep, on, Store.answer]
  cases store.put key kept <;> rfl

theorem on_get (key : String) (onward : Option Json → Deal α) (store : Store) : (call (.get key) onward).on store =
    match store.get? key with
    | .ok got => { (onward got).on store with calls := .get key :: ((onward got).on store).calls }
    | .error cause => ⟨.error cause, store, [.get key]⟩ := by
  rw [on, Store.answer]
  cases store.get? key <;> rfl

/-! ## Deals and the functions that they stand for -/

theorem yield_saveConfig (config : EngineConfig) (store : Store) :
    ((saveConfig config).on store).yield.map Prod.snd = store.saveConfig config := by
  rw [saveConfig, on_keep, Store.saveConfig]
  cases store.put Store.configKey config.encode <;> rfl

theorem yield_loadConfig (store : Store) : (loadConfig.on store).yield = store.loadConfig := by
  rw [loadConfig, on_get, Store.loadConfig]
  cases store.get? Store.configKey with
  | error cause => rfl
  | ok got =>
      cases got with
      | some kept =>
          simp only [on, Outcome.yield, bind, Except.bind]
          cases EngineConfig.decode .direct kept <;> rfl
      | none =>
          simp only [on_keep, Store.saveConfig, bind, Except.bind]
          cases store.put Store.configKey EngineConfig.initial.encode <;> rfl

theorem yield_loadRules (store : Store) : (loadRules.on store).yield.map Prod.fst = store.loadRules := by
  rw [loadRules, on_get, Store.loadRules]
  cases store.get? Store.rulesKey with
  | error cause => rfl
  | ok got =>
      cases got with
      | some kept =>
          simp only [on, Outcome.yield, bind, Except.bind]
          cases RuleSet.decode .direct kept <;> rfl
      | none => rfl

theorem yield_installRules (path : String) (delivered : Except FileError String) (store : Store) :
    ((installRules path delivered).on store).yield = store.installRules path delivered := by
  cases delivered with
  | error cause => rfl
  | ok text =>
      simp only [installRules, Store.installRules, bind, Except.bind, Except.mapError]
      cases RuleSet.ofText text with
      | error cause => rfl
      | ok rules =>
          simp only [on_keep]
          cases store.put Store.rulesKey rules.encode <;> rfl

/-! ## Deals that fail -/

theorem isCareful_keep (key : String) (kept : Json) (value : α) : (keep key kept value).IsCareful := by
  intro store cause fails
  rw [on_keep] at fails ⊢
  cases put : store.put key kept with
  | ok after => simp [put] at fails
  | error other => rfl

theorem isCareful_done (result : Except StoreError α) : (Deal.done result).IsCareful := fun _ _ _ => rfl

/-- To get something first takes no care. -/
theorem isCareful_get {key : String} {onward : Option Json → Deal α} (careful : ∀ got, (onward got).IsCareful) :
    (Deal.call (.get key) onward).IsCareful := by
  intro store cause fails
  rw [on_get] at fails ⊢
  cases got : store.get? key with
  | ok found =>
      simp only [got] at fails
      exact careful found store cause fails
  | error other => rfl

theorem isCareful_loadConfig : loadConfig.IsCareful := isCareful_get fun got =>
  match got with
  | some _ => isCareful_done _
  | none => isCareful_keep _ _ _

theorem isCareful_loadRules : loadRules.IsCareful := isCareful_get fun got =>
  match got with
  | some _ => isCareful_done _
  | none => isCareful_done _

theorem isCareful_installRules (path : String) (delivered : Except FileError String) :
    (installRules path delivered).IsCareful := by
  unfold installRules
  split
  · exact isCareful_done _
  · split
    · exact isCareful_done _
    · exact isCareful_keep _ _ _

end Deal

namespace Store

open Folder

/-- A value can be kept under a name: in a folder no directory is in the way, and the text of the value can be read
back. -/
def CanKeep (store : Store) (key : String) (value : Json) : Prop :=
  match store with
  | .memory _ => True
  | .files folder =>
    folder.disk.at? (folder.place ++ [fileName key]) ≠ some .directory ∧ Json.read value.pretty = .ok value

/-- What is kept under one key is kept apart from what is under another one: in a folder the keys lead to different
places. -/
def Separates (store : Store) (key other : String) : Prop :=
  match store with
  | .memory _ => key ≠ other
  | .files folder => ∃ place, folder.slot other = some place ∧ folder.slot key ≠ some place

theorem separates_of_isPlain (store : Store) {key other : String} (plain : IsPlain key) (simple : IsPlain other)
    (apart : key ≠ other) : store.Separates key other := by
  cases store with
  | memory values => exact apart
  | files folder =>
      have leads := folder.slot_of_isPlain simple
      exact ⟨_, leads, fun same => apart (folder.slot_injective plain simple (same.trans leads.symm))⟩

/-- A value that can be kept is got again, and what is apart from it stays. -/
theorem put_of_canKeep {store : Store} {key : String} {value : Json} (plain : IsPlain key)
    (can : store.CanKeep key value) :
    ∃ after, store.put key value = .ok after ∧ after.get? key = .ok (some value) ∧
      ∀ other, store.Separates key other → after.get? other = store.get? other := by
  cases store with
  | memory values =>
      refine ⟨_, rfl, congrArg Except.ok (Keyed.get?_put_self _ _ _), fun other apart => ?_⟩
      exact congrArg Except.ok (Keyed.get?_put_of_ne _ _ apart)
  | files folder =>
      obtain ⟨free, readable⟩ := can
      have leads := folder.slot_of_isPlain plain
      obtain ⟨after, written, sets⟩ := put_of_slot leads free value
      have reaches : Folder.slot { folder with disk := after } key = some (folder.place ++ [fileName key]) :=
        Folder.slot_of_isPlain { folder with disk := after } plain
      refine ⟨.files { folder with disk := after }, by rw [put, written]; rfl, ?_, ?_⟩
      · change Folder.get? { folder with disk := after } key = _
        rw [get?_of_slot reaches, sets.here]
        simp [readable]
      · rintro other ⟨place, arrives, apart⟩
        exact get?_of_sets arrives sets fun same => apart (leads.trans (congrArg some same))

theorem isPlain_configKey : IsPlain configKey := ⟨by decide, by decide, by decide⟩

theorem isPlain_rulesKey : IsPlain rulesKey := ⟨by decide, by decide, by decide⟩

structure KeepsConfig (store : Store) : Prop where
  /-- The functions do what the deals do, and where these fail the store is as it was. -/
  does : store.loadConfig = (Deal.loadConfig.on store).yield ∧ Deal.loadConfig.IsCareful ∧
    ∀ config, store.saveConfig config = ((Deal.saveConfig config).on store).yield.map Prod.snd ∧
      (Deal.saveConfig config).IsCareful
  /-- Where there is no configuration, the initial one is kept and found. -/
  starts : store.get? configKey = .ok none →
    (Deal.loadConfig.on store).calls = [.get configKey, .set configKey EngineConfig.initial.encode] ∧
      (store.CanKeep configKey EngineConfig.initial.encode → ∃ after,
        store.loadConfig = .ok (.initial, after) ∧ after.get? configKey = .ok (some EngineConfig.initial.encode))
  /-- Otherwise nothing is written, and what cannot be read is an error. -/
  finds : store.get? configKey ≠ .ok none →
    (Deal.loadConfig.on store).calls = [.get configKey] ∧ (Deal.loadConfig.on store).store = store ∧
      (∀ cause, store.get? configKey = .error cause → store.loadConfig = .error cause) ∧
      ∀ kept, store.get? configKey = .ok (some kept) →
        store.loadConfig = ((EngineConfig.decode .direct kept).mapError .decodingConfig).map (·, store)
  /-- A configuration that was kept is found. -/
  keeps : ∀ config, config.detectRetries < 2 ^ 32 → store.CanKeep configKey config.encode → ∃ after,
    store.saveConfig config = .ok after ∧ after.loadConfig = .ok (config, after)

structure KeepsRules (store : Store) : Prop where
  /-- The functions do what the deals do, and where these fail the store is as it was. -/
  does : store.loadRules = (Deal.loadRules.on store).yield.map Prod.fst ∧ Deal.loadRules.IsCareful ∧
    ∀ path delivered, store.installRules path delivered = ((Deal.installRules path delivered).on store).yield ∧
      (Deal.installRules path delivered).IsCareful
  /-- Rules are looked for without any change, and what cannot be read is an error. -/
  finds : (Deal.loadRules.on store).calls = [.get rulesKey] ∧ (Deal.loadRules.on store).store = store ∧
    (∀ cause, store.get? rulesKey = .error cause → store.loadRules = .error cause) ∧
    ∀ kept, store.get? rulesKey = .ok (some kept) →
      store.loadRules = (RuleSet.decode .direct kept).mapError .decodingRules
  /-- Without a file, and where it cannot be read, no call is made. -/
  refuses : ∀ path delivered,
    (∀ cause, delivered = .error cause → (Deal.installRules path delivered).on store =
      ⟨.error (.readingRules path cause), store, []⟩) ∧
    ∀ text, delivered = .ok text → ∀ cause, RuleSet.ofText text = .error cause →
      (Deal.installRules path delivered).on store = ⟨.error (.parsing path cause), store, []⟩
  /-- Rules that were read from a file are found and come to the same, and all that is apart from them stays. -/
  keeps : ∀ path text rules, RuleSet.ofText text = .ok rules → store.CanKeep rulesKey rules.encode → ∃ after,
    store.installRules path (.ok text) = .ok (rules, after) ∧
      ((Deal.installRules path (.ok text)).on store).calls = [.set rulesKey rules.encode] ∧
      after.loadRules = .ok rules ∧
      (∀ found, after.loadRules = .ok found → found.decodeRules = rules.decodeRules) ∧
      ∀ key, store.Separates rulesKey key → after.get? key = store.get? key

section Found

variable {store : Store} {kept : Json} {cause : StoreError}

theorem on_loadConfig_of_get? (got : store.get? configKey = .ok (some kept)) : Deal.loadConfig.on store =
    ⟨(EngineConfig.decode .direct kept).mapError .decodingConfig, store, [.get configKey]⟩ := by
  rw [Deal.loadConfig, Deal.on_get, got]
  rfl

theorem on_loadConfig_of_failed (failed : store.get? configKey = .error cause) :
    Deal.loadConfig.on store = ⟨.error cause, store, [.get configKey]⟩ := by
  rw [Deal.loadConfig, Deal.on_get, failed]

theorem loadConfig_of_get? (got : store.get? configKey = .ok (some kept)) :
    store.loadConfig = ((EngineConfig.decode .direct kept).mapError .decodingConfig).map (·, store) := by
  rw [← Deal.yield_loadConfig, on_loadConfig_of_get? got]
  rfl

theorem on_loadRules_of_get? (got : store.get? rulesKey = .ok (some kept)) : Deal.loadRules.on store =
    ⟨(RuleSet.decode .direct kept).mapError .decodingRules, store, [.get rulesKey]⟩ := by
  rw [Deal.loadRules, Deal.on_get, got]
  rfl

theorem loadRules_of_get? (got : store.get? rulesKey = .ok (some kept)) :
    store.loadRules = (RuleSet.decode .direct kept).mapError .decodingRules := by
  rw [← Deal.yield_loadRules, on_loadRules_of_get? got]
  cases RuleSet.decode .direct kept <;> rfl

end Found

theorem keepsConfig (store : Store) : store.KeepsConfig where
  does := ⟨(Deal.yield_loadConfig store).symm, Deal.isCareful_loadConfig, fun config =>
    ⟨(Deal.yield_saveConfig config store).symm, Deal.isCareful_keep _ _ _⟩⟩
  starts absent := by
    have calls : (Deal.loadConfig.on store).calls =
        [.get configKey, .set configKey EngineConfig.initial.encode] := by
      rw [Deal.loadConfig, Deal.on_get, absent]
      simp only [Deal.on_keep]
      cases store.put configKey EngineConfig.initial.encode <;> rfl
    refine ⟨calls, fun can => ?_⟩
    obtain ⟨after, written, found, -⟩ := put_of_canKeep isPlain_configKey can
    refine ⟨after, ?_, found⟩
    simp only [loadConfig, absent, saveConfig, written]
    rfl
  finds present := by
    cases got : store.get? configKey with
    | error cause =>
        have ends := on_loadConfig_of_failed got
        refine ⟨by rw [ends], by rw [ends], fun other same => ?_, nofun⟩
        rw [← Deal.yield_loadConfig, ends, ← Except.error.inj same]
        rfl
    | ok found =>
        obtain ⟨kept, rfl⟩ := Option.ne_none_iff_exists'.mp fun none => present (none ▸ got)
        have ends := on_loadConfig_of_get? got
        exact ⟨by rw [ends], by rw [ends], nofun, fun other same => loadConfig_of_get? (got.trans same)⟩
  keeps config fits can := by
    obtain ⟨after, written, found, -⟩ := put_of_canKeep isPlain_configKey can
    refine ⟨after, written, ?_⟩
    rw [loadConfig_of_get? found, EngineConfig.decode_encode fits]
    rfl

theorem keepsRules (store : Store) : store.KeepsRules where
  does := ⟨(Deal.yield_loadRules store).symm, Deal.isCareful_loadRules, fun path delivered =>
    ⟨(Deal.yield_installRules path delivered store).symm, Deal.isCareful_installRules path delivered⟩⟩
  finds := by
    refine ⟨?_, ?_, fun cause failed => ?_, fun kept => loadRules_of_get?⟩
    · rw [Deal.loadRules, Deal.on_get]
      rcases store.get? rulesKey with cause | (_ | kept) <;> rfl
    · rw [Deal.loadRules, Deal.on_get]
      rcases store.get? rulesKey with cause | (_ | kept) <;> rfl
    · rw [loadRules, failed]
      rfl
  refuses path delivered := by
    refine ⟨fun cause fails => ?_, fun text is cause broken => ?_⟩
    · rw [fails]
      rfl
    · rw [is, Deal.installRules, broken]
      rfl
  keeps path text rules read can := by
    obtain ⟨after, written, found, others⟩ := put_of_canKeep isPlain_rulesKey can
    have ends : (Deal.installRules path (.ok text)).on store = ⟨.ok rules, after, [.set rulesKey rules.encode]⟩ := by
      rw [Deal.installRules]
      simp only [read, Deal.on_keep, written]
    have loads : after.loadRules = .ok rules := by
      rw [loadRules_of_get? found, RuleSet.decode_encode]
      rfl
    refine ⟨after, ?_, by rw [ends], loads, fun again same => ?_, others⟩
    · rw [← Deal.yield_installRules, ends]
      rfl
    · rw [Except.ok.inj (same.symm.trans loads)]

/-- In every store, in memory or in a folder and whatever it holds, settings are kept all or not at all, and what was
kept is what is found.  Names other than that of the rules are apart from it. -/
theorem keeps_settings (store : Store) : store.KeepsConfig ∧ store.KeepsRules ∧
    ∀ key, IsPlain key → key ≠ rulesKey → store.Separates rulesKey key :=
  ⟨store.keepsConfig, store.keepsRules, fun _ plain apart =>
    store.separates_of_isPlain isPlain_rulesKey plain apart.symm⟩

/-- A configuration and a rule are kept in an empty folder, and what is kept under another name stays. -/
theorem keeps_settings_folder :
    let store : Store := .files ⟨.withDirectory ["store"], ["store"], "store"⟩
    let config : EngineConfig := ⟨true, .optOut, ["Evidon"], false, 3⟩
    let rules : RuleSet := ⟨[], [.null]⟩
    let text := "[\x7b\x7d, [null]]"
    store.CanKeep configKey config.encode ∧ RuleSet.ofText text = .ok rules ∧ store.CanKeep rulesKey rules.encode ∧
      (∃ after, store.saveConfig config = .ok after ∧ after.loadConfig = .ok (config, after)) ∧
      ∃ after, store.installRules "rules.json" (.ok text) = .ok (rules, after) ∧ after.loadRules = .ok rules ∧
        after.get? configKey = store.get? configKey := by
  intro store config rules text
  have configReads : Json.read config.encode.pretty = .ok config.encode := Json.eq_ok_of_agrees (by decide +kernel)
  have rulesRead : Json.read rules.encode.pretty = .ok rules.encode := Json.eq_ok_of_agrees (by decide +kernel)
  have reads : RuleSet.ofText text = .ok rules := RuleSet.eq_ok_of_agrees (by decide +kernel)
  have first : store.CanKeep configKey config.encode := ⟨by decide, configReads⟩
  have second : store.CanKeep rulesKey rules.encode := ⟨by decide, rulesRead⟩
  obtain ⟨keepsConfig, keepsRules, separates⟩ := keeps_settings store
  obtain ⟨after, installed, -, loads, -, others⟩ := keepsRules.keeps "rules.json" text rules reads second
  exact ⟨first, reads, second, keepsConfig.keeps config (by decide) first, after, installed, loads,
    others configKey (separates configKey isPlain_configKey (by decide))⟩

/-- A key with a step on the spot leads to the file of the rules.  So something is got under it once rules are
installed, where nothing was before. -/
theorem installRules_confuses :
    let folder : Folder := ⟨.withDirectory ["store"], ["store"], "store"⟩
    "./rules" ≠ rulesKey ∧ (files folder).get? "./rules" = .ok none ∧
      ∃ after value, (files folder).installRules "rules.json" (.ok "\x7b\x7d") = .ok (.empty, after) ∧
        after.get? "./rules" = .ok (some value) := by
  intro folder
  refine ⟨by decide, rfl, ?_⟩
  have read : RuleSet.ofText "\x7b\x7d" = .ok .empty := RuleSet.eq_ok_of_agrees (by decide +kernel)
  have readsBack : Json.read RuleSet.empty.encode.pretty = .ok RuleSet.empty.encode :=
    Json.eq_ok_of_agrees (by decide +kernel)
  obtain ⟨after, written, sets⟩ := put_of_slot (folder.slot_of_isPlain isPlain_rulesKey) nofun RuleSet.empty.encode
  have reaches : Folder.slot { folder with disk := after } "./rules" = some (folder.place ++ [fileName rulesKey]) :=
    (sets.alike.locate folder.place (fileName "./rules")).symm.trans rfl
  refine ⟨.files { folder with disk := after }, RuleSet.empty.encode, ?_, ?_⟩
  · rw [← Deal.yield_installRules, Deal.installRules]
    simp only [read, Deal.on_keep, put, written]
    rfl
  · change Folder.get? { folder with disk := after } "./rules" = _
    rw [get?_of_slot reaches, sets.here]
    simp [readsBack]

end Store

end ConsentBanner
