import ConsentBanner.Store.Basic

/-!
# Files at their places

Writing and removing files leaves all directories as they are, so that a path that leads to a place leads there ever
after (`Disk.Alike.locate`).  A file that is written or removed is the only thing that changes (`Disk.Sets`).  In a
folder each key has a slot, the place to which it leads; different keys may share one.  The slots of plain keys are
all different and stand right in the folder (`Folder.slot_of_isPlain`).
-/

set_option autoImplicit false

namespace ConsentBanner

namespace Disk

/-- Two disks have the same directories. -/
def Alike (disk other : Disk) : Prop :=
  ∀ place, disk.at? place = some .directory ↔ other.at? place = some .directory

namespace Alike

variable {disk other last : Disk}

theorem refl (disk : Disk) : disk.Alike disk := fun _ => Iff.rfl

theorem symm (alike : disk.Alike other) : other.Alike disk := fun place => (alike place).symm

theorem trans (first : disk.Alike other) (second : other.Alike last) : disk.Alike last :=
  fun place => (first place).trans (second place)

theorem walk (alike : disk.Alike other) {place : Place} (names : List String) : ∀ start : Place,
    disk.walk start names = .ok place → other.walk start names = .ok place := by
  induction names with
  | nil => exact fun _ leads => leads
  | cons name rest ih =>
      intro start leads
      rw [Disk.walk] at leads ⊢
      split
      next stays => exact ih _ (by rwa [if_pos stays] at leads)
      next moves =>
        rw [if_neg moves] at leads
        split
        next up => exact ih _ (by rwa [if_pos up] at leads)
        next down =>
          rw [if_neg down] at leads
          split
          next long =>
            rw [if_pos long] at leads
            cases leads
          next short =>
            simp only [if_neg short] at leads ⊢
            split
            next last => rwa [if_pos last] at leads
            next more =>
              rw [if_neg more] at leads
              split at leads
              next through =>
                rw [(alike _).mp through]
                exact ih _ leads
              all_goals cases leads

/-- A path leads to the same place where the directories are the same. -/
theorem locate (alike : disk.Alike other) (start : Place) (path : String) :
    (disk.locate start path).toOption = (other.locate start path).toOption := by
  have one : ∀ {disk other : Disk}, disk.Alike other → ∀ place, disk.locate start path = .ok place →
      other.locate start path = .ok place := by
    intro disk other alike place leads
    rw [Disk.locate] at leads ⊢
    split
    next ended =>
      rw [if_pos ended] at leads
      cases leads
    next whole =>
      rw [if_neg whole] at leads
      exact alike.walk _ _ leads
  cases leads : disk.locate start path with
  | ok place => rw [one alike place leads]
  | error cause =>
      cases reaches : other.locate start path with
      | error cause => rfl
      | ok place => cases leads.symm.trans (one alike.symm place reaches)

end Alike

/-- One disk is another one with a file written or removed at a place. -/
structure Sets (disk : Disk) (place : Place) (text : Option String) (after : Disk) : Prop where
  free : disk.at? place ≠ some .directory
  here : after.at? place = text.map .file
  elsewhere : ∀ other, other ≠ place → after.at? other = disk.at? other

theorem Sets.alike {disk after : Disk} {place : Place} {text : Option String} (sets : disk.Sets place text after) :
    disk.Alike after := by
  intro other
  by_cases same : other = place
  · subst same
    refine ⟨fun directory => absurd directory sets.free, fun directory => ?_⟩
    rw [sets.here] at directory
    cases text <;> cases directory
  · rw [sets.elsewhere other same]

theorem ne_nil_of_free {disk : Disk} {place : Place} (free : disk.at? place ≠ some .directory) : place ≠ [] := by
  rintro rfl
  exact free rfl

theorem sets_put {disk : Disk} {place : Place} (free : disk.at? place ≠ some .directory) (text : String) :
    disk.Sets place (some text) ⟨disk.entries.put place (.file text)⟩ where
  free := free
  here := by rw [at?, if_neg (ne_nil_of_free free), Keyed.get?_put_self]; rfl
  elsewhere other differ := by rw [at?, at?, Keyed.get?_put_of_ne _ _ differ.symm]

theorem sets_erase {disk : Disk} {place : Place} (free : disk.at? place ≠ some .directory) :
    disk.Sets place none ⟨disk.entries.erase place⟩ where
  free := free
  here := by rw [at?, if_neg (ne_nil_of_free free), Keyed.get?_erase_self]; rfl
  elsewhere other differ := by rw [at?, at?, Keyed.get?_erase_of_ne _ differ.symm]

variable {disk : Disk} {start place : Place} {path : String}

theorem read_of_locate (leads : disk.locate start path = .ok place) :
    disk.read start path =
      match disk.at? place with
      | some (.file text) => .ok text
      | some .directory => .error .isDirectory
      | none => .error .notFound := by
  rw [read, leads]
  rfl

theorem write_of_locate (leads : disk.locate start path = .ok place) (free : disk.at? place ≠ some .directory)
    (text : String) : ∃ after, disk.write start path text = .ok after ∧ disk.Sets place (some text) after := by
  refine ⟨_, ?_, sets_put free text⟩
  simp [write, leads, bind, Except.bind]

theorem remove_of_locate (leads : disk.locate start path = .ok place) {text : String}
    (isFile : disk.at? place = some (.file text)) :
    ∃ after, disk.remove start path = .ok after ∧ disk.Sets place none after := by
  refine ⟨_, ?_, sets_erase (by simp [isFile])⟩
  simp [remove, leads, isFile, bind, Except.bind]

/-- A file that was written is the only thing that changed. -/
theorem sets_of_write {text : String} {after : Disk} (written : disk.write start path text = .ok after) :
    ∃ place, disk.locate start path = .ok place ∧ disk.Sets place (some text) after := by
  cases leads : disk.locate start path with
  | error cause => simp [write, leads, bind, Except.bind] at written
  | ok place =>
      simp only [write, leads, bind, Except.bind] at written
      split at written
      next => cases written
      next free =>
        cases written
        exact ⟨place, rfl, sets_put free text⟩

/-- A file that was removed is the only thing that changed. -/
theorem sets_of_remove {after : Disk} (removed : disk.remove start path = .ok after) :
    ∃ place, disk.locate start path = .ok place ∧ disk.Sets place none after := by
  cases leads : disk.locate start path with
  | error cause => simp [remove, leads, bind, Except.bind] at removed
  | ok place =>
      simp only [remove, leads, bind, Except.bind] at removed
      split at removed
      next isFile =>
        cases removed
        exact ⟨place, rfl, sets_erase (by simp [isFile])⟩
      all_goals cases removed

end Disk

namespace Folder

/-- The place of the file for a key, if the key leads anywhere. -/
def slot (folder : Folder) (key : String) : Option Place :=
  (folder.disk.locate folder.place (fileName key)).toOption

theorem locate_of_slot {folder : Folder} {key : String} {place : Place} (leads : folder.slot key = some place) :
    folder.disk.locate folder.place (fileName key) = .ok place := by
  rw [slot] at leads
  cases found : folder.disk.locate folder.place (fileName key) with
  | ok other =>
      rw [found] at leads
      cases leads
      rfl
  | error cause =>
      rw [found] at leads
      cases leads

theorem locate_of_no_slot {folder : Folder} {key : String} (nowhere : folder.slot key = none) :
    ∃ cause, folder.disk.locate folder.place (fileName key) = .error cause := by
  rw [slot] at nowhere
  cases found : folder.disk.locate folder.place (fileName key) with
  | ok other =>
      rw [found] at nowhere
      cases nowhere
  | error cause => exact ⟨cause, rfl⟩

/-- The value of a file is read from what is at the slot of its key. -/
theorem get?_of_slot {folder : Folder} {key : String} {place : Place} (leads : folder.slot key = some place) :
    folder.get? key =
      match folder.disk.at? place with
      | none => .ok none
      | some .directory => .error (.reading (folder.pathOf key) .isDirectory)
      | some (.file text) =>
        match Json.read text with
        | .ok value => .ok (some value)
        | .error cause => .error (.parsing (folder.pathOf key) cause) := by
  rw [get?, Disk.read_of_locate (locate_of_slot leads)]
  cases folder.disk.at? place with
  | none => rfl
  | some entry => cases entry <;> rfl

/-- Where the path of a key leads nowhere, nothing is found unless the search fails. -/
theorem get?_of_no_slot {folder : Folder} {key : String} (nowhere : folder.slot key = none) {found : Option Json}
    (got : folder.get? key = .ok found) : found = none := by
  obtain ⟨cause, fails⟩ := locate_of_no_slot nowhere
  have unread : folder.disk.read folder.place (fileName key) = .error cause := by
    rw [Disk.read, fails]
    rfl
  rw [get?, unread] at got
  cases cause with
  | notFound => exact (Except.ok.inj got).symm
  | _ => cases got

theorem put_of_slot {folder : Folder} {key : String} {place : Place} (leads : folder.slot key = some place)
    (free : folder.disk.at? place ≠ some .directory) (value : Json) :
    ∃ after, folder.put key value = .ok { folder with disk := after } ∧
      folder.disk.Sets place (some value.pretty) after := by
  obtain ⟨after, written, sets⟩ := Disk.write_of_locate (locate_of_slot leads) free value.pretty
  exact ⟨after, by rw [put, written], sets⟩

theorem erase_of_file {folder : Folder} {key : String} {place : Place} (leads : folder.slot key = some place)
    {text : String} (isFile : folder.disk.at? place = some (.file text)) :
    ∃ after, folder.erase key = .ok { folder with disk := after } ∧ folder.disk.Sets place none after := by
  obtain ⟨after, removed, sets⟩ := Disk.remove_of_locate (locate_of_slot leads) isFile
  exact ⟨after, by rw [erase, removed], sets⟩

theorem erase_of_free {folder : Folder} {key : String} {place : Place} (leads : folder.slot key = some place)
    (free : folder.disk.at? place = none) : folder.erase key = .ok folder := by
  simp [erase, Disk.remove, locate_of_slot leads, free, bind, Except.bind]

/-- Where the path of a key leads nowhere, nothing can be written. -/
theorem put_of_no_slot {folder : Folder} {key : String} (nowhere : folder.slot key = none) (value : Json) :
    ∃ cause, folder.put key value = .error (.changing cause) := by
  obtain ⟨cause, fails⟩ := locate_of_no_slot nowhere
  exact ⟨cause, by simp [put, Disk.write, fails, bind, Except.bind]⟩

/-- Where the path of a key leads nowhere, a removal changes nothing if it succeeds. -/
theorem erase_of_no_slot {folder : Folder} {key : String} (nowhere : folder.slot key = none) :
    folder.erase key = .ok folder ∨ ∃ cause, folder.erase key = .error (.changing cause) := by
  obtain ⟨cause, fails⟩ := locate_of_no_slot nowhere
  by_cases missing : cause = .notFound
  · exact .inl (by simp [erase, Disk.remove, fails, missing, bind, Except.bind])
  · exact .inr ⟨cause, by simp [erase, Disk.remove, fails, bind, Except.bind]⟩

/-- Where the file at the slot of a key is the same, the same is got. -/
theorem get?_of_sets {folder : Folder} {key : String} {place other : Place} (leads : folder.slot key = some place)
    {text : Option String} {after : Disk} (sets : folder.disk.Sets other text after) (apart : other ≠ place) :
    Folder.get? { folder with disk := after } key = folder.get? key := by
  have reaches : Folder.slot { folder with disk := after } key = some place :=
    (sets.alike.locate folder.place (fileName key)).symm.trans leads
  rw [get?_of_slot leads, get?_of_slot reaches, sets.elsewhere place apart.symm]
  rfl

/-- A key that is a name: its file stands right in the folder. -/
structure IsPlain (key : String) : Prop where
  level : '/' ∉ key.toList
  whole : Char.ofNat 0 ∉ key.toList
  short : (fileName key).utf8ByteSize ≤ Disk.nameLimit

theorem splitBy_of_none {p : Char → Bool} {chars : List Char} (none : ∀ c ∈ chars, p c = false) :
    Text.splitBy p chars = [chars] := by
  induction chars with
  | nil => rfl
  | cons c rest ih =>
      obtain ⟨first, others⟩ := List.forall_mem_cons.mp none
      simp [Text.splitBy, first, ih others]

theorem toList_fileName (key : String) : (fileName key).toList = key.toList ++ ['.', 'j', 's', 'o', 'n'] :=
  String.toList_append

/-- A file name is never one of those that only move about. -/
theorem fileName_ne (key : String) {name : String} (short : name.toList.length < 5) : fileName key ≠ name := by
  intro same
  have length := congrArg (fun name => name.toList.length) same
  simp only [toList_fileName, List.length_append, List.length_cons, List.length_nil] at length
  omega

theorem slot_of_isPlain (folder : Folder) {key : String} (plain : IsPlain key) :
    folder.slot key = some (folder.place ++ [fileName key]) := by
  have whole : (fileName key).toList.contains (Char.ofNat 0) = false := by
    simpa [toList_fileName] using plain.whole
  have level : ∀ c ∈ (fileName key).toList, (decide (c = '/')) = false := by
    rw [toList_fileName]
    intro c member
    rcases List.mem_append.mp member with own | ending
    · exact decide_eq_false fun slash => plain.level (slash ▸ own)
    · have plainEnding : ∀ c ∈ ['.', 'j', 's', 'o', 'n'], decide (c = '/') = false := by simp
      exact plainEnding c ending
  have start : (fileName key).toList.head? ≠ some '/' := fun first =>
    absurd (level '/' (List.mem_of_mem_head? first)) (by decide)
  have stays : ¬(fileName key = "" ∨ fileName key = ".") := by
    rintro (empty | point)
    · exact fileName_ne key (by decide) empty
    · exact fileName_ne key (by decide) point
  have up : fileName key ≠ ".." := fileName_ne key (by decide)
  have short : ¬Disk.nameLimit < (fileName key).utf8ByteSize := Nat.not_lt.mpr plain.short
  have one : (Text.splitBy (fun c => decide (c = '/')) (fileName key).toList).map String.ofList = [fileName key] := by
    rw [splitBy_of_none level, List.map_singleton, String.ofList_toList]
  rw [slot, Disk.locate]
  simp only [whole, start, one]
  rw [Disk.walk, if_neg stays, if_neg up, if_neg short]
  rfl

theorem slot_injective (folder : Folder) {key other : String} (plain : IsPlain key) (simple : IsPlain other)
    (same : folder.slot key = folder.slot other) : key = other := by
  rw [folder.slot_of_isPlain plain, folder.slot_of_isPlain simple] at same
  have names : fileName key = fileName other := by simpa using same
  have chars := congrArg String.toList names
  rw [toList_fileName, toList_fileName, List.append_cancel_right_eq] at chars
  exact String.toList_inj.mp chars

end Folder

end ConsentBanner
