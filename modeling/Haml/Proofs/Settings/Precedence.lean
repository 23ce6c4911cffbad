import Haml.Proofs.Settings.Keys
import Mathlib.Data.List.Forall2

/-! # Precedence of layers

Each setting is decided on its own: by the last override of it, or else by the last file that
assigns it, or else it is the standard one. Within a file, within the files and within the
overrides the argument is the same. One assignment gives one setting another content, so a run of
assignments gives each setting the last content that was assigned to it (`Holds.foldlM`).
-/

namespace Haml.Setting

/-- The last value that a function gives on a list. -/
def lastOf {α β : Type} (give : α → Option β) (list : List α) : Option β :=
  (list.filterMap give).getLast?

section LastOf

variable {α β : Type} {give : α → Option β}

theorem lastOf_cons (first : α) (later : List α) :
    lastOf give (first :: later) = (lastOf give later).or (give first) := by
  rw [lastOf, lastOf, ← List.singleton_append, List.filterMap_append, List.getLast?_append]
  cases given : give first <;> simp [given]

/-- Elements on which the function gives nothing do not matter. -/
theorem lastOf_filter {keep : α → Bool}
    (silent : ∀ element, keep element = false → give element = none) (list : List α) :
    lastOf give (list.filter keep) = lastOf give list := by
  have kept : (fun element => if keep element then give element else none) = give := by
    funext element
    cases keeps : keep element with
    | true => rfl
    | false => exact (silent element keeps).symm
  rw [lastOf, lastOf, List.filterMap_filter, kept]

private theorem lastOf_congr {list others : List α}
    (same : List.Forall₂ (fun element other => give other = give element) list others) :
    lastOf give others = lastOf give list := by
  induction same with
  | nil => rfl
  | cons first _ ih => rw [lastOf_cons, lastOf_cons, first, ih]

private theorem isSome_lastOf {list : List α} {element : α} (member : element ∈ list)
    (given : (give element).isSome) : (lastOf give list).isSome := by
  obtain ⟨value, given⟩ := Option.isSome_iff_exists.mp given
  rw [lastOf, List.getLast?_isSome]
  exact List.ne_nil_of_mem (List.mem_filterMap.mpr ⟨element, member, given⟩)

end LastOf

/-! ## What a layer gives to a setting -/

namespace Key

/-- What a field of a table gives to a setting of that table. -/
def inField? (key : Key) (field : Text × Value) : Option Content :=
  if field.1 = key.name then key.content? field.2 else none

/-- What a table of a file gives to a setting. -/
def inTable? (key : Key) (entry : Text × Value) : Option Content :=
  if entry.1 = key.owner.name then lastOf key.inField? entry.2.entries else none

end Key

/-- The entries of a layer that is a file with settings. -/
def Layer.entries : Layer → Entries
  | .file _ (.document document) _ =>
    ((Toml.parse? document.text).map (Value.ofTomlFields (some document.origin))).getD []
  | _ => []

namespace Key

/-- What a layer gives to a setting if the layer is a file. -/
def inFile? (key : Key) (layer : Layer) : Option Content :=
  lastOf key.inTable? layer.entries

/-- What a layer gives to a setting if the layer is an override. -/
def inOverride? (key : Key) : Layer → Option Content
  | .override path value => if path = key.path then key.content? value else none
  | .file _ _ _ => none

/-- What a setting is under layers: what the last override of it says, or else the last file that
assigns it, or else the standard. -/
def resolved (key : Key) (layers : List Layer) : Content :=
  ((lastOf key.inOverride? layers).or (lastOf key.inFile? layers)).getD
    (key.get ⟨.standard, .standard⟩)

end Key

/-- Whether an entry of a file is a table of settings, each with a value of its kind. -/
def Section.accepts (owner : Section) (entry : Text × Value) : Bool :=
  match entry.2 with
  | .table _ fields =>
    entry.1 == owner.name &&
      fields.all fun field => owner.keys.any fun key => (key.inField? field).isSome
  | _ => false

namespace Layer

/-- Whether a layer is one of three: a file that assigns values of the right kind to settings and
nothing else, an optional file that is not there, or an override of a setting by a value of the
right kind. -/
def isDocumented : Layer → Bool
  | .file name (.document document) required =>
    (Toml.parse? document.text).isSome &&
      (Layer.file name (.document document) required).entries.all fun entry =>
        Section.all.any (·.accepts entry)
  | .file _ .nothing required => !required
  | .file _ .bytes _ => false
  | .override path value => Key.all.any fun key => (key.inOverride? (.override path value)).isSome

def isOverride : Layer → Bool
  | .override _ _ => true
  | .file _ _ _ => false

/-- Whether a layer is an optional file that is not there. -/
def isAbsent : Layer → Bool
  | .file _ .nothing required => !required
  | _ => false

end Layer

/-! ## Runs of assignments -/

variable {root : Value} {contents : Key → Content} {layers : List Layer}

theorem Holds.congr {others : Key → Content} (holds : Holds root contents)
    (same : ∀ key, contents key = others key) : Holds root others := by
  rwa [← funext same]

/-- Something that gives a content to one setting and nothing to the others updates the contents
in one place. -/
theorem update_eq_getD {given : Key → Option Content} {assigned : Key} {content : Content}
    (itself : given assigned = some content) (other : ∀ key, key ≠ assigned → given key = none)
    (key : Key) :
    Function.update contents assigned content key = (given key).getD (contents key) := by
  by_cases same : key = assigned
  · rw [same, Function.update_self, itself, Option.getD_some]
  · rw [Function.update_of_ne same, other key same, Option.getD_none]

/-- If one step gives settings new contents, a run of steps gives each setting the last content
that a step gives to it. -/
theorem Holds.foldlM {α ε : Type} {step : Value → α → Except ε Value}
    {give : Key → α → Option Content} {list : List α}
    (single : ∀ element ∈ list, ∀ {root contents}, Holds root contents →
      ∃ next, step root element = .ok next ∧
        Holds next fun key => (give key element).getD (contents key))
    (holds : Holds root contents) :
    ∃ final, list.foldlM step root = .ok final ∧
      Holds final fun key => (lastOf (give key) list).getD (contents key) := by
  induction list generalizing root contents with
  | nil => exact ⟨root, rfl, holds⟩
  | cons first later ih =>
    obtain ⟨atFirst, atLater⟩ := List.forall_mem_cons.mp single
    obtain ⟨next, step, holds⟩ := atFirst holds
    obtain ⟨final, run, holds⟩ := ih atLater holds
    refine ⟨final, ?_, holds.congr fun key => ?_⟩
    · rw [List.foldlM_cons, step, except_ok_bind, run]
    · rw [lastOf_cons, Option.getD_or]

/-- Assigning the fields of a table gives each setting of the table the last content among
them. -/
theorem assignAll_table {owner : Section} {fields : Entries}
    (accepted : ∀ field ∈ fields, ∃ key : Key, key.owner = owner ∧ (key.inField? field).isSome)
    {values : Key → Value} (gives : Gives values contents) :
    ∃ others : Key → Value, Value.assignAll (owner.table values) fields = owner.table others ∧
      (∀ key : Key, key.owner ≠ owner → others key = values key) ∧
      ∀ key : Key, key.owner = owner →
        key.content? (others key) = some ((lastOf key.inField? fields).getD (contents key)) := by
  induction fields generalizing values contents with
  | nil =>
    refine ⟨values, ?_, fun _ _ => rfl, fun key _ => gives key⟩
    rw [Value.assignAll]
  | cons field later ih =>
    obtain ⟨⟨assigned, rfl, atField⟩, atLater⟩ := List.forall_mem_cons.mp accepted
    obtain ⟨content, given⟩ := Option.isSome_iff_exists.mp atField
    obtain ⟨name, value⟩ := field
    obtain ⟨rfl, typed⟩ := Option.ite_none_right_eq_some.mp given
    -- The later fields are assigned to a table in which one value is updated.
    have single : ∀ key : Key, Function.update contents assigned content key =
        (key.inField? (assigned.name, value)).getD (contents key) :=
      update_eq_getD given fun key apart =>
        if_neg fun names => apart (Key.name_injective names.symm)
    obtain ⟨others, run, elsewhere, inside⟩ := ih atLater (gives.update typed)
    refine ⟨others, ?_, fun key apart => ?_, fun key owned => ?_⟩
    · rw [Value.assignAll, assign_table typed, run]
    · rw [elsewhere key apart, Function.update_of_ne]
      rintro rfl
      exact apart rfl
    · rw [inside key owned, lastOf_cons, Option.getD_or, single]

private theorem Section.exists_of_accepts {owner : Section} {entry : Text × Value}
    (accepted : owner.accepts entry) :
    ∃ origin fields, entry = (owner.name, .table origin fields) ∧
      ∀ field ∈ fields, ∃ key : Key, key.owner = owner ∧ (key.inField? field).isSome := by
  obtain ⟨name, value⟩ := entry
  cases value with
  | atom origin content => cases accepted
  | list origin items => cases accepted
  | table origin fields =>
    simp only [accepts, Bool.and_eq_true, beq_iff_eq, List.all_eq_true, List.any_eq_true,
      mem_keys_iff] at accepted
    obtain ⟨rfl, typed⟩ := accepted
    exact ⟨origin, fields, rfl, typed⟩

/-- A table of a file changes the settings in it, each to its last content there. -/
theorem Holds.addTable (holds : Holds root contents)
    {owner : Section} {origin : Option Text} {fields : Entries}
    (accepted : ∀ field ∈ fields, ∃ key : Key, key.owner = owner ∧ (key.inField? field).isSome) :
    ∃ next, root.assignPath ⟨owner.name, []⟩ (.table origin fields) = .ok next ∧
      Holds next fun key =>
        (key.inTable? (owner.name, .table origin fields)).getD (contents key) := by
  obtain ⟨values, rfl, gives⟩ := holds
  obtain ⟨others, run, elsewhere, inside⟩ := assignAll_table accepted gives
  refine ⟨tree others, ?_, others, rfl, fun key => ?_⟩
  · rw [Value.assignPath, Value.assignAt, Value.assign, get?_tree, Option.getD_some, run,
      withEntry_tree elsewhere]
  · show key.content? (others key) =
      some ((key.inTable? (owner.name, .table origin fields)).getD (contents key))
    by_cases owned : key.owner = owner
    · have last : key.inTable? (owner.name, .table origin fields) = lastOf key.inField? fields :=
        if_pos (by rw [owned])
      rw [inside key owned, last]
    · have none : key.inTable? (owner.name, .table origin fields) = none :=
        if_neg fun names => owned (Section.name_injective names.symm)
      rw [elsewhere key owned, gives, none, Option.getD_none]

theorem Holds.addFile (holds : Holds root contents)
    {entries : Entries} (accepted : ∀ entry ∈ entries, ∃ owner : Section, owner.accepts entry) :
    ∃ next, addFile root entries = .ok next ∧
      Holds next fun key => (lastOf key.inTable? entries).getD (contents key) := by
  refine Holds.foldlM ?_ holds
  intro entry member root contents holds
  obtain ⟨owner, accepts⟩ := accepted entry member
  obtain ⟨origin, fields, rfl, typed⟩ := Section.exists_of_accepts accepts
  simp only [owner.parse?_name]
  exact holds.addTable typed

/-- One layer changes the settings that it assigns as a file. -/
theorem Holds.addLayer (holds : Holds root contents)
    {layer : Layer} (documented : layer.isDocumented) :
    ∃ next, addLayer root layer = .ok next ∧
      Holds next fun key => (key.inFile? layer).getD (contents key) := by
  cases layer with
  | override path value => exact ⟨root, rfl, holds⟩
  | file name found required =>
    cases found with
    | bytes => cases documented
    | nothing =>
      obtain rfl : required = false := by simpa [Layer.isDocumented] using documented
      exact ⟨root, rfl, holds⟩
    | document document =>
      obtain ⟨parses, tables⟩ := Bool.and_eq_true_iff.mp documented
      obtain ⟨fields, parsed⟩ := Option.isSome_iff_exists.mp parses
      have accepted : ∀ entry ∈ (Layer.file name (.document document) required).entries,
          ∃ owner : Section, owner.accepts entry := by
        intro entry member
        obtain ⟨owner, _, accepts⟩ := List.any_eq_true.mp (List.all_eq_true.mp tables entry member)
        exact ⟨owner, accepts⟩
      obtain ⟨next, added, holds⟩ := holds.addFile accepted
      refine ⟨next, ?_, holds⟩
      simp only [Layer.entries, parsed, Option.map_some, Option.getD_some] at added
      rw [Setting.addLayer, readFile, parsed]
      simp only [except_ok_bind, added, except_mapError_ok]

theorem Holds.addLayers (holds : Holds root contents)
    (documented : ∀ layer ∈ layers, layer.isDocumented) :
    ∃ next, layers.foldlM Setting.addLayer root = .ok next ∧
      Holds next fun key => (lastOf key.inFile? layers).getD (contents key) := by
  refine Holds.foldlM ?_ holds
  intro layer member root contents holds
  exact holds.addLayer (documented layer member)

/-! ## Overrides -/

/-- What an override whose key is read gives to a setting. -/
def Key.inWrite? (key : Key) (write : KeyPath × Value) : Option Content :=
  if write.1 = key.keyPath then key.content? write.2 else none

private theorem Key.inWrite?_keyPath (key assigned : Key) (value : Value) :
    key.inWrite? (assigned.keyPath, value) = key.inOverride? (.override assigned.path value) := by
  rw [inWrite?, inOverride?]
  by_cases same : assigned = key
  · rw [same, if_pos rfl, if_pos rfl]
  · rw [if_neg (mt keyPath_injective same), if_neg (mt path_injective same)]

/-- Documented overrides write to the key paths of settings. -/
theorem exists_overrides (documented : ∀ layer ∈ layers, layer.isDocumented) :
    ∃ writes, overrides layers = .ok writes ∧
      (∀ write ∈ writes, ∃ key : Key, (key.inWrite? write).isSome) ∧
      ∀ key : Key, lastOf key.inWrite? writes = lastOf key.inOverride? layers := by
  induction layers with
  | nil => exact ⟨[], rfl, by simp, fun _ => rfl⟩
  | cons layer later ih =>
    obtain ⟨atLayer, atLater⟩ := List.forall_mem_cons.mp documented
    obtain ⟨writes, read, typed, same⟩ := ih atLater
    cases layer with
    | file name found required => exact ⟨writes, read, typed, same⟩
    | override path value =>
      obtain ⟨assigned, _, given⟩ := List.any_eq_true.mp atLayer
      obtain ⟨content, taken⟩ := Option.isSome_iff_exists.mp given
      obtain ⟨rfl, _⟩ := Option.ite_none_right_eq_some.mp taken
      refine ⟨(assigned.keyPath, value) :: writes, ?_,
        List.forall_mem_cons.mpr ⟨⟨assigned, ?_⟩, typed⟩, fun key => ?_⟩
      · rw [overrides, assigned.parse?_path, read]
        rfl
      · rwa [Key.inWrite?_keyPath]
      · rw [lastOf_cons, lastOf_cons, same, Key.inWrite?_keyPath]

/-- A write that a later one to the same place follows may be left out. -/
theorem lastOf_lastOverrides {writes : List (KeyPath × Value)}
    (typed : ∀ write ∈ writes, ∃ key : Key, (key.inWrite? write).isSome) (key : Key) :
    lastOf key.inWrite? (lastOverrides writes) = lastOf key.inWrite? writes := by
  induction writes with
  | nil => rfl
  | cons write later ih =>
    obtain ⟨path, value⟩ := write
    have same := ih (List.forall_mem_cons.mp typed).2
    rw [lastOverrides, lastOf_cons]
    split
    case isFalse => rw [lastOf_cons, same]
    case isTrue repeated =>
      obtain ⟨next, member, samePath⟩ := List.any_eq_true.mp repeated
      rw [same]
      -- The write that is left out counts for this setting only if the later one does too.
      by_cases written : path = key.keyPath
      · obtain ⟨other, given⟩ := (List.forall_mem_cons.mp typed).2 next member
        obtain ⟨content, taken⟩ := Option.isSome_iff_exists.mp given
        obtain ⟨itsPath, _⟩ := Option.ite_none_right_eq_some.mp taken
        have itself : other = key :=
          Key.keyPath_injective (itsPath.symm.trans ((beq_iff_eq.mp samePath).trans written))
        rw [Option.or_of_isSome (isSome_lastOf member (itself ▸ given))]
      · rw [Key.inWrite?, if_neg written, Option.or_none]

theorem Holds.addOverride (holds : Holds root contents)
    {write : KeyPath × Value} (typed : ∃ key : Key, (key.inWrite? write).isSome) :
    ∃ next, addOverride root write = .ok next ∧
      Holds next fun key => (key.inWrite? write).getD (contents key) := by
  obtain ⟨path, value⟩ := write
  obtain ⟨assigned, given⟩ := typed
  obtain ⟨content, taken⟩ := Option.isSome_iff_exists.mp given
  obtain ⟨rfl, typed⟩ := Option.ite_none_right_eq_some.mp taken
  obtain ⟨next, step, holds⟩ := holds.assignPath typed
  refine ⟨next, ?_, holds.congr (update_eq_getD taken fun key apart => ?_)⟩
  · rw [Setting.addOverride, step, except_mapError_ok]
  · exact if_neg (mt Key.keyPath_injective (Ne.symm apart))

private theorem lastOverrides_sublist (writes : List (KeyPath × Value)) :
    (lastOverrides writes).Sublist writes := by
  induction writes with
  | nil => exact .slnil
  | cons write later ih =>
    rw [lastOverrides]
    split
    case isTrue => exact ih.cons _
    case isFalse => exact ih.cons_cons _

theorem Holds.addOverrides (holds : Holds root contents)
    {writes : List (KeyPath × Value)}
    (typed : ∀ write ∈ writes, ∃ key : Key, (key.inWrite? write).isSome) :
    ∃ next, (lastOverrides writes).foldlM Setting.addOverride root = .ok next ∧
      Holds next fun key => (lastOf key.inWrite? writes).getD (contents key) := by
  simp only [← lastOf_lastOverrides typed]
  refine Holds.foldlM ?_ holds
  intro write member root contents holds
  exact holds.addOverride (typed write ((lastOverrides_sublist writes).mem member))

/-! ## All layers -/

theorem exists_merge (documented : ∀ layer ∈ layers, layer.isDocumented) :
    ∃ root, merge layers = .ok root ∧ Holds root fun key => key.resolved layers := by
  obtain ⟨writes, read, typed, same⟩ := exists_overrides documented
  obtain ⟨below, files, holds⟩ := holds_standard.addLayers documented
  obtain ⟨root, overridden, holds⟩ := holds.addOverrides typed
  refine ⟨root, ?_, holds.congr fun key => ?_⟩
  · rw [merge, read, except_ok_bind, builtIn_eq, except_ok_bind, files, except_ok_bind, overridden]
  · rw [same, Key.resolved, Option.getD_or]

theorem exists_load (documented : ∀ layer ∈ layers, layer.isDocumented) :
    ∃ settings, load layers = .ok settings ∧
      ∀ key : Key, key.get settings = key.resolved layers := by
  obtain ⟨root, merged, holds⟩ := exists_merge documented
  obtain ⟨settings, read, contents⟩ := toSettings_of_holds holds
  refine ⟨settings, ?_, contents⟩
  rw [load, merged, except_ok_bind, read]

/-- Settings are known from what is resolved for each of them. -/
theorem load_eq_of_resolved {settings : Settings}
    (documented : ∀ layer ∈ layers, layer.isDocumented)
    (resolved : ∀ key ∈ Key.all, key.resolved layers = key.get settings) :
    load layers = .ok settings := by
  obtain ⟨found, loaded, contents⟩ := exists_load documented
  rw [loaded, settings_ext fun key => (contents key).trans (resolved key key.mem_all)]

/-- Layers that give each setting the same content give the same settings. -/
theorem load_congr {others : List Layer}
    (documented : ∀ layer ∈ layers, layer.isDocumented)
    (othersDocumented : ∀ layer ∈ others, layer.isDocumented)
    (same : ∀ key : Key, key.resolved others = key.resolved layers) :
    load others = load layers := by
  obtain ⟨settings, loaded, contents⟩ := exists_load documented
  obtain ⟨otherSettings, othersLoaded, otherContents⟩ := exists_load othersDocumented
  have equal : otherSettings = settings :=
    settings_ext fun key => by rw [otherContents, contents, same]
  rw [loaded, othersLoaded, equal]

/-- Only the order of the overrides and the order of the files matter. -/
theorem resolved_of_moved {moved : List Layer}
    (sameOverrides : moved.filter (·.isOverride) = layers.filter (·.isOverride))
    (sameFiles : moved.filter (!·.isOverride) = layers.filter (!·.isOverride)) (key : Key) :
    key.resolved moved = key.resolved layers := by
  have overrides : ∀ layer : Layer, layer.isOverride = false → key.inOverride? layer = none := by
    intro layer isFile
    cases layer with
    | file name found required => rfl
    | override path value => cases isFile
  have files : ∀ layer : Layer, (!layer.isOverride) = false → key.inFile? layer = none := by
    intro layer isOverride
    cases layer with
    | file name found required => cases isOverride
    | override path value => rfl
  rw [Key.resolved, Key.resolved, ← lastOf_filter overrides, ← lastOf_filter files, sameOverrides,
    sameFiles, lastOf_filter overrides, lastOf_filter files]

/-- A file that is not there gives nothing to any setting. -/
theorem resolved_of_present (layers : List Layer) (key : Key) :
    key.resolved (layers.filter (!·.isAbsent)) = key.resolved layers := by
  have silent : ∀ layer : Layer, (!layer.isAbsent) = false →
      key.inOverride? layer = none ∧ key.inFile? layer = none := by
    intro layer isAbsent
    cases layer with
    | override path value => cases isAbsent
    | file name found required =>
      cases found with
      | nothing => exact ⟨rfl, rfl⟩
      | bytes => cases isAbsent
      | document document => cases isAbsent
  rw [Key.resolved, lastOf_filter fun layer absent => (silent layer absent).1,
    lastOf_filter fun layer absent => (silent layer absent).2, Key.resolved]

/-- Layers that give a setting the same contents, one by one, agree on it. -/
theorem resolved_congr {changed : List Layer} {key : Key}
    (same : List.Forall₂ (fun layer other => key.inOverride? other = key.inOverride? layer ∧
      key.inFile? other = key.inFile? layer) layers changed) :
    key.resolved changed = key.resolved layers := by
  rw [Key.resolved, lastOf_congr (same.imp fun _ _ agree => agree.1),
    lastOf_congr (same.imp fun _ _ agree => agree.2), Key.resolved]

private theorem documented_of_moved {moved : List Layer}
    (documented : ∀ layer ∈ layers, layer.isDocumented)
    (sameOverrides : moved.filter (·.isOverride) = layers.filter (·.isOverride))
    (sameFiles : moved.filter (!·.isOverride) = layers.filter (!·.isOverride)) :
    ∀ layer ∈ moved, layer.isDocumented := by
  intro layer member
  refine documented layer ?_
  cases kind : layer.isOverride with
  | true =>
    have kept : layer ∈ moved.filter (·.isOverride) := List.mem_filter.mpr ⟨member, kind⟩
    rw [sameOverrides] at kept
    exact List.mem_of_mem_filter kept
  | false =>
    have kept : layer ∈ moved.filter (!·.isOverride) := List.mem_filter.mpr ⟨member, by simp [kind]⟩
    rw [sameFiles] at kept
    exact List.mem_of_mem_filter kept

/-- Documented layers can be loaded, and each setting is what its last writer says, where overrides
come after all files. So it does not matter where the overrides stand among the files, which
optional files are not there, or what a layer says about other settings. -/
theorem load_by_last_writer {layers : List Layer}
    (documented : ∀ layer ∈ layers, layer.isDocumented) :
    (∃ settings, load layers = .ok settings ∧
      ∀ key : Key, key.get settings = key.resolved layers) ∧
    (∀ moved : List Layer, moved.filter (·.isOverride) = layers.filter (·.isOverride) →
      moved.filter (!·.isOverride) = layers.filter (!·.isOverride) → load moved = load layers) ∧
    load (layers.filter (!·.isAbsent)) = load layers ∧
    ∀ changed : List Layer, (∀ layer ∈ changed, layer.isDocumented) → ∀ key : Key,
      List.Forall₂ (fun layer other => key.inOverride? other = key.inOverride? layer ∧
        key.inFile? other = key.inFile? layer) layers changed →
      (load changed).map key.get = (load layers).map key.get := by
  refine ⟨exists_load documented, ?_, ?_, ?_⟩
  · intro moved sameOverrides sameFiles
    exact load_congr documented (documented_of_moved documented sameOverrides sameFiles)
      (resolved_of_moved sameOverrides sameFiles)
  · refine load_congr documented ?_ (resolved_of_present layers)
    intro layer member
    exact documented layer (List.mem_of_mem_filter member)
  · intro changed changedDocumented key same
    obtain ⟨settings, loaded, contents⟩ := exists_load documented
    obtain ⟨others, othersLoaded, otherContents⟩ := exists_load changedDocumented
    have agree : key.get others = key.get settings := by
      rw [otherContents, contents, resolved_congr same]
    rw [loaded, othersLoaded]
    exact congrArg Except.ok agree

/-- Two files that assign the same list, one that is not there, and overrides before and between
the files. -/
def mixedLayers : List Layer :=
  [.override "javascript.indent".toList (Content.text "\t".toList).value,
    .file "base".toList (.document ⟨"base.toml".toList,
      "[compiler]\nself_closing=[\"wbr\"]\n[javascript]\nindent=\"  \"\n".toList⟩) true,
    .override "compiler.doctypes".toList (Content.flag false).value,
    .file "absent".toList .nothing false,
    .override "compiler.doctypes".toList (Content.flag true).value,
    .file "site".toList (.document ⟨"site.toml".toList,
      "compiler.self_closing=[\"br\"]\n".toList⟩) false]

theorem load_by_last_writer_of_mixedLayers :
    (∀ layer ∈ mixedLayers, layer.isDocumented) ∧
      load mixedLayers = .ok ⟨⟨["br".toList], true⟩,
        { Script.Options.standard with indent := "\t".toList }⟩ := by
  have documented : ∀ layer ∈ mixedLayers, layer.isDocumented := by decide +kernel
  have resolved : ∀ key ∈ Key.all, key.resolved mixedLayers = key.get ⟨⟨["br".toList], true⟩,
      { Script.Options.standard with indent := "\t".toList }⟩ := by decide +kernel
  obtain ⟨settings, loaded, contents⟩ := (load_by_last_writer documented).1
  refine ⟨documented, loaded.trans (congrArg Except.ok (settings_ext fun key => ?_))⟩
  exact (contents key).trans (resolved key key.mem_all)

end Haml.Setting
