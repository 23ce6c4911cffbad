import Mathlib.Logic.Function.Basic
import Haml.Proofs.Except
import Haml.Settings.Layers

/-! # The settings of a tree

The six settings stand in two tables. As long as only settings are assigned, the tree keeps its
shape: the two tables with their fields in order. What changes is the value of the setting that is
assigned, and every tree of this shape can be read if each of its values is of the kind that its
setting takes.
-/

namespace Haml.Setting

/-- A setting of the compiler. -/
inductive Key where
  | selfClosing
  | doctypes
  | output
  | line
  | helper
  | indent
  deriving DecidableEq, Repr

/-- A table that settings stand in. -/
inductive Section where
  | compiler
  | script
  deriving DecidableEq, Repr

/-- What a setting may be. -/
inductive Content where
  | texts (texts : List Text)
  | flag (flag : Bool)
  | text (text : Text)
  deriving DecidableEq, Repr

namespace Key

/-- The table that a setting stands in. -/
def owner : Key → Section
  | .selfClosing | .doctypes => .compiler
  | .output | .line | .helper | .indent => .script

/-- The name of a setting in its table. -/
def name : Key → Text
  | .selfClosing => "self_closing".toList
  | .doctypes => "doctypes".toList
  | .output => "output_variable".toList
  | .line => "line_variable".toList
  | .helper => "attrs_helper".toList
  | .indent => "indent".toList

end Key

namespace Section

def all : List Section :=
  [.compiler, .script]

/-- The name of a table. -/
def name : Section → Text
  | .compiler => "compiler".toList
  | .script => "javascript".toList

/-- The settings of a table, in order. -/
def keys : Section → List Key
  | .compiler => [.selfClosing, .doctypes]
  | .script => [.output, .line, .helper, .indent]

theorem mem_all (owner : Section) : owner ∈ all := by
  cases owner <;> decide

theorem nodup_all : all.Nodup := by
  decide

theorem nodup_keys (owner : Section) : owner.keys.Nodup := by
  cases owner <;> decide

theorem mem_keys_iff (owner : Section) (key : Key) : key ∈ owner.keys ↔ key.owner = owner := by
  cases owner <;> cases key <;> decide

private theorem lower_name (owner : Section) : owner.name.lower = owner.name := by
  cases owner <;> decide +kernel

theorem name_injective {owner other : Section} (same : owner.name = other.name) :
    owner = other := by
  revert same
  cases owner <;> cases other <;> decide

theorem parse?_name (owner : Section) : KeyPath.parse? owner.name = some ⟨owner.name, []⟩ := by
  cases owner <;> decide +kernel

end Section

namespace Key

def all : List Key :=
  Section.all.flatMap Section.keys

theorem mem_all (key : Key) : key ∈ all := by
  cases key <;> decide

/-- The place of a setting, as a key path writes it. -/
def path (key : Key) : Text :=
  key.owner.name ++ '.' :: key.name

/-- The key path that leads to a setting. -/
def keyPath (key : Key) : KeyPath :=
  ⟨key.owner.name, [.name key.name]⟩

private theorem lower_name (key : Key) : key.name.lower = key.name := by
  cases key <;> decide +kernel

theorem name_injective {key other : Key} (same : key.name = other.name) : key = other := by
  revert same
  cases key <;> cases other <;> decide

theorem keyPath_injective {key other : Key} (same : key.keyPath = other.keyPath) :
    key = other := by
  simp only [keyPath, KeyPath.mk.injEq, List.cons.injEq, Step.name.injEq, and_true] at same
  exact name_injective same.2

theorem parse?_path (key : Key) : KeyPath.parse? key.path = some key.keyPath := by
  cases key <;> decide +kernel

theorem path_injective {key other : Key} (same : key.path = other.path) : key = other := by
  have parsed := key.parse?_path
  rw [same, other.parse?_path] at parsed
  exact keyPath_injective (Option.some.inj parsed).symm

end Key

/-- The text that a value is. -/
def Value.text? : Value → Option Text
  | .atom _ (.text text) => some text
  | _ => none

/-- What a value gives to a setting, if it is of the kind that the setting takes: a list of texts
for the elements without content, a truth value for the doctypes, and a text for the others. -/
def Key.content? : Key → Value → Option Content
  | .selfClosing, .list _ items => (items.mapM Value.text?).map .texts
  | .doctypes, .atom _ (.boolean flag) => some (.flag flag)
  | .output, value | .line, value | .helper, value | .indent, value => value.text?.map .text
  | _, _ => none

/-- What a setting is. -/
def Key.get (key : Key) (settings : Settings) : Content :=
  match key with
  | .selfClosing => .texts settings.options.selfClosing
  | .doctypes => .flag settings.options.doctypes
  | .output => .text settings.script.output
  | .line => .text settings.script.line
  | .helper => .text settings.script.helper
  | .indent => .text settings.script.indent

/-- The value that stands for a content in a tree that comes from no file. -/
def Content.value : Content → Value
  | .texts items => .list none (items.map fun item => .atom none (.text item))
  | .flag truth => .atom none (.boolean truth)
  | .text word => .atom none (.text word)

theorem mapM_text?_map (texts : List Text) :
    (texts.map fun text => Value.atom none (.text text)).mapM Value.text? = some texts := by
  induction texts with
  | nil => rfl
  | cons text later ih =>
    rw [List.map_cons, List.mapM_cons, ih]
    rfl

/-- Settings are nothing but what each of them is. -/
theorem settings_ext {first second : Settings}
    (same : ∀ key : Key, key.get first = key.get second) : first = second := by
  obtain ⟨⟨_, _⟩, ⟨_, _, _, _⟩⟩ := first
  obtain ⟨⟨_, _⟩, ⟨_, _, _, _⟩⟩ := second
  obtain rfl := Content.texts.inj (same .selfClosing)
  obtain rfl := Content.flag.inj (same .doctypes)
  obtain rfl := Content.text.inj (same .output)
  obtain rfl := Content.text.inj (same .line)
  obtain rfl := Content.text.inj (same .helper)
  obtain rfl := Content.text.inj (same .indent)
  rfl

/-! ## Entries under fixed names -/

section Named

variable {ι : Type} {name : ι → Text} (lowered : ∀ i, (name i).lower = name i)
  (injective : ∀ {i j}, name i = name j → i = j)
include lowered injective

theorem get?_map {indices : List ι} {i : ι} (member : i ∈ indices) (values : ι → Value) :
    Entries.get? (indices.map fun j => (name j, values j)) (name i) = some (values i) := by
  rw [Entries.get?, lowered]
  induction indices with
  | nil => cases member
  | cons j later ih =>
    rw [List.map_cons, List.lookup_cons]
    by_cases same : name i = name j
    · rw [injective same]
      simp
    · rw [beq_false_of_ne same]
      refine ih ((List.mem_cons.mp member).resolve_left ?_)
      rintro rfl
      exact same rfl

variable [DecidableEq ι]

/-- Putting a value under one of the names changes that value and no other. -/
theorem put_map {indices : List ι} (nodup : indices.Nodup) {i : ι} (member : i ∈ indices)
    (values : ι → Value) (value : Value) :
    Entries.put (name i) value (indices.map fun j => (name j, values j)) =
      indices.map fun j => (name j, Function.update values i value j) := by
  induction indices with
  | nil => cases member
  | cons j later ih =>
    obtain ⟨apart, nodup⟩ := List.nodup_cons.mp nodup
    rw [List.map_cons, List.map_cons, Entries.put, lowered]
    by_cases same : j = i
    · subst same
      have unchanged : later.map (fun k => (name k, Function.update values j value k)) =
          later.map fun k => (name k, values k) := by
        refine List.map_congr_left fun k present => ?_
        rw [Function.update_of_ne]
        rintro rfl
        exact apart present
      rw [if_pos rfl, Function.update_self, unchanged]
    · rw [if_neg (fun names => same (injective names)), Function.update_of_ne same,
        ih nodup ((List.mem_cons.mp member).resolve_left (Ne.symm same))]

end Named

/-! ## The tree -/

/-- A table of settings with the given values. -/
def Section.table (values : Key → Value) (owner : Section) : Value :=
  .table none (owner.keys.map fun key => (key.name, values key))

/-- The tree of settings with the given values. -/
def tree (values : Key → Value) : Value :=
  .table none (Section.all.map fun owner => (owner.name, owner.table values))

theorem get?_tree (values : Key → Value) (owner : Section) :
    (tree values).entries.get? owner.name = some (owner.table values) :=
  get?_map Section.lower_name Section.name_injective owner.mem_all (Section.table values)

theorem get?_table (values : Key → Value) (key : Key) :
    (key.owner.table values).entries.get? key.name = some (values key) :=
  get?_map Key.lower_name Key.name_injective ((Section.mem_keys_iff _ _).mpr rfl) values

/-- A table depends on its own settings only. -/
theorem table_congr {owner : Section} {values others : Key → Value}
    (same : ∀ key : Key, key.owner = owner → values key = others key) :
    owner.table values = owner.table others := by
  refine congrArg (Value.table none) (List.map_congr_left fun key member => ?_)
  rw [same key ((Section.mem_keys_iff owner key).mp member)]

/-- Putting another table in its place leaves the other table as it is. -/
theorem withEntry_tree {owner : Section} {values others : Key → Value}
    (same : ∀ key : Key, key.owner ≠ owner → others key = values key) :
    (tree values).withEntry owner.name (owner.table others) = tree others := by
  refine congrArg (Value.table none) ?_
  rw [put_map Section.lower_name Section.name_injective Section.nodup_all owner.mem_all]
  refine List.map_congr_left fun other _ => ?_
  by_cases replaced : other = owner
  · rw [replaced, Function.update_self]
  · rw [Function.update_of_ne replaced]
    refine congrArg (Prod.mk other.name) (table_congr fun key inside => (same key ?_).symm)
    rw [inside]
    exact replaced

/-- A value that a setting takes is no table, so it replaces what is there. -/
theorem assign_of_content {key : Key} {value : Value} {content : Content}
    (typed : key.content? value = some content) (root : Value) (name : Text) :
    root.assign name value = root.withEntry name value := by
  cases value with
  | atom origin atom => rw [Value.assign]
  | list origin items => rw [Value.assign]
  | table origin entries => cases key <;> simp [Key.content?, Value.text?] at typed

theorem assign_table {key : Key} {value : Value} {content : Content}
    (typed : key.content? value = some content) (values : Key → Value) :
    (key.owner.table values).assign key.name value =
      key.owner.table (Function.update values key value) := by
  rw [assign_of_content typed]
  refine congrArg (Value.table none) ?_
  exact put_map Key.lower_name Key.name_injective (Section.nodup_keys _)
    ((Section.mem_keys_iff _ _).mpr rfl) values value

theorem assignPath_tree {key : Key} {value : Value} {content : Content}
    (typed : key.content? value = some content) (values : Key → Value) :
    (tree values).assignPath key.keyPath value =
      .ok (tree (Function.update values key value)) := by
  have elsewhere : ∀ other : Key, other.owner ≠ key.owner →
      Function.update values key value other = values other := by
    intro other apart
    refine Function.update_of_ne ?_ _ _
    rintro rfl
    exact apart rfl
  rw [← withEntry_tree elsewhere, ← assign_table typed, Value.assignPath, Key.keyPath,
    Value.assignAt, get?_tree]
  · rfl
  · simp

/-! ## Reading the tree -/

private theorem toText_of_text? {value : Value} {text : Text} (typed : value.text? = some text)
    (place : List Step) : toText place value = .ok text := by
  revert typed
  fun_cases Value.text? value with
  | case1 => rintro ⟨⟩; rfl
  | case2 => intro typed; cases typed

private theorem mapM_toText {items : List Value} {texts : List Text}
    (typed : items.mapM Value.text? = some texts) (place : List Step) (start : Nat) :
    (items.zipIdx start).mapM
      (fun (item, index) => toText (place ++ [Step.index index]) item) = .ok texts := by
  induction items generalizing texts start with
  | nil =>
    obtain rfl : [] = texts := by simpa using typed
    rfl
  | cons item later ih =>
    simp only [List.mapM_cons, bind, Option.bind_eq_some_iff, pure, Option.some.injEq] at typed
    obtain ⟨text, first, rest, remaining, rfl⟩ := typed
    simp only [List.zipIdx_cons, List.mapM_cons, toText_of_text? first, ih remaining]
    rfl

/-- A value that the elements without content take is read as it is. -/
theorem toTexts_of_content {value : Value} {content : Content}
    (typed : Key.content? .selfClosing value = some content) :
    ∃ texts, content = .texts texts ∧ ∀ place, toTexts place value = .ok texts := by
  cases value with
  | list origin items =>
    obtain ⟨texts, single, rfl⟩ := Option.map_eq_some_iff.mp typed
    exact ⟨texts, rfl, fun place => mapM_toText single place 0⟩
  | atom origin atom => cases typed
  | table origin entries => cases typed

private theorem toBoolean_of_content {value : Value} {content : Content}
    (typed : Key.content? .doctypes value = some content) :
    ∃ flag, content = .flag flag ∧ ∀ place, toBoolean place value = .ok flag := by
  cases value with
  | atom origin atom =>
    cases atom with
    | boolean flag => exact ⟨flag, (Option.some.inj typed).symm, fun _ => rfl⟩
    | null => cases typed
    | integer number => cases typed
    | float number => cases typed
    | text text => cases typed
  | list origin items => cases typed
  | table origin entries => cases typed

private theorem toText_of_content {key : Key} {value : Value} {content : Content}
    (owned : key.owner = .script) (typed : key.content? value = some content) :
    ∃ text, content = .text text ∧ ∀ place, toText place value = .ok text := by
  have asText : key.content? value = value.text?.map .text := by
    cases key with
    | selfClosing => cases owned
    | doctypes => cases owned
    | output => rfl
    | line => rfl
    | helper => rfl
    | indent => rfl
  rw [asText] at typed
  obtain ⟨text, single, rfl⟩ := Option.map_eq_some_iff.mp typed
  exact ⟨text, rfl, toText_of_text? single⟩

/-- A field of a table is looked for under the name of its setting. -/
theorem slot_table (key : Key) {record : Record} {index : Nat}
    (named : (record.fields[index]?).getD [] = key.name) (place : List Step)
    (values : Key → Value) :
    Slot.of record place (key.owner.table values) index =
      .ok ⟨place ++ [.name key.name], some (values key), .missingField key.name⟩ := by
  rw [← get?_table, ← named]
  rfl

private theorem read_some {α : Type} {decode : List Step → Value → Except Error α} {value : Value}
    {content : α} (reads : ∀ place, decode place value = .ok content) (place : List Step)
    (absence : Error) : Slot.read ⟨place, some value, absence⟩ decode = .ok (some content) := by
  simp only [Slot.read, Option.mapM_some, reads]
  rfl

theorem toOptions_table {values : Key → Value} {tags : List Text} {flag : Bool}
    (readTags : ∀ place, toTexts place (values .selfClosing) = .ok tags)
    (readFlag : ∀ place, toBoolean place (values .doctypes) = .ok flag) (place : List Step) :
    toOptions place (Section.table values .compiler) = .ok ⟨tags, flag⟩ := by
  have selfClosing : Slot.of .compiler place (Section.table values .compiler) 0 = _ :=
    slot_table .selfClosing rfl place values
  have doctypes : Slot.of .compiler place (Section.table values .compiler) 1 = _ :=
    slot_table .doctypes rfl place values
  simp only [toOptions, selfClosing, doctypes, except_ok_bind, read_some readTags,
    read_some readFlag, Slot.require]
  rfl

theorem toScriptOptions_table {values : Key → Value} {output line helper indent : Text}
    (readOutput : ∀ place, toText place (values .output) = .ok output)
    (readLine : ∀ place, toText place (values .line) = .ok line)
    (readHelper : ∀ place, toText place (values .helper) = .ok helper)
    (readIndent : ∀ place, toText place (values .indent) = .ok indent) (place : List Step) :
    toScriptOptions place (Section.table values .script) =
      .ok ⟨output, line, helper, indent⟩ := by
  have outputSlot : Slot.of .script place (Section.table values .script) 0 = _ :=
    slot_table .output rfl place values
  have lineSlot : Slot.of .script place (Section.table values .script) 1 = _ :=
    slot_table .line rfl place values
  have helperSlot : Slot.of .script place (Section.table values .script) 2 = _ :=
    slot_table .helper rfl place values
  have indentSlot : Slot.of .script place (Section.table values .script) 3 = _ :=
    slot_table .indent rfl place values
  simp only [toScriptOptions, outputSlot, lineSlot, helperSlot, indentSlot, except_ok_bind,
    read_some readOutput, read_some readLine, read_some readHelper, read_some readIndent,
    Slot.require]
  rfl

theorem readRecord_tree {α : Type} (values : Key → Value) (owner : Section) {name : String}
    (named : owner.name = name.toList) (decode : List Step → Value → Except Error α) :
    readRecord (tree values) name decode = decode [.name owner.name] (owner.table values) := by
  rw [readRecord, ← named, get?_tree]

/-- The values are of the right kinds and give each setting the content that it is to have. -/
def Gives (values : Key → Value) (contents : Key → Content) : Prop :=
  ∀ key : Key, key.content? (values key) = some (contents key)

theorem Gives.update {values : Key → Value} {contents : Key → Content}
    (gives : Gives values contents) {key : Key} {value : Value} {content : Content}
    (typed : key.content? value = some content) :
    Gives (Function.update values key value) (Function.update contents key content) := by
  intro other
  by_cases same : other = key
  · rw [same, Function.update_self, Function.update_self, typed]
  · rw [Function.update_of_ne same, Function.update_of_ne same, gives]

/-- A tree of settings whose values give the settings the contents. -/
def Holds (root : Value) (contents : Key → Content) : Prop :=
  ∃ values, root = tree values ∧ Gives values contents

/-- A tree that holds contents is read as the settings with these contents. -/
theorem toSettings_of_holds {root : Value} {contents : Key → Content}
    (holds : Holds root contents) :
    ∃ settings, toSettings root = .ok settings ∧ ∀ key : Key, key.get settings = contents key := by
  obtain ⟨values, rfl, gives⟩ := holds
  obtain ⟨tags, tagsContent, readTags⟩ := toTexts_of_content (gives .selfClosing)
  obtain ⟨flag, flagContent, readFlag⟩ := toBoolean_of_content (gives .doctypes)
  obtain ⟨output, outputContent, readOutput⟩ := toText_of_content rfl (gives .output)
  obtain ⟨line, lineContent, readLine⟩ := toText_of_content rfl (gives .line)
  obtain ⟨helper, helperContent, readHelper⟩ := toText_of_content rfl (gives .helper)
  obtain ⟨indent, indentContent, readIndent⟩ := toText_of_content rfl (gives .indent)
  refine ⟨⟨⟨tags, flag⟩, ⟨output, line, helper, indent⟩⟩, ?_, ?_⟩
  · rw [toSettings, readRecord_tree values .compiler rfl, readRecord_tree values .script rfl,
      toOptions_table readTags readFlag,
      toScriptOptions_table readOutput readLine readHelper readIndent]
    rfl
  · intro key
    cases key with
    | selfClosing => exact tagsContent.symm
    | doctypes => exact flagContent.symm
    | output => exact outputContent.symm
    | line => exact lineContent.symm
    | helper => exact helperContent.symm
    | indent => exact indentContent.symm

/-- The shipped file spells out the standard settings, and nothing else. -/
theorem toOption_builtIn :
    builtIn.toOption = some (tree fun key => (key.get ⟨.standard, .standard⟩).value) := by
  decide +kernel

theorem builtIn_eq :
    builtIn = .ok (tree fun key => (key.get ⟨.standard, .standard⟩).value) :=
  eq_ok_of_toOption toOption_builtIn

theorem holds_standard :
    Holds (tree fun key => (key.get ⟨.standard, .standard⟩).value)
      fun key => key.get ⟨.standard, .standard⟩ := by
  refine ⟨fun key => (key.get ⟨.standard, .standard⟩).value, rfl, fun key => ?_⟩
  cases key with
  | selfClosing =>
    exact congrArg (Option.map Content.texts) (mapM_text?_map Options.standard.selfClosing)
  | doctypes => rfl
  | output => rfl
  | line => rfl
  | helper => rfl
  | indent => rfl

/-- Assigning to the key path of a setting changes that setting. -/
theorem Holds.assignPath {root : Value} {contents : Key → Content} (holds : Holds root contents)
    {key : Key} {value : Value} {content : Content} (typed : key.content? value = some content) :
    ∃ next, root.assignPath key.keyPath value = .ok next ∧
      Holds next (Function.update contents key content) := by
  obtain ⟨values, rfl, gives⟩ := holds
  exact ⟨_, assignPath_tree typed values, _, rfl, gives.update typed⟩

end Haml.Setting
