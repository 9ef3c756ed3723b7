/-
SharedQueue.Proofs.Handover — descriptors and configurations as documents.

* `Descriptor.numbers`, `Encodable` — the numbers of a descriptor; a document
  can hold them up to `integerMax`.
* `Descriptor.Spells`, `ofValue?_value` — a descriptor is what its record says.
* `Descriptor.encodable_of_ofText` — what is read can be written again.
* `documents_round_trip` — both kinds of records survive the trip through a
  text, and descriptors the one through a file.
-/
import SharedQueue.Directory
import SharedQueue.Config
import SharedQueue.Proofs.Toml.Bounds

namespace SharedQueue

open Toml

namespace Descriptor

variable {d : Descriptor} {text : String}

/-! ## Writing -/

/-- The numbers of a range that may be absent. -/
def rangeNumbers : Option Grantor → List Nat
  | some g => [g.offset, g.extent]
  | none => []

/-- The numbers of a descriptor. -/
def numbers (d : Descriptor) : List Nat :=
  [d.quantumSize, d.quantumCount, d.regionSize]
    ++ [some d.writeCounter, some d.data, d.readCounter, d.writeReserve, d.eventFlag].flatMap
      rangeNumbers

/-- A document can hold the descriptor. -/
def Encodable (d : Descriptor) : Prop := ∀ n ∈ d.numbers, n ≤ integerMax

theorem fits_rangeSection (name : String) (range : Option Grantor) :
    ((rangeSection name range).flatMap fun (_, fields) => fields.map (·.2)).all Scalar.fits =
      (rangeNumbers range).all fun n => n ≤ integerMax := by
  cases range <;> simp [rangeSection, rangeNumbers, Scalar.fits]

theorem fits_iff : d.sheet.Fits ↔ d.Encodable := by
  have scalars : d.sheet.scalars.all Scalar.fits = d.numbers.all fun n => n ≤ integerMax := by
    simp only [Sheet.scalars, sheet, numbers, List.flatMap_append, List.all_append,
      fits_rangeSection]
    simp [Scalar.fits, Bool.and_assoc]
  rw [Sheet.Fits, scalars]
  simp [Encodable]

/-- All names that the record of a descriptor can have. -/
def fieldNames : List String :=
  ["os_id", "flavor", "quantum_size", "quantum_count", "region_size", "write_counter", "data",
    "read_counter", "write_reserve", "event_flag"]

theorem rangeSection_names (name : String) (range : Option Grantor) :
    ((rangeSection name range).map (·.1)).Sublist [name] := by
  cases range <;> simp [rangeSection]

theorem names_of_mem_rangeSection {name : String} {range : Option Grantor}
    {part : String × Fields} (mem : part ∈ rangeSection name range) :
    Fields.names part.2 = ["offset", "extent"] := by
  cases range with
  | none => cases mem
  | some g =>
    rw [List.mem_singleton.mp mem]
    rfl

/-- The record of a descriptor is tidy. -/
theorem tidy (d : Descriptor) : d.sheet.Tidy := by
  have names : d.sheet.names.Sublist fieldNames := by
    simp only [Sheet.names, Fields.names, sheet, List.map_append, List.append_assoc]
    refine .append (List.Sublist.refl _) ?_
    exact .append (rangeSection_names _ _) (.append (rangeSection_names _ _)
      (.append (rangeSection_names _ _) (.append (rangeSection_names _ _)
        (rangeSection_names _ _))))
  have bare : ∀ name ∈ fieldNames, isBareName name = true := by decide
  have distinct : fieldNames.Nodup := by decide
  refine ⟨fun name mem => bare name (names.subset mem), distinct.sublist names, ?_⟩
  intro part mem
  have inner : Fields.names part.2 = ["offset", "extent"] := by
    simp only [sheet, List.mem_append] at mem
    rcases mem with (((mem | mem) | mem) | mem) | mem <;> exact names_of_mem_rangeSection mem
  rw [inner]
  exact ⟨by decide, by decide⟩

/-- The text of a descriptor that a document can hold. -/
theorem toText_eq (encodable : d.Encodable) :
    d.toText = .ok (String.ofList d.sheet.write) := by
  have fits : d.sheet.scalars.all Scalar.fits = true := fits_iff.mpr encodable
  simp [toText, Sheet.write?, fits, Except.mapError]

theorem encodable_of_toText (ok : d.toText = .ok text) : d.Encodable := by
  refine fits_iff.mp ?_
  by_contra unfit
  have large : d.sheet.scalars.all Scalar.fits = false := Bool.eq_false_iff.mpr unfit
  simp [toText, Sheet.write?, large, Except.mapError] at ok

/-! ## Reading -/

/-- What the section of a range says. -/
def rangeValue (g : Grantor) : Value :=
  .table [("offset", .integer g.offset), ("extent", .integer g.extent)]

theorem range?_rangeValue (g : Grantor) : range? (rangeValue g) = some g := by
  simp [range?, rangeValue, Value.required?, Value.field?, Value.natural?, List.lookup_cons]

/-- The section of a range is found by its name. -/
theorem lookup_rangeSection (key name : String) (range : Option Grantor) :
    ((rangeSection name range).map fun (name, fields) =>
        (name, Value.table (Fields.members fields))).lookup key =
      if key = name then range.map rangeValue else none := by
  cases range with
  | none => simp [rangeSection]
  | some g =>
    by_cases same : key = name
    · simp [rangeSection, Fields.members, Scalar.value, rangeValue, same]
    · simp [rangeSection, List.lookup_cons, same, beq_false_of_ne same]

/-- The members that the record of a descriptor becomes. -/
theorem lookup_members (d : Descriptor) (key : String) :
    d.sheet.members.lookup key =
      ((Fields.members d.sheet.fields).lookup key).or
        ((((((if key = "write_counter" then some (rangeValue d.writeCounter) else none).or
          (if key = "data" then some (rangeValue d.data) else none)).or
          (if key = "read_counter" then d.readCounter.map rangeValue else none)).or
          (if key = "write_reserve" then d.writeReserve.map rangeValue else none)).or
          (if key = "event_flag" then d.eventFlag.map rangeValue else none))) := by
  simp only [Sheet.members, sheet, List.map_append, List.lookup_append, lookup_rangeSection]
  rfl

theorem optional?_of_lookup {members : List (String × Value)} {name : String} (place : Nat)
    {range : Option Grantor} (there : members.lookup name = range.map rangeValue) :
    (Value.table members).optional? place name range? = some range := by
  cases range with
  | none => simp [Value.optional?, Value.field?, there]
  | some g => simp [Value.optional?, Value.field?, there, range?_rangeValue]

/-- A value holds a descriptor field by field. -/
structure Spells (v : Value) (d : Descriptor) : Prop where
  name : v.required? 0 "os_id" (·.text?) = some d.name
  flavor : v.required? 1 "flavor" flavor? = some d.flavor
  quantumSize : v.required? 2 "quantum_size" (·.natural?) = some d.quantumSize
  quantumCount : v.required? 3 "quantum_count" (·.natural?) = some d.quantumCount
  regionSize : v.required? 4 "region_size" (·.natural?) = some d.regionSize
  writeCounter : v.required? 5 "write_counter" range? = some d.writeCounter
  data : v.required? 6 "data" range? = some d.data
  readCounter : v.optional? 7 "read_counter" range? = some d.readCounter
  writeReserve : v.optional? 8 "write_reserve" range? = some d.writeReserve
  eventFlag : v.optional? 9 "event_flag" range? = some d.eventFlag

theorem ofValue?_eq_some {v : Value} : ofValue? v = some d ↔ Spells v d := by
  constructor
  · intro ok
    obtain ⟨name, nameRead, ok⟩ := Option.bind_eq_some_iff.mp ok
    obtain ⟨flavor, flavorRead, ok⟩ := Option.bind_eq_some_iff.mp ok
    obtain ⟨quantumSize, sizeRead, ok⟩ := Option.bind_eq_some_iff.mp ok
    obtain ⟨quantumCount, countRead, ok⟩ := Option.bind_eq_some_iff.mp ok
    obtain ⟨regionSize, regionRead, ok⟩ := Option.bind_eq_some_iff.mp ok
    obtain ⟨writeCounter, writeRead, ok⟩ := Option.bind_eq_some_iff.mp ok
    obtain ⟨data, dataRead, ok⟩ := Option.bind_eq_some_iff.mp ok
    obtain ⟨readCounter, readRead, ok⟩ := Option.bind_eq_some_iff.mp ok
    obtain ⟨writeReserve, reserveRead, ok⟩ := Option.bind_eq_some_iff.mp ok
    obtain ⟨eventFlag, flagRead, same⟩ := Option.bind_eq_some_iff.mp ok
    rw [← Option.some.inj same]
    exact ⟨nameRead, flavorRead, sizeRead, countRead, regionRead, writeRead, dataRead, readRead,
      reserveRead, flagRead⟩
  · intro spelled
    simp [ofValue?, spelled.name, spelled.flavor, spelled.quantumSize, spelled.quantumCount,
      spelled.regionSize, spelled.writeCounter, spelled.data, spelled.readCounter,
      spelled.writeReserve, spelled.eventFlag]

/-- A descriptor is what its record says. -/
theorem ofValue?_value (d : Descriptor) : ofValue? d.sheet.value = some d := by
  refine ofValue?_eq_some.mpr ?_
  constructor
  case readCounter | writeReserve | eventFlag =>
    refine optional?_of_lookup _ ?_
    rw [lookup_members]
    simp [sheet, Fields.members, List.lookup_cons]
  all_goals
    simp only [Value.required?, Sheet.value, Value.field?]
    rw [lookup_members]
    simp [sheet, Fields.members, Scalar.value, List.lookup_cons, Value.text?, Value.natural?,
      flavor?, Value.choice?, range?_rangeValue]

/-- The text of a descriptor spells it. -/
theorem ofText_toText (ok : d.toText = .ok text) : ofText text = .ok d := by
  have encodable := encodable_of_toText ok
  rw [toText_eq encodable, Except.ok.injEq] at ok
  subst ok
  simp [ofText, parse?_write d.tidy (fits_iff.mpr encodable), ofValue?_value]

/-! ## What is read can be written -/

theorem range?_le {v : Value} (bounded : v.Bounded) {g : Grantor} (ok : range? v = some g) :
    ∀ n ∈ rangeNumbers (some g), n ≤ integerMax := by
  obtain ⟨offset, first, ok⟩ := Option.bind_eq_some_iff.mp ok
  obtain ⟨extent, second, same⟩ := Option.bind_eq_some_iff.mp ok
  cases same
  simp [rangeNumbers, bounded.required?_le first, bounded.required?_le second]

theorem optional?_le {v : Value} (bounded : v.Bounded) {place : Nat} {name : String}
    {range : Option Grantor} (ok : v.optional? place name range? = some range) :
    ∀ n ∈ rangeNumbers range, n ≤ integerMax := by
  unfold Value.optional? at ok
  split at ok
  · cases ok
    exact nofun
  · rename_i inner found
    obtain ⟨g, read, rfl⟩ := Option.map_eq_some_iff.mp ok
    exact range?_le (bounded.field? found) read

theorem ofText_eq_ok (ok : ofText text = .ok d) :
    ∃ v, parse? text = some v ∧ ofValue? v = some d := by
  unfold ofText at ok
  split at ok
  · rename_i found
    cases ok
    exact Option.bind_eq_some_iff.mp found
  · cases ok

/-- A descriptor that is read can be written. -/
theorem encodable_of_ofText (ok : ofText text = .ok d) : d.Encodable := by
  obtain ⟨v, parsed, ok⟩ := ofText_eq_ok ok
  have bounded := bounded_parse? parsed
  have spelled := ofValue?_eq_some.mp ok
  obtain ⟨_, wordFound, word⟩ := Option.bind_eq_some_iff.mp spelled.writeCounter
  obtain ⟨_, slotsFound, slots⟩ := Option.bind_eq_some_iff.mp spelled.data
  intro n mem
  simp only [numbers, List.mem_append, List.mem_cons, List.not_mem_nil, or_false,
    List.mem_flatMap, exists_eq_or_imp, exists_eq_left] at mem
  rcases mem with (rfl | rfl | rfl) | mem | mem | mem | mem | mem
  · exact bounded.required?_le spelled.quantumSize
  · exact bounded.required?_le spelled.quantumCount
  · exact bounded.required?_le spelled.regionSize
  · exact range?_le (bounded.field? wordFound) word n mem
  · exact range?_le (bounded.field? slotsFound) slots n mem
  · exact optional?_le bounded spelled.readCounter n mem
  · exact optional?_le bounded spelled.writeReserve n mem
  · exact optional?_le bounded spelled.eventFlag n mem

end Descriptor

namespace QueueConfig

variable {c : QueueConfig} {text : String}

/-- A document can hold the configuration. -/
def Encodable (c : QueueConfig) : Prop := c.quantumCount ≤ integerMax

theorem fits_iff : (Sheet.mk c.fields []).Fits ↔ c.Encodable := by
  cases name : c.name <;>
    simp [Sheet.Fits, Sheet.scalars, fields, name, Scalar.fits, Encodable]

/-- The record of a configuration is tidy. -/
theorem tidy (c : QueueConfig) : (Sheet.mk c.fields []).Tidy := by
  have names : (Sheet.mk c.fields []).names.Sublist ["quantum_count", "event_flag", "os_id"] := by
    cases name : c.name <;> simp [Sheet.names, Fields.names, fields, name]
  have bare : ∀ name ∈ ["quantum_count", "event_flag", "os_id"], isBareName name = true := by decide
  exact ⟨fun name mem => bare name (names.subset mem), List.Nodup.sublist names (by decide),
    by simp⟩

theorem toText_eq (encodable : c.Encodable) :
    c.toText = .ok (String.ofList (Sheet.mk c.fields []).write) := by
  have fits : (Sheet.mk c.fields []).scalars.all Scalar.fits = true := fits_iff.mpr encodable
  simp [toText, Sheet.write?, fits, Except.mapError]

theorem encodable_of_toText (ok : c.toText = .ok text) : c.Encodable := by
  refine fits_iff.mp ?_
  by_contra unfit
  have large : (Sheet.mk c.fields []).scalars.all Scalar.fits = false :=
    Bool.eq_false_iff.mpr unfit
  simp [toText, Sheet.write?, large, Except.mapError] at ok

/-- A configuration is what its record says. -/
theorem ofValue?_value (c : QueueConfig) : ofValue? (Sheet.mk c.fields []).value = some c := by
  obtain ⟨count, flag, name⟩ := c
  cases name <;>
    simp [ofValue?, Sheet.value, Sheet.members, Fields.members, fields, Value.required?,
      Value.optional?, Value.field?, List.lookup_cons, Scalar.value, Value.natural?, Value.truth?,
      Value.text?]

/-- The text of a configuration spells it. -/
theorem ofText_toText (ok : c.toText = .ok text) : ofText text = .ok c := by
  have encodable := encodable_of_toText ok
  rw [toText_eq encodable, Except.ok.injEq] at ok
  subst ok
  simp [ofText, parse?_write c.tidy (fits_iff.mpr encodable), ofValue?_value]

/-- A configuration that is read can be written. -/
theorem encodable_of_ofText (ok : ofText text = .ok c) : c.Encodable := by
  unfold ofText at ok
  split at ok
  · rename_i found
    cases ok
    obtain ⟨v, parsed, ok⟩ := Option.bind_eq_some_iff.mp found
    obtain ⟨count, read, ok⟩ := Option.bind_eq_some_iff.mp ok
    obtain ⟨flag, -, ok⟩ := Option.bind_eq_some_iff.mp ok
    obtain ⟨name, -, same⟩ := Option.bind_eq_some_iff.mp ok
    cases same
    exact (bounded_parse? parsed).required?_le read
  · cases ok

end QueueConfig

/-! ## Files -/

theorem fromUTF8?_toByteArray (text : String) :
    String.fromUTF8? text.toByteArray = some text := by
  simp only [String.fromUTF8?, Option.dite_none_right_eq_some]
  exact ⟨text.isValidUTF8, rfl⟩

/-- A text that was written can be read. -/
theorem Directory.readText_writeText {dir dir' : Directory} {path text : String}
    (ok : dir.writeText path text = .ok dir') : dir'.readText path = .ok text := by
  simp [Directory.readText, Directory.read_write ok, fromUTF8?_toByteArray, bind, Except.bind]

namespace Descriptor

variable {d : Descriptor} {dir dir' : Directory} {path text : String}

/-- Saving a descriptor that a document can hold is writing its text. -/
theorem save_eq (ok : d.toText = .ok text) :
    d.save dir path = (dir.writeText path text).mapError .file := by
  simp [save, ok, bind, Except.bind]

/-- A descriptor that was saved can be loaded. -/
theorem load_save (ok : d.save dir path = .ok dir') : load dir' path = .ok d := by
  cases written : d.toText with
  | error e => simp [save, written, bind, Except.bind] at ok
  | ok text =>
    rw [save_eq written] at ok
    cases put : dir.writeText path text with
    | error fault => simp [put, Except.mapError] at ok
    | ok dir₁ =>
      rw [put] at ok
      cases ok
      simp [load, Directory.readText_writeText put, Except.mapError, bind, Except.bind,
        ofText_toText written]

end Descriptor

/-! ## The trip there and back -/

/-- A record can be written if and only if a document can hold its numbers, and
its text spells it. Whatever is read can be written and read again, and a
descriptor that was saved is the one that is loaded. -/
theorem documents_round_trip :
    (∀ d : Descriptor, ((∃ text, d.toText = .ok text) ↔ d.Encodable) ∧
      ∀ text, d.toText = .ok text → Descriptor.ofText text = .ok d) ∧
    (∀ c : QueueConfig, ((∃ text, c.toText = .ok text) ↔ c.Encodable) ∧
      ∀ text, c.toText = .ok text → QueueConfig.ofText text = .ok c) ∧
    (∀ text d, Descriptor.ofText text = .ok d →
      ∃ text', d.toText = .ok text' ∧ Descriptor.ofText text' = .ok d) ∧
    (∀ text c, QueueConfig.ofText text = .ok c →
      ∃ text', c.toText = .ok text' ∧ QueueConfig.ofText text' = .ok c) ∧
    ∀ (d : Descriptor) (dir : Directory) (path : String), d.Encodable →
      ∃ text, d.toText = .ok text ∧ d.save dir path = (dir.writeText path text).mapError .file ∧
        ∀ dir', d.save dir path = .ok dir' → Descriptor.load dir' path = .ok d := by
  refine ⟨fun d => ⟨⟨?_, ?_⟩, ?_⟩, fun c => ⟨⟨?_, ?_⟩, ?_⟩, ?_, ?_, ?_⟩
  · rintro ⟨text, written⟩
    exact Descriptor.encodable_of_toText written
  · exact fun encodable => ⟨_, Descriptor.toText_eq encodable⟩
  · exact fun text written => Descriptor.ofText_toText written
  · rintro ⟨text, written⟩
    exact QueueConfig.encodable_of_toText written
  · exact fun encodable => ⟨_, QueueConfig.toText_eq encodable⟩
  · exact fun text written => QueueConfig.ofText_toText written
  · intro text d read
    have written := Descriptor.toText_eq (Descriptor.encodable_of_ofText read)
    exact ⟨_, written, Descriptor.ofText_toText written⟩
  · intro text c read
    have written := QueueConfig.toText_eq (QueueConfig.encodable_of_ofText read)
    exact ⟨_, written, QueueConfig.ofText_toText written⟩
  · intro d dir path encodable
    have written := Descriptor.toText_eq encodable
    exact ⟨_, written, Descriptor.save_eq written, fun dir' ok => Descriptor.load_save ok⟩

end SharedQueue
