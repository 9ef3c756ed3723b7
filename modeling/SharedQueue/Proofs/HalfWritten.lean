/-
SharedQueue.Proofs.HalfWritten — descriptors whose text is still being written.

The text of a descriptor is written in place, and a reader that looks for it
may find any beginning. One that does not spell a descriptor is no harm: the
reader looks again. But ranges that a flavor does without are left out of the
text, and the last digits of a number can be missing, so some beginnings spell
another descriptor.

* `Descriptor.Glimpse` — what a beginning can be taken for: the descriptor,
  the same without its event flag, or one whose shared counter is missing too
  and whose slots may be too few.
* `ofText_cut`, `exists_glimpse` — for nothing else, and for each of them.
* `Queue.attach_uncounted`, `Queue.attach_unflagged` — who joins without the
  counter is refused for good, and who joins without the flag gets a handle
  that cannot wait.
* `Queue.half_written_descriptor` — all of it, for every queue that is created.
-/
import SharedQueue.Bench.Reader
import SharedQueue.Proofs.Handover
import SharedQueue.Proofs.Joining

namespace SharedQueue

open Toml

namespace Descriptor

variable {d d' : Descriptor}

/-! ## What a beginning is taken for -/

/-- The descriptor without its event flag. -/
def unflagged (d : Descriptor) : Descriptor := { d with eventFlag := none }

/-- The descriptor of a text that ends with the slots, or before the last
digits of their room. -/
def uncounted (d : Descriptor) (lost : Nat) : Descriptor :=
  { d with
    data := ⟨d.data.offset, d.data.extent / 10 ^ lost⟩
    readCounter := none
    writeReserve := none
    eventFlag := none }

/-- What a beginning of the text of a descriptor can be taken for. -/
inductive Glimpse (d : Descriptor) : Descriptor → Prop
  | whole : Glimpse d d
  | unflagged : Glimpse d d.unflagged
  | uncounted (lost : Nat) (digits : lost = 0 ∨ 10 ^ lost ≤ d.data.extent) :
    Glimpse d (d.uncounted lost)

/-- What matters about a queue that is created: it has one of the two shared
counters that the flavors need, and the room of a word is a single digit. -/
structure Drawn (d : Descriptor) : Prop where
  counter : d.writeReserve.isSome = !d.readCounter.isSome
  brief : ∀ g, some g ∈ [d.readCounter, d.writeReserve, d.eventFlag] → g.extent < 10

/-! ## Ranges that are cut short -/

/-- The words that a descriptor may do without. -/
def words (d : Descriptor) : List (String × Option Grantor) :=
  [("read_counter", d.readCounter), ("write_reserve", d.writeReserve), ("event_flag", d.eventFlag)]

/-- The ranges of a descriptor. -/
def ranges (d : Descriptor) : List (String × Option Grantor) :=
  ("write_counter", some d.writeCounter) :: ("data", some d.data) :: d.words

/-- The sections of some ranges. -/
def rangeSections (ranges : List (String × Option Grantor)) : List (String × Fields) :=
  ranges.flatMap fun (name, range) => rangeSection name range

theorem sections_eq (d : Descriptor) : d.sheet.sections = rangeSections d.ranges := by
  simp [sheet, rangeSections, ranges, words]

/-- A range without the last digits of its room. -/
inductive RangeCut : String × Option Grantor → String × Option Grantor → Prop
  | digits (name : String) (g : Grantor) (lost : Nat) (large : lost = 0 ∨ 10 ^ lost ≤ g.extent) :
    RangeCut (name, some g) (name, some ⟨g.offset, g.extent / 10 ^ lost⟩)

/-- A single digit is there or not. -/
theorem RangeCut.eq {part part' : String × Option Grantor}
    (brief : ∀ g, part.2 = some g → g.extent < 10) (cut : RangeCut part part') : part' = part := by
  cases cut with
  | digits name g lost large =>
    have small := brief g rfl
    obtain rfl : lost = 0 := by
      by_contra several
      have many := large.resolve_left several
      have least : 10 ^ 1 ≤ 10 ^ lost :=
        Nat.pow_le_pow_right (by decide) (Nat.one_le_iff_ne_zero.mpr several)
      omega
    simp

/-- A section of a range that is cut short says too little, or a range. -/
theorem range?_cut {g : Grantor} {fields : Fields}
    (cuts : Cuts FieldCut [("offset", .number g.offset), ("extent", .number g.extent)] fields) :
    range? (.table (Fields.members fields)) = none ∨
      ∃ lost, (lost = 0 ∨ 10 ^ lost ≤ g.extent) ∧
        fields = [("offset", .number g.offset), ("extent", .number (g.extent / 10 ^ lost))] := by
  cases cuts with
  | nil => exact .inl rfl
  | @last _ field' _ cut =>
    obtain ⟨name, v⟩ := field'
    obtain ⟨rfl, -⟩ := cut
    refine .inl ?_
    simp [range?, Value.required?, Value.field?, Fields.members, List.lookup_cons]
  | cons rest =>
    cases rest with
    | nil =>
      refine .inl ?_
      simp [range?, Value.required?, Value.field?, Fields.members, List.lookup_cons]
    | @last _ field' _ cut =>
      obtain ⟨name, v⟩ := field'
      obtain ⟨rfl, cut⟩ := cut
      cases cut with
      | number _ lost large => exact .inr ⟨lost, large, rfl⟩
    | cons rest =>
      cases rest
      exact .inr ⟨0, .inl rfl, by simp⟩

/-- Sections of ranges that are cut short are those of ranges that are, unless
the last one says too little. -/
theorem cuts_rangeSections {ranges : List (String × Option Grantor)}
    {sections : List (String × Fields)}
    (cuts : Cuts SectionCut (rangeSections ranges) sections) :
    (∃ earlier name fields, sections = earlier ++ [(name, fields)] ∧ name ∈ ranges.map (·.1) ∧
      range? (.table (Fields.members fields)) = none) ∨
    ∃ ranges', Cuts RangeCut ranges ranges' ∧ sections = rangeSections ranges' := by
  induction ranges generalizing sections with
  | nil =>
    cases cuts
    exact .inr ⟨[], .nil, rfl⟩
  | cons part ranges ih =>
    obtain ⟨name, _ | g⟩ := part
    · have skip : rangeSections ((name, none) :: ranges) = rangeSections ranges := rfl
      rw [skip] at cuts
      rcases ih cuts with ⟨earlier, last, fields, same, mem, bad⟩ | ⟨ranges', inner, same⟩
      · exact .inl ⟨earlier, last, fields, same, List.mem_cons_of_mem _ mem, bad⟩
      · exact .inr ⟨(name, none) :: ranges', .cons inner, same⟩
    · have first : rangeSections ((name, some g) :: ranges) =
          (name, [("offset", .number g.offset), ("extent", .number g.extent)]) ::
            rangeSections ranges := rfl
      rw [first] at cuts
      cases cuts with
      | nil => exact .inr ⟨[], .nil, rfl⟩
      | @last _ part' _ cut =>
        obtain ⟨name', fields⟩ := part'
        obtain ⟨rfl, inner⟩ := cut
        rcases range?_cut inner with bad | ⟨lost, large, rfl⟩
        · exact .inl ⟨[], _, fields, rfl, List.mem_cons_self, bad⟩
        · exact .inr ⟨_, .last (.digits _ g lost large), rfl⟩
      | cons rest =>
        rcases ih rest with ⟨earlier, last, fields, rfl, mem, bad⟩ | ⟨ranges', inner, rfl⟩
        · exact .inl ⟨_ :: earlier, last, fields, rfl, List.mem_cons_of_mem _ mem, bad⟩
        · exact .inr ⟨_, .cons inner, rfl⟩

/-! ## What is read of them -/

/-- A section that says too little spoils the document. -/
theorem ofValue?_of_bad {members : List (String × Value)} {name : String} {inner : Value}
    (mem : name ∈ d.ranges.map (·.1)) (found : members.lookup name = some inner)
    (bad : range? inner = none) : ofValue? (.table members) = none := by
  cases ok : ofValue? (.table members) with
  | none => rfl
  | some d' =>
    have spelled := ofValue?_eq_some.mp ok
    simp only [ranges, words, List.map_cons, List.map_nil, List.mem_cons, List.not_mem_nil,
      or_false] at mem
    rcases mem with rfl | rfl | rfl | rfl | rfl
    · simpa [Value.required?, Value.field?, found, bad] using spelled.writeCounter
    · simpa [Value.required?, Value.field?, found, bad] using spelled.data
    · simpa [Value.optional?, Value.field?, found, bad] using spelled.readCounter
    · simpa [Value.optional?, Value.field?, found, bad] using spelled.writeReserve
    · simpa [Value.optional?, Value.field?, found, bad] using spelled.eventFlag

/-- Without a section for the slots there is no descriptor. -/
theorem ofValue?_of_absent {members : List (String × Value)}
    (absent : "data" ∉ members.map (·.1)) : ofValue? (.table members) = none := by
  cases ok : ofValue? (.table members) with
  | none => rfl
  | some d' =>
    have data := (ofValue?_eq_some.mp ok).data
    simp [Value.required?, Value.field?, lookup_eq_none_of_notMem absent] at data

/-- Behind the slots a beginning can end before the counter, before the event
flag or after both. -/
theorem glimpse_of_words (drawn : d.Drawn) {words' : List (String × Option Grantor)}
    (within : words' <+: d.words) :
    ∃ d', d.Glimpse d' ∧
      d'.sheet = ⟨d.sheet.fields,
        rangeSections
          (("write_counter", some d.writeCounter) :: ("data", some d.data) :: words')⟩ := by
  have cut := (List.mem_inits words' d.words).mpr within
  simp only [words, List.inits, List.map_cons, List.map_nil, List.mem_cons, List.not_mem_nil,
    or_false] at cut
  have counter := drawn.counter
  -- a text that ends before the reservation lacks something only in the flavor that has one
  rcases cut with rfl | rfl | rfl | rfl
  · exact ⟨_, .uncounted 0 (.inl rfl), by simp [sheet, uncounted, rangeSections, rangeSection]⟩
  · cases read : d.readCounter with
    | none =>
      exact ⟨_, .uncounted 0 (.inl rfl), by simp [sheet, uncounted, rangeSections, rangeSection]⟩
    | some g =>
      have reserve : d.writeReserve = none := by simpa [read] using counter
      exact ⟨_, .unflagged, by simp [sheet, unflagged, rangeSections, rangeSection, read, reserve]⟩
  · exact ⟨_, .unflagged, by simp [sheet, unflagged, rangeSections, rangeSection]⟩
  · exact ⟨_, .whole, by simp [sheet, rangeSections]⟩

/-- Ranges that are cut short lack the slots, or are those of a glimpse. -/
theorem glimpse_of_ranges (drawn : d.Drawn) {ranges' : List (String × Option Grantor)}
    (cuts : Cuts RangeCut d.ranges ranges') :
    "data" ∉ ranges'.map (·.1) ∨
      ∃ d', d.Glimpse d' ∧ d'.sheet = ⟨d.sheet.fields, rangeSections ranges'⟩ := by
  cases cuts with
  | nil => exact .inl (by simp)
  | last cut =>
    cases cut
    exact .inl (by simp)
  | cons cuts =>
    cases cuts with
    | nil => exact .inl (by simp)
    | last cut =>
      cases cut with
      | digits _ _ lost large =>
        exact .inr ⟨_, .uncounted lost large,
          by simp [sheet, uncounted, rangeSections, rangeSection]⟩
    | @cons _ _ words' cuts =>
      refine .inr (glimpse_of_words drawn (cuts.beginning fun part mem part' cut => ?_))
      refine cut.eq fun g same => drawn.brief g ?_
      simp only [words, List.mem_cons, List.not_mem_nil, or_false] at mem
      rcases mem with rfl | rfl | rfl <;> simp_all

theorem slots_notMem_fields (d : Descriptor) : "data" ∉ Fields.names d.sheet.fields := by
  simp [Fields.names, sheet]

theorem rangeSections_names (ranges : List (String × Option Grantor)) :
    (rangeSections ranges).map (·.1) ⊆ ranges.map (·.1) := by
  induction ranges with
  | nil => exact List.Subset.refl _
  | cons part ranges ih =>
    obtain ⟨name, _ | g⟩ := part
    · exact List.subset_cons_of_subset _ ih
    · exact List.cons_subset_cons _ ih

/-- What is read of a record that is cut short. -/
theorem ofValue?_cut (drawn : d.Drawn) {s : Sheet} (cut : d.sheet.Cut s) :
    ofValue? s.value = none ∨ ∃ d', d.Glimpse d' ∧ ofValue? s.value = some d' := by
  have tidy := cut.tidy d.tidy
  generalize same : d.sheet = whole at cut
  cases cut with
  | @fields fields fields' sections cuts =>
    obtain rfl : d.sheet.fields = fields := congrArg Sheet.fields same
    refine .inl (ofValue?_of_absent fun mem => ?_)
    rw [Sheet.map_members, Sheet.names, List.map_nil, List.append_nil] at mem
    exact absurd ((names_within cuts).subset mem) (slots_notMem_fields d)
  | @sections fields sections sections' cuts =>
    obtain rfl : d.sheet.fields = fields := congrArg Sheet.fields same
    obtain rfl : d.sheet.sections = sections := congrArg Sheet.sections same
    rw [sections_eq] at cuts
    rcases cuts_rangeSections cuts with
      ⟨earlier, name, fields, rfl, mem, bad⟩ | ⟨ranges', inner, rfl⟩
    · exact .inl (ofValue?_of_bad mem (tidy.lookup_last rfl) bad)
    · rcases glimpse_of_ranges drawn inner with absent | ⟨d', glimpse, same⟩
      · refine .inl (ofValue?_of_absent fun mem => ?_)
        rw [Sheet.map_members, Sheet.names, List.mem_append] at mem
        rcases mem with mem | mem
        · exact slots_notMem_fields d mem
        · exact absent (rangeSections_names _ mem)
      · exact .inr ⟨d', glimpse, same ▸ ofValue?_value d'⟩

/-! ## Beginnings of the text -/

/-- A beginning of the text of a descriptor spells a glimpse, or nothing. -/
theorem ofText_cut (drawn : d.Drawn) (encodable : d.Encodable) {p rest : List Char}
    (same : d.sheet.write = p ++ rest) :
    ofText (String.ofList p) = .error .decode ∨
      ∃ d', d.Glimpse d' ∧ ofText (String.ofList p) = .ok d' := by
  rcases parse?_cut d.tidy (fits_iff.mpr encodable) same with unread | ⟨s, cut, read⟩
  · exact .inl (by simp [ofText, unread])
  · rcases ofValue?_cut drawn cut with bad | ⟨d', glimpse, ok⟩
    · exact .inl (by simp [ofText, read, bad])
    · exact .inr ⟨d', glimpse, by simp [ofText, read, ok]⟩

theorem ofText_unended (encodable : d.Encodable) {p : List Char}
    (same : d.sheet.write = p ++ [lineFeed]) : ofText (String.ofList p) = .ok d := by
  simp [ofText, parse?_unended d.tidy (fits_iff.mpr encodable) same, ofValue?_value]

theorem Encodable.unflagged (encodable : d.Encodable) : d.unflagged.Encodable := by
  intro n mem
  refine encodable n ?_
  simp only [numbers, Descriptor.unflagged, List.mem_append, List.mem_flatMap] at mem ⊢
  refine mem.imp_right ?_
  rintro ⟨range, there, inside⟩
  refine ⟨range, ?_, inside⟩
  simp only [List.mem_cons] at there ⊢
  rcases there with rfl | rfl | rfl | rfl | rfl | absent
  · simp
  · simp
  · simp
  · simp
  · cases inside
  · cases absent

theorem Encodable.uncounted (encodable : d.Encodable) (lost : Nat) :
    (d.uncounted lost).Encodable := by
  simp only [Encodable, numbers, Descriptor.uncounted, rangeNumbers, List.flatMap_cons,
    List.flatMap_nil, List.cons_append, List.nil_append, List.forall_mem_cons] at encodable ⊢
  obtain ⟨size, count, region, word, wordRoom, slots, room, -⟩ := encodable
  have less := Nat.le_trans (Nat.div_le_self d.data.extent (10 ^ lost)) room
  exact ⟨size, count, region, word, wordRoom, slots, less, by simp⟩

/-- The text of some sections. -/
def writeSections (sections : List (String × Fields)) : List Char :=
  sections.flatMap fun (name, fields) => writeSection name fields

/-- The text up to the room of the slots. -/
def textHead (d : Descriptor) : List Char :=
  writeFields d.sheet.fields
    ++ writeSections (rangeSections [("write_counter", some d.writeCounter)])
    ++ writeSection "data" [("offset", .number d.data.offset)] ++ ("extent".toList ++ " = ".toList)

/-- The text after it. -/
def textTail (d : Descriptor) : List Char := writeSections (rangeSections d.words)

theorem write_eq (d : Descriptor) :
    d.sheet.write = d.textHead ++ (decimals d.data.extent ++ lineFeed :: d.textTail) := by
  have slots : writeSection "data"
        [("offset", .number d.data.offset), ("extent", .number d.data.extent)] =
      writeSection "data" [("offset", .number d.data.offset)] ++ ("extent".toList ++ " = ".toList)
        ++ (decimals d.data.extent ++ [lineFeed]) := by
    simp only [writeSection, writeFields, Scalar.write, toList_toString, List.flatMap_cons,
      List.flatMap_nil, List.append_nil, List.append_assoc]
  rw [Sheet.write, sections_eq]
  simp [textHead, textTail, writeSections, ranges, rangeSections, rangeSection, slots]

theorem write_unflagged (d : Descriptor) :
    d.sheet.write =
      d.unflagged.sheet.write ++ writeSections (rangeSection "event_flag" d.eventFlag) := by
  simp [Sheet.write, sheet, unflagged, writeSections, rangeSection]

theorem write_uncounted (d : Descriptor) :
    d.sheet.write = (d.uncounted 0).sheet.write ++ d.textTail := by
  have short : (d.uncounted 0).sheet.write =
      d.textHead ++ (decimals (d.data.extent / 10 ^ 0) ++ [lineFeed]) := write_eq (d.uncounted 0)
  simp [write_eq, short]

/-- Every glimpse is what some beginning of the text spells. -/
theorem exists_glimpse (encodable : d.Encodable) (glimpse : d.Glimpse d') :
    ∃ p rest, d.sheet.write = p ++ rest ∧ ofText (String.ofList p) = .ok d' := by
  cases glimpse with
  | whole => exact ⟨_, [], (List.append_nil _).symm, ofText_toText (toText_eq encodable)⟩
  | unflagged => exact ⟨_, _, d.write_unflagged, ofText_toText (toText_eq encodable.unflagged)⟩
  | uncounted lost digits =>
    obtain ⟨more, split⟩ := decimals_within digits
    refine ⟨d.textHead ++ decimals (d.data.extent / 10 ^ lost), more ++ lineFeed :: d.textTail, ?_,
      ofText_unended (encodable.uncounted lost) ?_⟩
    · rw [write_eq, ← split]
      simp
    · rw [List.append_assoc]
      exact write_eq (d.uncounted lost)

/-- A text that is written further. -/
theorem toText_append {text : String} {rest : List Char} (encodable : d.Encodable)
    (ok : d'.toText = .ok text) (more : d.sheet.write = d'.sheet.write ++ rest) :
    d.toText = .ok (text ++ String.ofList rest) := by
  rw [toText_eq (encodable_of_toText ok)] at ok
  cases ok
  rw [toText_eq encodable, more, String.ofList_append]

/-! ## Checks -/

/-- Without a shared counter the check of a descriptor fails. -/
theorem check_uncounted (d : Descriptor) (lost quantumAlign : Nat) :
    (d.uncounted lost).check quantumAlign ≠ .ok () := by
  intro ok
  obtain ⟨presence, -⟩ := Layout.check_eq_ok_iff.mp (check_eq_ok_iff.mp ok).2
  obtain ⟨counter, reserve⟩ := Layout.checkPresence_eq_ok_iff.mp presence
  cases flavor : (d.uncounted lost).flavor with
  | synchronized =>
    rw [flavor] at counter
    cases counter
  | unsynchronized =>
    rw [flavor] at reserve
    cases reserve

/-- Without the event flag there is less to check. -/
theorem check_unflagged {quantumAlign : Nat} (ok : d.check quantumAlign = .ok ()) :
    d.unflagged.check quantumAlign = .ok () := by
  obtain ⟨shape, layout⟩ := check_eq_ok_iff.mp ok
  obtain ⟨presence, pieces, apart⟩ := Layout.check_eq_ok_iff.mp layout
  have fewer : (d.unflagged.layout.pieces quantumAlign).Sublist (d.layout.pieces quantumAlign) := by
    simp [Layout.pieces, Layout.word, Descriptor.layout, unflagged]
  exact check_eq_ok_iff.mpr ⟨shape, Layout.check_eq_ok_iff.mpr
    ⟨presence, fun p mem => pieces p (fewer.subset mem), apart.sublist fewer⟩⟩

end Descriptor

namespace Queue

variable {t : ElementType} {d : Descriptor} {s : Store} {r : Queue t}

/-- What is left of joining when the descriptor fits the type and the region. -/
theorem attach_eq_map {flavor : Flavor} {region : Region} (sameFlavor : d.flavor = flavor)
    (sameSize : d.quantumSize = t.size) (checked : d.check t.alignment = .ok ())
    (opened : s.openNamed d.name = .ok region) (room : d.regionSize ≤ region.size) :
    attach t flavor d s = map region (s.memory region.memory) d := by
  simp [attach, sameFlavor, sameSize, checked, opened, Nat.not_lt.mpr room, Except.mapError, bind,
    Except.bind]

theorem map_unflagged {region : Region} {m : Memory} (ok : map region m d = .ok r) :
    map (t := t) region m d.unflagged = .ok { r with descriptor := d.unflagged } := by
  obtain ⟨checked, cursor⟩ := check_bind_eq_ok_iff.mp ok
  obtain ⟨write, rest⟩ := check_bind_eq_ok_iff.mp (mapError_eq_ok_iff.mp checked)
  obtain ⟨read, rest⟩ := check_bind_eq_ok_iff.mp rest
  obtain ⟨reserve, rest⟩ := check_bind_eq_ok_iff.mp rest
  obtain ⟨-, slots⟩ := check_bind_eq_ok_iff.mp rest
  have flag : checkPiece region flagType none = .ok () := rfl
  have pieces : (do
      region.check counterType d.writeCounter
      checkPiece region counterType d.readCounter
      checkPiece region counterType d.writeReserve
      checkPiece region flagType none
      region.check t d.data) = .ok () := by
    simp [write, read, reserve, flag, slots, bind, Except.bind]
  obtain ⟨first, begins, made⟩ := bind_eq_ok_iff.mp cursor
  cases made
  exact check_bind_eq_ok_iff.mpr
    ⟨mapError_eq_ok_iff.mpr pieces, bind_eq_ok_iff.mpr ⟨first, begins, rfl⟩⟩

/-- Nobody joins a queue with a descriptor without the shared counter, and there
is no point in trying again. -/
theorem attach_uncounted (sameSize : d.quantumSize = t.size) (lost : Nat) (s : Store) :
    ∃ fault, attach t d.flavor (d.uncounted lost) s = .error (.invalidDescriptor fault) := by
  cases checked : (d.uncounted lost).check t.alignment with
  | ok _ => exact absurd checked (d.check_uncounted lost _)
  | error fault =>
    refine ⟨fault, ?_⟩
    have flavor : (d.uncounted lost).flavor = d.flavor := rfl
    have size : (d.uncounted lost).quantumSize = t.size := sameSize
    simp [attach, flavor, size, checked, Except.mapError, bind, Except.bind]

/-- Whoever can join a queue can join it without its event flag. -/
theorem attach_unflagged {flavor : Flavor} (ok : attach t flavor d s = .ok r) :
    attach t flavor d.unflagged s = .ok { r with descriptor := d.unflagged } := by
  obtain ⟨sameFlavor, sameSize, checked, opened, room, -, -⟩ := attach_eq_ok ok
  rw [attach_eq_map sameFlavor sameSize checked opened room] at ok
  have same : attach t flavor d.unflagged s = map r.region (s.memory r.region.memory) d.unflagged :=
    attach_eq_map sameFlavor sameSize (Descriptor.check_unflagged checked) opened room
  exact same.trans (map_unflagged ok)

end Queue

/-! ## Queues that are created -/

namespace Bench.ReaderState

variable {c : ReaderConfig} {host : Host} {now since : Instant} {text : String}

/-- The reading program, which waits for the descriptor since a time, finds this
text in the file and can still wait. -/
structure Finds (c : ReaderConfig) (host : Host) (now since : Instant) (text : String) : Prop where
  found : host.files.readText c.descriptorPath = .ok text
  early : now < since + milliseconds c.attachTimeoutMs

/-- A text that spells nothing is looked at again later. -/
theorem Finds.pause (finds : Finds c host now since text)
    (spelled : Descriptor.ofText text = .error .decode) :
    seeking c now host since = (host, .pause (now + seekStep) (.seek since)) := by
  simp [seeking, Descriptor.load, finds.found, spelled, finds.early, Except.mapError, bind,
    Except.bind]

/-- With a text that spells a descriptor the program goes on. -/
theorem Finds.join (finds : Finds c host now since text) {d : Descriptor}
    (spelled : Descriptor.ofText text = .ok d) :
    seeking c now host since = (host, .go (.join d)) := by
  simp [seeking, Descriptor.load, finds.found, spelled, Except.mapError, bind, Except.bind]

end Bench.ReaderState

namespace Queue

open Bench

variable {t : ElementType} {flavor : Flavor} {c : QueueConfig} {s s' : Store} {q : Queue t}

theorem drawn_of_create (ok : create t flavor c s = .ok (q, s')) : q.descriptor.Drawn := by
  obtain ⟨layout, plan, -, descriptor, -⟩ := create_eq_ok ok
  have checked := Layout.check_plan plan t.alignment_dvd_max
  obtain ⟨counter, reserve⟩ :=
    Layout.checkPresence_eq_ok_iff.mp (Layout.check_eq_ok_iff.mp checked).1
  rw [descriptor]
  refine ⟨?_, fun g mem => Nat.lt_of_le_of_lt (Layout.plan_words plan mem) (by decide)⟩
  show layout.writeReserve.isSome = !layout.readCounter.isSome
  rw [reserve, counter, Flavor.hasReservation_eq_not]

/-- A document can hold the descriptor of a queue that is created: no number of
it is larger than the region. -/
theorem encodable_of_create (ok : create t flavor c s = .ok (q, s')) :
    q.descriptor.Encodable := by
  obtain ⟨layout, plan, made, descriptor, -⟩ := create_eq_ok ok
  obtain ⟨-, -, small, -⟩ := Store.create_eq_ok made
  have limit : Store.sizeLimit = integerMax + 1 := by decide
  have checked := Layout.check_plan plan t.alignment_dvd_max
  have inside {g : Grantor} (mem : some g ∈ [some layout.writeCounter, some layout.data,
      layout.readCounter, layout.writeReserve, layout.eventFlag]) : g.stop ≤ layout.size := by
    obtain ⟨p, there, rfl⟩ := Layout.exists_range t.alignment mem
    exact (Layout.Piece.check_eq_ok_iff.mp ((Layout.check_eq_ok_iff.mp checked).2.1 p there)).1
  obtain ⟨sizePos, countPos, extent⟩ := Layout.plan_shape plan
  have slots : t.size * c.quantumCount ≤ layout.size :=
    Nat.le_trans (Nat.le_of_eq extent) (Nat.le_trans (Nat.le_add_left _ _) (inside (by simp)))
  have sizeLe := Nat.le_mul_of_pos_right t.size countPos
  have countLe := Nat.le_mul_of_pos_left c.quantumCount sizePos
  rw [descriptor]
  intro n mem
  suffices n ≤ layout.size by omega
  rcases List.mem_append.mp mem with mem | mem
  · simp only [List.mem_cons, List.not_mem_nil, or_false] at mem
    rcases mem with rfl | rfl | rfl
    · exact Nat.le_trans sizeLe slots
    · exact Nat.le_trans countLe slots
    · exact Nat.le_refl _
  · obtain ⟨range, there, mem⟩ := List.mem_flatMap.mp mem
    cases range with
    | none => cases mem
    | some g =>
      have stop := inside there
      simp only [Descriptor.rangeNumbers, List.mem_cons, List.not_mem_nil, or_false] at mem
      unfold Grantor.stop at stop
      omega

/-- Without an event flag a read on the queue's own flag cannot wait. -/
theorem startOwn_unflagged {d : Descriptor} (same : q.descriptor = d.unflagged)
    {buffer : List t.Value} (filled : buffer ≠ []) (waitBits notifyBits : UInt32) :
    ReadCall.startOwn q buffer waitBits notifyBits = .finish ⟨.error .noEventFlag, q, buffer⟩ := by
  simp [ReadCall.startOwn, filled, flagWord?, same, Descriptor.unflagged]

/-- The text of the descriptor of a queue that is created, while it is written:
a beginning of it spells nothing, and then the reading program looks again, or
it spells the descriptor, the one without its event flag, or one without its
shared counter, and then the program goes on with that. Each of them is spelled
by some beginning. Joining without the counter is refused, and no longer as
something to be tried again. Joining without the event flag succeeds whenever
joining does, and then a read that may have to wait is refused. -/
theorem half_written_descriptor (created : create t flavor c s = .ok (q, s')) :
    ∃ text, q.descriptor.toText = .ok text ∧
      (∀ p rest, text.toList = p ++ rest →
        (Descriptor.ofText (String.ofList p) = .error .decode ∧
          ∀ reader host now since, ReaderState.Finds reader host now since (String.ofList p) →
            ReaderState.seeking reader now host since =
              (host, .pause (now + ReaderState.seekStep) (.seek since))) ∨
        ∃ d, q.descriptor.Glimpse d ∧ Descriptor.ofText (String.ofList p) = .ok d ∧
          ∀ reader host now since, ReaderState.Finds reader host now since (String.ofList p) →
            ReaderState.seeking reader now host since = (host, .go (.join d))) ∧
      (∀ d, q.descriptor.Glimpse d →
        ∃ p rest, text.toList = p ++ rest ∧ Descriptor.ofText (String.ofList p) = .ok d) ∧
      (∀ lost s₁, ∃ fault,
        attach t flavor (q.descriptor.uncounted lost) s₁ = .error (.invalidDescriptor fault)) ∧
      ∀ s₁ r, attach t flavor q.descriptor s₁ = .ok r →
        ∃ r', attach t flavor q.descriptor.unflagged s₁ = .ok r' ∧
          ∀ buffer : List t.Value, buffer ≠ [] → ∀ waitBits notifyBits,
            ReadCall.startOwn r' buffer waitBits notifyBits =
              .finish ⟨.error .noEventFlag, r', buffer⟩ := by
  have encodable := encodable_of_create created
  have sameFlavor := flavor_of_create created
  have sameSize := (sound_of_create created).quantumSize
  refine ⟨_, Descriptor.toText_eq encodable, ?_, ?_, ?_, ?_⟩
  · intro p rest same
    rw [String.toList_ofList] at same
    rcases Descriptor.ofText_cut (drawn_of_create created) encodable same with
      nothing | ⟨d, glimpse, spelled⟩
    · exact .inl ⟨nothing, fun reader host now since finds => finds.pause nothing⟩
    · exact .inr ⟨d, glimpse, spelled, fun reader host now since finds => finds.join spelled⟩
  · intro d glimpse
    rw [String.toList_ofList]
    exact Descriptor.exists_glimpse encodable glimpse
  · intro lost s₁
    rw [← sameFlavor]
    exact attach_uncounted sameSize lost s₁
  · intro s₁ r joined
    exact ⟨_, attach_unflagged joined, fun buffer filled => startOwn_unflagged rfl filled⟩

/-- A queue of 64 quanta of two bytes, with an event flag. -/
def halfWay : Queue (.primitive .u16) where
  descriptor := {
    name := "half"
    flavor := .unsynchronized
    quantumSize := 2
    quantumCount := 64
    regionSize := 320
    writeCounter := ⟨0, counterSize⟩
    data := ⟨192, 128⟩
    readCounter := none
    writeReserve := some ⟨64, counterSize⟩
    eventFlag := some ⟨128, flagSize⟩ }
  region := ⟨"half", 0, 320, true⟩
  cursor := .own 0

theorem create_halfWay :
    create (.primitive .u16) .unsynchronized
        { quantumCount := 64, eventFlag := true, name := some "half" } .empty =
      .ok (halfWay, ⟨#[.blank 320], [("half", 0)], 0⟩) := rfl

/-- Without the last digit of 128 the slots have room for six quanta. -/
theorem half_written_descriptor_halfWay :
    ∃ text, halfWay.descriptor.toText = .ok text ∧
      (∃ p rest, text.toList = p ++ rest ∧
        Descriptor.ofText (String.ofList p) = .ok (halfWay.descriptor.uncounted 1)) ∧
      (halfWay.descriptor.uncounted 1).data.extent = 12 ∧
      ∀ s₁, ∃ fault, attach (.primitive .u16) .unsynchronized (halfWay.descriptor.uncounted 1) s₁ =
        .error (.invalidDescriptor fault) := by
  obtain ⟨text, written, -, spelled, refused, -⟩ := half_written_descriptor create_halfWay
  exact ⟨text, written, spelled _ (.uncounted 1 (.inr (by decide))), by decide, refused 1⟩

/-- Its text up to the slots. -/
def earlyText : String := "os_id = \"half\"
flavor = \"unsynchronized\"
quantum_size = 2
quantum_count = 64
region_size = 320

[write_counter]
offset = 0
extent = 8

[data]
offset = 192
extent = 128
"

/-- Its text up to the reservation. -/
def lateText : String := "os_id = \"half\"
flavor = \"unsynchronized\"
quantum_size = 2
quantum_count = 64
region_size = 320

[write_counter]
offset = 0
extent = 8

[data]
offset = 192
extent = 128

[write_reserve]
offset = 64
extent = 8
"

set_option maxRecDepth 4000 in
/-- Two beginnings of its text that spell other descriptors. -/
theorem half_written_not_refused :
    (∃ s, create (.primitive .u16) .unsynchronized
        { quantumCount := 64, eventFlag := true, name := some "half" } .empty = .ok (halfWay, s)) ∧
    (∃ rest, halfWay.descriptor.toText = .ok (earlyText ++ rest)) ∧
    Descriptor.ofText earlyText = .ok (halfWay.descriptor.uncounted 0) ∧
    halfWay.descriptor.uncounted 0 ≠ halfWay.descriptor ∧
    (∃ rest, halfWay.descriptor.toText = .ok (lateText ++ rest)) ∧
    Descriptor.ofText lateText = .ok halfWay.descriptor.unflagged ∧
    halfWay.descriptor.unflagged ≠ halfWay.descriptor := by
  have encodable := encodable_of_create create_halfWay
  have early : (halfWay.descriptor.uncounted 0).toText = .ok earlyText := rfl
  have late : halfWay.descriptor.unflagged.toText = .ok lateText := rfl
  have afterEarly := Descriptor.toText_append encodable early (Descriptor.write_uncounted _)
  have afterLate := Descriptor.toText_append encodable late (Descriptor.write_unflagged _)
  exact ⟨⟨_, create_halfWay⟩, ⟨_, afterEarly⟩, Descriptor.ofText_toText early, by decide,
    ⟨_, afterLate⟩, Descriptor.ofText_toText late, by decide⟩

end Queue

end SharedQueue
