/-
SharedQueue.Proofs.Toml.Sheets — the text of a record is read as its value.

* `Sheet.value` — what the text of a record says; `Sheet.Tidy` — its names are
  bare and distinct.
* `addLines?_lines` — its entries fill its tables.
* `parse?_write` — the text is read as the value.
* `Sheet.Cut`, `parse?_cut` — a beginning of the text is not read, or as the
  value of a record that stops early; `parse?_unended` — the end of the last line
  makes no difference.
-/
import SharedQueue.Proofs.Toml.Lines

namespace SharedQueue.Toml

/-! ## What a record says -/

/-- The members that fields become. -/
def Fields.members (fields : Fields) : List (String × Value) :=
  fields.map fun (name, v) => (name, v.value)

/-- The members that a record becomes. -/
def Sheet.members (s : Sheet) : List (String × Value) :=
  Fields.members s.fields
    ++ s.sections.map fun (name, fields) => (name, .table (Fields.members fields))

/-- What the text of a record says. -/
def Sheet.value (s : Sheet) : Value := .table s.members

/-- The names of fields. -/
def Fields.names (fields : Fields) : List String := fields.map (·.1)

/-- The names of a record's fields and sections. -/
def Sheet.names (s : Sheet) : List String := Fields.names s.fields ++ s.sections.map (·.1)

theorem Sheet.map_members (s : Sheet) : s.members.map (·.1) = s.names := by
  simp [members, names, Fields.members, Fields.names, Function.comp_def]

/-- Names are written as they are, and no name is used twice. -/
structure Sheet.Tidy (s : Sheet) : Prop where
  bare : ∀ name ∈ s.names, isBareName name = true
  distinct : s.names.Nodup
  inside : ∀ part ∈ s.sections,
    (∀ name ∈ Fields.names part.2, isBareName name = true) ∧ (Fields.names part.2).Nodup

/-- All numbers of a record fit a document. -/
def Sheet.Fits (s : Sheet) : Prop := s.scalars.all Scalar.fits = true

/-! ## Tables under construction -/

/-- Fields in a table under construction. -/
def Fields.nodes (fields : Fields) : Members := fields.map fun (name, v) => (name, .value v.value)

/-- Sections in a document under construction. -/
def sectionNodes (sections : List (String × Fields)) : Members :=
  sections.map fun (name, fields) => (name, .table .opened (Fields.nodes fields))

theorem finishMembers_eq (members : Members) :
    finishMembers members = members.map fun (name, node) => (name, node.finish) := by
  induction members with
  | nil => rfl
  | cons entry rest ih =>
    obtain ⟨name, node⟩ := entry
    simp [finishMembers, ih]

theorem finishMembers_nodes (s : Sheet) :
    finishMembers (Fields.nodes s.fields ++ sectionNodes s.sections) = s.members := by
  simp [finishMembers_eq, Fields.nodes, sectionNodes, Sheet.members, Fields.members,
    Function.comp_def, Node.finish]

variable {members sub : Members} {name : String} {v : Value} {place : List String}

theorem lookup_eq_none_of_notMem {α : Type} {entries : List (String × α)}
    (new : name ∉ entries.map (·.1)) : entries.lookup name = none := by
  rw [List.lookup_eq_none_iff]
  intro entry mem
  simp only [bne_iff_ne, ne_eq]
  rintro rfl
  exact new (List.mem_map_of_mem mem)

theorem add?_eq_some (new : name ∉ members.map (·.1)) (node : Node) :
    Members.add? members name node = some (members ++ [(name, node)]) := by
  simp [Members.add?, lookup_eq_none_of_notMem new]

/-- A field outside of all sections. -/
theorem add?_pair (new : name ∉ members.map (·.1)) :
    Draft.add? ⟨members, []⟩ (.pair [name] v) = some ⟨members ++ [(name, .value v)], []⟩ := by
  simp [Draft.add?, Members.addAt?, Members.change?, Members.addKey?, Members.split?,
    add?_eq_some new]

/-- The header of a section. -/
theorem add?_table (new : name ∉ members.map (·.1)) :
    Draft.add? ⟨members, place⟩ (.table [name]) =
      some ⟨members ++ [(name, .table .opened [])], [name]⟩ := by
  simp [Draft.add?, Members.openTable?, Members.change?, Members.split?,
    lookup_eq_none_of_notMem new, add?_eq_some new]

theorem replace_append_last (new : name ∉ members.map (·.1)) (old node : Node) :
    Members.replace (members ++ [(name, old)]) name node = members ++ [(name, node)] := by
  have same : members.map (fun entry => if entry.1 = name then (name, node) else entry) = members := by
    conv_rhs => rw [← List.map_id members]
    refine List.map_congr_left fun entry mem => if_neg ?_
    rintro rfl
    exact new (List.mem_map_of_mem mem)
  simp [Members.replace, same]

/-- A field of the section that was opened last. -/
theorem add?_inside {part : String} (last : part ∉ members.map (·.1))
    (new : name ∉ sub.map (·.1)) :
    Draft.add? ⟨members ++ [(part, .table .opened sub)], [part]⟩ (.pair [name] v) =
      some ⟨members ++ [(part, .table .opened (sub ++ [(name, .value v)]))], [part]⟩ := by
  have found : (members ++ [(part, Node.table .opened sub)]).lookup part =
      some (.table .opened sub) := by
    simp [List.lookup_append, lookup_eq_none_of_notMem last]
  simp [Draft.add?, Members.addAt?, Members.change?, found, Members.addKey?, Members.split?,
    add?_eq_some new, replace_append_last last]

/-- The entries of lines, added one after the other. -/
def addLines? (d : Draft) (lines : List Line) : Option Draft :=
  (lines.map Line.entry).foldlM (fun d e => Draft.add? d e) d

theorem addLines?_cons (d : Draft) (l : Line) (lines : List Line) :
    addLines? d (l :: lines) = (Draft.add? d l.entry).bind (addLines? · lines) := by
  simp [addLines?]

theorem addLines?_append (d : Draft) (lines more : List Line) :
    addLines? d (lines ++ more) = (addLines? d lines).bind (addLines? · more) := by
  simp [addLines?]

/-- Fields outside of all sections. -/
theorem addLines?_fields {fields : Fields} :
    ∀ members : Members, (members.map (·.1) ++ Fields.names fields).Nodup →
      addLines? ⟨members, []⟩ (Fields.lines fields) = some ⟨members ++ Fields.nodes fields, []⟩ := by
  induction fields with
  | nil => intro members _; simp [Fields.lines, Fields.nodes, addLines?]
  | cons field fields ih =>
    intro members distinct
    obtain ⟨name, v⟩ := field
    have new : name ∉ members.map (·.1) := by
      intro old
      exact (List.nodup_append.mp distinct).2.2 name old name (by simp [Fields.names]) rfl
    have next := ih (members ++ [(name, .value v.value)])
      (by simpa [Fields.names] using distinct)
    rw [Fields.lines, List.map_cons, addLines?_cons, Line.entry, add?_pair new]
    simpa [Fields.lines, Fields.nodes] using next

/-- The fields of a section. -/
theorem addLines?_inside {part : String} {members : Members} (last : part ∉ members.map (·.1))
    {fields : Fields} :
    ∀ sub : Members, (sub.map (·.1) ++ Fields.names fields).Nodup →
      addLines? ⟨members ++ [(part, .table .opened sub)], [part]⟩ (Fields.lines fields) =
        some ⟨members ++ [(part, .table .opened (sub ++ Fields.nodes fields))], [part]⟩ := by
  induction fields with
  | nil => intro sub _; simp [Fields.lines, Fields.nodes, addLines?]
  | cons field fields ih =>
    intro sub distinct
    obtain ⟨name, v⟩ := field
    have new : name ∉ sub.map (·.1) := by
      intro old
      exact (List.nodup_append.mp distinct).2.2 name old name (by simp [Fields.names]) rfl
    have next := ih (sub ++ [(name, .value v.value)])
      (by simpa [Fields.names] using distinct)
    rw [Fields.lines, List.map_cons, addLines?_cons, Line.entry, add?_inside last new]
    simpa [Fields.lines, Fields.nodes] using next

/-- The sections. -/
theorem addLines?_sections {sections : List (String × Fields)}
    (inside : ∀ part ∈ sections, (Fields.names part.2).Nodup) :
    ∀ (members : Members) (place : List String),
      (members.map (·.1) ++ sections.map (·.1)).Nodup →
      ∃ place', addLines? ⟨members, place⟩ (sectionLines sections) =
        some ⟨members ++ sectionNodes sections, place'⟩ := by
  induction sections with
  | nil => intro members place _; exact ⟨place, by simp [sectionNodes, sectionLines, addLines?]⟩
  | cons part sections ih =>
    intro members place distinct
    obtain ⟨name, fields⟩ := part
    obtain ⟨here, later⟩ := List.forall_mem_cons.mp inside
    have new : name ∉ members.map (·.1) := by
      intro old
      exact (List.nodup_append.mp distinct).2.2 name old name (by simp) rfl
    obtain ⟨place', next⟩ := ih later
      (members ++ [(name, .table .opened (Fields.nodes fields))]) [name]
      (by simpa using distinct)
    refine ⟨place', ?_⟩
    rw [sectionLines, List.flatMap_cons, List.cons_append, addLines?_cons, Line.entry,
      add?_table new, Option.bind_some, addLines?_append,
      addLines?_inside new [] (by simpa using here), Option.bind_some, List.nil_append,
      ← sectionLines, next]
    simp [sectionNodes]

/-- The lines of a record fill the tables that it says. -/
theorem addLines?_lines {s : Sheet} (tidy : s.Tidy) :
    ∃ place, addLines? ⟨[], []⟩ s.lines =
      some ⟨Fields.nodes s.fields ++ sectionNodes s.sections, place⟩ := by
  have names : (Fields.nodes s.fields).map (·.1) = Fields.names s.fields := by
    simp [Fields.nodes, Fields.names, Function.comp_def]
  have fields := addLines?_fields [] (by simpa using (List.nodup_append.mp tidy.distinct).1)
  obtain ⟨place, sections⟩ := addLines?_sections (fun part mem => (tidy.inside part mem).2)
    (Fields.nodes s.fields) [] (by rw [names]; exact tidy.distinct)
  refine ⟨place, ?_⟩
  rw [Sheet.lines, addLines?_append, fields]
  exact sections

/-! ## Whole documents -/

theorem Fields.good {fields : Fields} (bare : ∀ name ∈ Fields.names fields, isBareName name = true)
    (fits : ∀ field ∈ fields, field.2.fits = true) : ∀ l ∈ Fields.lines fields, l.Good := by
  intro l mem
  obtain ⟨field, there, rfl⟩ := List.mem_map.mp mem
  exact ⟨bare field.1 (List.mem_map_of_mem there), fits field there⟩

/-- The lines of a tidy record can be written, if its numbers fit. -/
theorem Sheet.Tidy.good {s : Sheet} (tidy : s.Tidy) (fits : s.Fits) : ∀ l ∈ s.lines, l.Good := by
  have all : ∀ v ∈ s.scalars, v.fits = true := List.all_eq_true.mp fits
  intro l mem
  rcases List.mem_append.mp mem with mem | mem
  · refine Fields.good (fun name there => tidy.bare name (List.mem_append_left _ there)) ?_ l mem
    exact fun field there => all field.2 (List.mem_append_left _ (List.mem_map_of_mem there))
  · obtain ⟨part, there, mem⟩ := List.mem_flatMap.mp mem
    rcases List.mem_cons.mp mem with rfl | mem
    · exact tidy.bare part.1 (List.mem_append_right _ (List.mem_map_of_mem there))
    · refine Fields.good (tidy.inside part there).1 (fun field inner => all field.2 ?_) l mem
      exact List.mem_append_right _ (List.mem_flatMap.mpr ⟨part, there, List.mem_map_of_mem inner⟩)

/-- Lines that are put together. -/
theorem parse?_of_lines {s : Sheet} (tidy : s.Tidy) {text : List Char}
    (read : readEntries? text = some (s.lines.map Line.entry))
    (unmarked : skipMark text = text) : parse? (String.ofList text) = some s.value := by
  obtain ⟨place, filled⟩ := addLines?_lines tidy
  rw [addLines?] at filled
  simp [parse?, unmarked, read, filled, finishMembers_nodes, Sheet.value]

/-- The text of a record is read as what it says. -/
theorem parse?_write {s : Sheet} (tidy : s.Tidy) (fits : s.Fits) :
    parse? (String.ofList s.write) = some s.value := by
  have good := tidy.good fits
  rw [Sheet.write_eq_lines]
  exact parse?_of_lines tidy (readEntries?_write good)
    (skipMark_cut good (List.append_nil _).symm)

/-- The last section of a record is found by its name. -/
theorem Sheet.Tidy.lookup_last {s : Sheet} (tidy : s.Tidy) {earlier : List (String × Fields)}
    {name : String} {fields : Fields} (last : s.sections = earlier ++ [(name, fields)]) :
    s.members.lookup name = some (.table (Fields.members fields)) := by
  obtain ⟨before, split⟩ : ∃ before,
      s.members = before ++ [(name, .table (Fields.members fields))] :=
    ⟨Fields.members s.fields ++ earlier.map fun (name, fields) =>
      (name, .table (Fields.members fields)), by simp [Sheet.members, last]⟩
  have distinct := tidy.distinct
  rw [← Sheet.map_members, split, List.map_append] at distinct
  have new : name ∉ before.map (·.1) := fun old =>
    (List.nodup_append.mp distinct).2.2 name old name (by simp) rfl
  simp [split, List.lookup_append, lookup_eq_none_of_notMem new]

/-! ## Documents that are cut short -/

namespace Cuts

variable {α β : Type} {part : α → α → Prop} {xs xs' : List α}

/-- Two lists, one after the other, are cut in the first or in the second. -/
theorem of_append {ys : List α} (cuts : Cuts part (xs ++ ys) xs') :
    Cuts part xs xs' ∨ ∃ ys', Cuts part ys ys' ∧ xs' = xs ++ ys' := by
  induction xs generalizing xs' with
  | nil => exact .inr ⟨xs', cuts, rfl⟩
  | cons x xs ih =>
    cases cuts with
    | nil => exact .inl .nil
    | last cut => exact .inl (.last cut)
    | cons rest =>
      rcases ih rest with cuts | ⟨ys', cuts, rfl⟩
      · exact .inl (.cons cuts)
      · exact .inr ⟨ys', cuts, rfl⟩

/-- If every part of an entry is the whole of it, a beginning is left. -/
theorem beginning (whole : ∀ x ∈ xs, ∀ x', part x x' → x' = x) (cuts : Cuts part xs xs') :
    xs' <+: xs := by
  induction cuts with
  | nil => exact List.nil_prefix
  | last cut => simp [whole _ List.mem_cons_self _ cut]
  | cons _ ih =>
    rw [List.prefix_cons_inj]
    exact ih fun x mem => whole x (List.mem_cons_of_mem _ mem)

/-- What the parts of an entry share with it stays a beginning. -/
theorem map_prefix {f : α → β} (same : ∀ {x x'}, part x x' → f x' = f x)
    (cuts : Cuts part xs xs') : xs'.map f <+: xs.map f := by
  induction cuts with
  | nil => exact List.nil_prefix
  | last cut => simp [same cut]
  | cons _ ih => simpa using ih

theorem exists_of_mem {x' : α} (cuts : Cuts part xs xs') (mem : x' ∈ xs') :
    ∃ x ∈ xs, x' = x ∨ part x x' := by
  induction cuts with
  | nil => exact absurd mem List.not_mem_nil
  | last cut =>
    rw [List.mem_singleton.mp mem]
    exact ⟨_, List.mem_cons_self, .inr cut⟩
  | cons _ ih =>
    rcases List.mem_cons.mp mem with rfl | mem
    · exact ⟨_, List.mem_cons_self, .inl rfl⟩
    · obtain ⟨x, there, same⟩ := ih mem
      exact ⟨x, List.mem_cons_of_mem _ there, same⟩

end Cuts

/-- What a field can say that is cut short. -/
def FieldCut (field field' : String × Scalar) : Prop :=
  field'.1 = field.1 ∧ field.2.Cut field'.2

/-- What a section can say that is cut short. -/
def SectionCut (part part' : String × Fields) : Prop :=
  part'.1 = part.1 ∧ Cuts FieldCut part.2 part'.2

/-- What a record can say that is cut short, in its fields or in its sections. -/
inductive Sheet.Cut : Sheet → Sheet → Prop
  | fields {fields fields' : Fields} {sections : List (String × Fields)}
    (cuts : Cuts FieldCut fields fields') : Cut ⟨fields, sections⟩ ⟨fields', []⟩
  | sections {fields : Fields} {sections sections' : List (String × Fields)}
    (cuts : Cuts SectionCut sections sections') : Cut ⟨fields, sections⟩ ⟨fields, sections'⟩

theorem names_within {fields fields' : Fields} (cuts : Cuts FieldCut fields fields') :
    Fields.names fields' <+: Fields.names fields := cuts.map_prefix And.left

/-- A record that is cut short is as tidy. -/
theorem Sheet.Cut.tidy {s s' : Sheet} (cut : s.Cut s') (tidy : s.Tidy) : s'.Tidy := by
  have names : s'.names.Sublist s.names := by
    cases cut with
    | fields cuts =>
      simpa [Sheet.names] using
        (names_within cuts).sublist.trans (List.sublist_append_left _ _)
    | sections cuts => exact (cuts.map_prefix And.left).sublist.append_left _
  refine ⟨fun name mem => tidy.bare name (names.subset mem), tidy.distinct.sublist names, ?_⟩
  cases cut with
  | fields cuts => exact nofun
  | sections cuts =>
    intro part' mem
    obtain ⟨part, there, rfl | ⟨-, inner⟩⟩ := cuts.exists_of_mem mem
    · exact tidy.inside part' there
    · obtain ⟨bare, distinct⟩ := tidy.inside part there
      have sub := (names_within inner).sublist
      exact ⟨fun name inner => bare name (sub.subset inner), distinct.sublist sub⟩

theorem Line.cuts_fields {fields : Fields} {lines : List Line}
    (cuts : Cuts Line.Cut (Fields.lines fields) lines) :
    ∃ fields', Cuts FieldCut fields fields' ∧ lines = Fields.lines fields' := by
  induction fields generalizing lines with
  | nil =>
    cases cuts
    exact ⟨[], .nil, rfl⟩
  | cons field fields ih =>
    cases cuts with
    | nil => exact ⟨[], .nil, rfl⟩
    | last cut =>
      cases cut with
      | @pair _ _ v' cut => exact ⟨[(field.1, v')], .last ⟨rfl, cut⟩, rfl⟩
    | cons rest =>
      obtain ⟨fields', cut, rfl⟩ := ih rest
      exact ⟨field :: fields', .cons cut, rfl⟩

theorem Line.cuts_sections {sections : List (String × Fields)} {lines : List Line}
    (cuts : Cuts Line.Cut (sectionLines sections) lines) :
    ∃ sections', Cuts SectionCut sections sections' ∧ lines = sectionLines sections' := by
  induction sections generalizing lines with
  | nil =>
    cases cuts
    exact ⟨[], .nil, rfl⟩
  | cons part sections ih =>
    have split : sectionLines (part :: sections) =
        (.header part.1 :: Fields.lines part.2) ++ sectionLines sections := rfl
    rw [split] at cuts
    rcases cuts.of_append with cuts | ⟨more, later, rfl⟩
    · cases cuts with
      | nil => exact ⟨[], .nil, rfl⟩
      | last cut =>
        cases cut
        exact ⟨[(part.1, [])], .last ⟨rfl, .nil⟩, rfl⟩
      | cons rest =>
        obtain ⟨fields, inner, rfl⟩ := cuts_fields rest
        exact ⟨[(part.1, fields)], .last ⟨rfl, inner⟩, by simp [sectionLines]⟩
    · obtain ⟨sections', inner, rfl⟩ := ih later
      exact ⟨part :: sections', .cons inner, rfl⟩

/-- The lines of a record that are cut short are those of one that is. -/
theorem Line.cuts_lines {s : Sheet} {lines : List Line} (cuts : Cuts Line.Cut s.lines lines) :
    ∃ s', s.Cut s' ∧ lines = s'.lines := by
  obtain ⟨fields, sections⟩ := s
  rcases cuts.of_append with early | ⟨more, later, rfl⟩
  · obtain ⟨fields', inner, rfl⟩ := cuts_fields early
    exact ⟨_, .fields inner, by simp [Sheet.lines, sectionLines]⟩
  · obtain ⟨sections', inner, rfl⟩ := cuts_sections later
    exact ⟨_, .sections inner, rfl⟩

/-- A beginning of the text of a record is not read, or as what the record says
when it is cut short. -/
theorem parse?_cut {s : Sheet} (tidy : s.Tidy) (fits : s.Fits) {p rest : List Char}
    (same : s.write = p ++ rest) :
    parse? (String.ofList p) = none ∨
      ∃ s', s.Cut s' ∧ parse? (String.ofList p) = some s'.value := by
  have good := tidy.good fits
  rw [Sheet.write_eq_lines] at same
  have unmarked := skipMark_cut good same
  rcases readEntries?_cut good same with read | ⟨lines, cuts, read⟩
  · exact .inl (by simp [parse?, unmarked, read])
  · obtain ⟨s', cut, rfl⟩ := Line.cuts_lines cuts
    exact .inr ⟨s', cut, parse?_of_lines (cut.tidy tidy) read unmarked⟩

/-- The text of a record is read even if its last line has no end. -/
theorem parse?_unended {s : Sheet} (tidy : s.Tidy) (fits : s.Fits) {p : List Char}
    (same : s.write = p ++ [lineFeed]) : parse? (String.ofList p) = some s.value := by
  have good := tidy.good fits
  rw [Sheet.write_eq_lines] at same
  have unmarked := skipMark_cut good same
  obtain empty | ⟨lines, l, split⟩ := List.eq_nil_or_concat s.lines
  · simp [empty] at same
  · rw [List.concat_eq_append] at split
    rw [split, List.flatMap_append, List.flatMap_singleton, Line.write, ← List.append_assoc] at same
    rw [← List.append_inj_left' same rfl] at unmarked ⊢
    rw [split] at good
    exact parse?_of_lines tidy (split ▸ readEntries?_unended good) unmarked

end SharedQueue.Toml
