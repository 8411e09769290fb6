import Crond.Proofs.JobTable.Reading

/-
  No command of a job table is lost, told twice or given to another job.

  A cut of lines before each header keeps the headers (`Outline.headers_eq`) and, when no body
  line stands above the first one, the body lines (`Outline.commandsOf_eq`).

  Proved: `entries_keep_commands`. The entries of a table are one for each header, in order; the
  commands of an entry are the body lines between its header and the next one; what a header
  tells is settled by its own line; and all commands together are the body lines of the table.
-/

namespace Crond.JobTable

open Text

/-! ## Cuts -/

theorem commandsOf_append (ls ls' : List (List Char)) :
    commandsOf (ls ++ ls') = commandsOf ls ++ commandsOf ls' := by
  unfold commandsOf
  rw [List.filter_append, List.map_append]

/-- A header is no command of its section. -/
theorem commandsOf_lines {s : Section} (h : IsHeader s.header) :
    commandsOf s.lines = s.commands := by
  unfold commandsOf Section.lines
  rw [List.filter_cons_of_neg (by simpa using h.2)]
  rfl

theorem filter_header_lines {s : Section} (h : IsHeader s.header)
    (hbody : ∀ l ∈ s.body, ¬ IsHeader l) :
    s.lines.filter (fun l => IsHeader l) = [s.header] := by
  have hnone : s.body.filter (fun l => IsHeader l) = [] :=
    List.filter_eq_nil_iff.mpr fun l hl => by simpa using hbody l hl
  unfold Section.lines
  rw [List.filter_cons_of_pos (by simpa using h), hnone]

namespace Outline

variable {ls above : List (List Char)} {sections : List Section}

theorem headers_eq (h : Outline ls above sections) :
    ls.filter (fun l => IsHeader l) = sections.map Section.header := by
  obtain ⟨rfl, habove, hheader, hbody⟩ := h
  have hnone : above.filter (fun l => IsHeader l) = [] :=
    List.filter_eq_nil_iff.mpr fun l hl => by simpa using habove l hl
  rw [List.filter_append, hnone, List.nil_append]
  induction sections with
  | nil => rfl
  | cons s sections ih =>
    rw [List.forall_mem_cons] at hheader hbody
    rw [List.flatMap_cons, List.filter_append, filter_header_lines hheader.1 hbody.1,
      ih hheader.2 hbody.2]
    rfl

theorem commandsOf_eq (h : Outline ls above sections) (hstray : ∀ l ∈ above, ¬ IsBody l) :
    commandsOf ls = sections.flatMap Section.commands := by
  obtain ⟨rfl, -, hheader, -⟩ := h
  rw [commandsOf_append, commandsOf_eq_nil_iff.mpr hstray, List.nil_append]
  induction sections with
  | nil => rfl
  | cons s sections ih =>
    rw [List.forall_mem_cons] at hheader
    rw [List.flatMap_cons, commandsOf_append, commandsOf_lines hheader.1, ih hheader.2]
    rfl

/-- No line of a cut holds a line feed if none of the lines does. -/
theorem newline_not_mem (h : Outline ls above sections) (hls : ∀ l ∈ ls, '\n' ∉ l) :
    ∀ s ∈ sections, ∀ l ∈ s.lines, '\n' ∉ l := by
  intro s hs l hl
  refine hls l ?_
  rw [h.lines_eq]
  exact List.mem_append_right _ (List.mem_flatMap.mpr ⟨s, hs, hl⟩)

end Outline

/-! ## Entries -/

/-- A line tells one heading at most. -/
theorem HeaderTells.unique {l : List Char} {h h' : Header} (ht : HeaderTells l h)
    (ht' : HeaderTells l h') : h = h' := by
  have hread : Header.read 0 l = .ok h := Header.read_eq_ok_iff.mpr ht
  rw [Header.read_eq_ok_iff.mpr ht'] at hread
  exact (Except.ok.inj hread).symm

theorem HeaderText.mem {l label expression : List Char} {startup : Bool}
    (h : HeaderText l label expression startup) {c : Char} (hc : c ∈ label) : c ∈ l := by
  cases h with
  | plain hcolon htag => exact List.mem_append_left _ (mem_of_mem_trim hc)
  | tagged hcolon htag => exact List.mem_append_left _ (mem_of_mem_trim hc)

namespace Section.Tells

variable {s : Section} {e : Entry}

theorem commands_ne_nil (h : s.Tells e) : e.commands ≠ [] := by
  rw [h.commands, ne_eq, List.map_eq_nil_iff]
  exact h.nonempty

theorem newline_not_mem (h : s.Tells e) (hs : ∀ l ∈ s.lines, '\n' ∉ l) :
    '\n' ∉ e.label.toList ∧ ∀ c ∈ e.commands, '\n' ∉ c.toList := by
  constructor
  · obtain ⟨label, expression, htext, _, hlabel, _⟩ := h.header
    change '\n' ∉ e.heading.label.toList
    rw [hlabel, String.toList_ofList]
    exact fun hn => hs s.header List.mem_cons_self (htext.mem hn)
  · intro c hc hn
    rw [h.commands] at hc
    obtain ⟨command, hcommand, rfl⟩ := List.mem_map.mp hc
    obtain ⟨l, hl, rfl⟩ := List.mem_map.mp hcommand
    rw [String.toList_ofList] at hn
    exact hs l (List.mem_cons_of_mem _ (List.mem_filter.mp hl).1) (mem_of_mem_trim hn)

end Section.Tells

/-- All commands of entries together are those of their sections. -/
theorem flatMap_commands {sections : List Section} {es : List Entry}
    (h : List.Forall₂ Section.Tells sections es) :
    es.flatMap Entry.commands = (sections.flatMap Section.commands).map String.ofList := by
  induction h with
  | nil => rfl
  | cons hs _ ih =>
    rw [List.flatMap_cons, List.flatMap_cons, List.map_append, ih, hs.commands]

/-- The entries of a table that is read. They follow its headers one by one: each section tells
    its entry, only noise stands above the first header, and a header line by itself tells the
    label, the schedule and the startup flag. All commands together are the body lines, so that
    none is lost or told twice. Each entry has a command, and no line feed is in any text. -/
theorem entries_keep_commands (table : String) {es : List Entry} (h : parse table = .ok es) :
    (∃ above sections, Outline (lines table.toList) above sections ∧
      (∀ l ∈ above, IsNoise l) ∧ List.Forall₂ Section.Tells sections es) ∧
    List.Forall₂ (fun l e => ∀ heading, HeaderTells l heading ↔ heading = e.heading)
      ((lines table.toList).filter fun l => IsHeader l) es ∧
    es.flatMap Entry.commands =
      ((lines table.toList).filter fun l => IsBody l).map (fun l => String.ofList (trim l)) ∧
    ∀ e ∈ es, e.commands ≠ [] ∧ '\n' ∉ e.label.toList ∧ ∀ c ∈ e.commands, '\n' ∉ c.toList := by
  obtain ⟨above, sections, houtline⟩ := exists_outline (lines table.toList)
  obtain ⟨hstray, htells⟩ := (read_eq_ok_iff_outline houtline).mp h
  refine ⟨⟨above, sections, houtline, fun l hl => ?_, htells⟩, ?_, ?_, fun e he => ?_⟩
  · by_contra hnoise
    exact houtline.above l hl ⟨hnoise, hstray l hl⟩
  · rw [houtline.headers_eq, List.forall₂_map_left_iff]
    refine htells.imp fun s e ht heading => ⟨fun hh => hh.unique ht.header, ?_⟩
    rintro rfl
    exact ht.header
  · rw [flatMap_commands htells, ← houtline.commandsOf_eq hstray]
    unfold commandsOf
    rw [List.map_map]
    rfl
  · obtain ⟨s, hs, ht⟩ := exists_of_mem_right htells he
    have hlines := houtline.newline_not_mem fun l hl => newline_not_mem_of_mem_lines hl
    exact ⟨ht.commands_ne_nil, ht.newline_not_mem (hlines s hs)⟩

/-- Noise above the first header and inside of a body, an indented comment sign, and a line that
    ends with a carriage return. -/
theorem entries_keep_commands_noise :
    let table := "# top\n \na: * * * * * *\n\t# x\n\n#c\n  y \nb : 0 0 0 1 1 * @startup\r\n\t\tz"
    let any : Schedule := ⟨.any, .any, .any, .any, .any, .any⟩
    let yearly : Schedule := ⟨.value 0, .value 0, .value 0, .value 1, .value 1, .any⟩
    let es : List Entry := [⟨"a", any, false, ["# x", "y"]⟩, ⟨"b", yearly, true, ["z"]⟩]
    parse table = .ok es ∧
      ((lines table.toList).filter fun l => IsBody l).map (fun l => String.ofList (trim l)) =
        ["# x", "y", "z"] := by
  intro table any yearly es
  have h : parse table = .ok es := by decide +kernel
  exact ⟨h, (entries_keep_commands table h).2.2.1.symm⟩

end Crond.JobTable
