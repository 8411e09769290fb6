import Crond.JobTable.Printer
import Crond.Proofs.JobTable.Reading
import Crond.Proofs.Schedule.Reading

/-
  Job tables written and read back.

  A draft is sound if its label stands apart from the expression, the expression is one and does
  not end with the startup tag, and each command fills a line (`Draft.IsSound`). The lines of a
  written table are a header for each draft and its commands below it (`lines_render`), so that
  its outline is known without reading it (`outline_render`).

  Proved: `parse_render_drafts`. The entries that are read from sound drafts are what the drafts
  tell, and their scripts are the commands line by line.
-/

namespace Crond.JobTable

open Text

/-- One character tells a header: it is not blank and no comment sign. -/
theorem isHeader_cons {c : Char} (hblank : isBlank c = false) (hsign : c ≠ '#') (l : List Char) :
    IsHeader (c :: l) := by
  constructor
  · rintro (h | ⟨rest, h⟩)
    · have hc := h c List.mem_cons_self
      rw [hblank] at hc
      exact absurd hc (by decide)
    · exact hsign (List.cons.inj h).1.symm
  · rintro ⟨_, ⟨rest, h⟩ | ⟨rest, h⟩⟩
    · rw [← (List.cons.inj h).1] at hblank
      exact absurd hblank (by decide)
    · rw [← (List.cons.inj h).1] at hblank
      exact absurd hblank (by decide)

theorem Indent.isBlank_of_mem (i : Indent) : ∀ c ∈ i.text, isBlank c = true := by
  cases i with
  | tab => exact List.forall_mem_singleton.mpr (by decide)
  | spaces => exact List.forall_mem_cons.mpr ⟨by decide, List.forall_mem_singleton.mpr (by decide)⟩

/-- An indented text that is not blank is a body line. -/
theorem isBody_indented (i : Indent) {c : Char} (h : isBlank c = false) (l : List Char) :
    IsBody (i.text ++ c :: l) := by
  constructor
  · rintro (hall | ⟨rest, hsign⟩)
    · have hc := hall c (List.mem_append_right _ List.mem_cons_self)
      rw [h] at hc
      exact absurd hc (by decide)
    · cases i <;> exact absurd (List.cons.inj hsign).1 (by decide)
  · cases i with
    | tab => exact Or.inl ⟨c :: l, rfl⟩
    | spaces => exact Or.inr ⟨c :: l, rfl⟩

namespace Draft

/-! ## Drafts -/

/-- What a draft has to be, so that it can be read back. -/
structure IsSound (d : Draft) : Prop where
  label_ne_nil : d.label ≠ []
  label_trimmed : IsTrimmed d.label
  label_colon : ':' ∉ d.label
  label_newline : '\n' ∉ d.label
  label_sign : ¬ ['#'] <+: d.label
  expression_read : ∃ s, Schedule.read d.expression = .ok s
  expression_newline : '\n' ∉ d.expression
  expression_tag : ¬ startupTag <:+ trim d.expression
  commands_ne_nil : d.commands ≠ []
  commands : ∀ c ∈ d.commands, c.2 ≠ [] ∧ IsTrimmed c.2 ∧ '\n' ∉ c.2

/-- What a draft tells of an entry. -/
structure Tells (d : Draft) (e : Entry) : Prop where
  label : e.label = String.ofList d.label
  schedule : Schedule.read d.expression = .ok e.schedule
  startup : e.startup = d.startup
  commands : e.commands = d.commands.map fun c => String.ofList c.2
  script : e.script.toList.splitOn '\n' = d.commands.map (·.2)

/-- What stands behind the colon of the header. -/
def behindColon (d : Draft) : List Char :=
  ' ' :: d.expression ++ if d.startup then ' ' :: startupTag else []

def bodyTexts (d : Draft) : List (List Char) := d.commands.map fun c => c.1.text ++ c.2

/-- The texts of the lines of a draft. -/
def texts (d : Draft) : List (List Char) := (d.label ++ ':' :: d.behindColon) :: d.bodyTexts

theorem render_eq (d : Draft) : d.render = d.texts.flatMap (· ++ ['\n']) := by
  unfold render headerLine texts bodyTexts behindColon commandLine
  rw [List.flatMap_cons, List.flatMap_map]
  simp only [List.append_assoc, List.cons_append]

/-- The section that a draft becomes. -/
def toSection (d : Draft) : Section :=
  ⟨d.label ++ ':' :: withoutReturn d.behindColon, d.bodyTexts⟩

variable {d : Draft}

theorem IsSound.newline_not_mem (h : d.IsSound) : ∀ l ∈ d.texts, '\n' ∉ l := by
  refine List.forall_mem_cons.mpr ⟨?_, fun l hl => ?_⟩
  · have htag : '\n' ∉ (if d.startup then ' ' :: startupTag else [] : List Char) := by
      split <;> decide
    rw [behindColon, List.mem_append, List.mem_cons, List.mem_append, List.mem_cons]
    simp [h.label_newline, h.expression_newline, htag]
  · obtain ⟨c, hc, rfl⟩ := List.mem_map.mp hl
    rw [List.mem_append, not_or]
    refine ⟨fun hn => ?_, (h.commands c hc).2.2⟩
    cases hi : c.1 with
    | tab => rw [hi] at hn; exact absurd hn (by decide)
    | spaces => rw [hi] at hn; exact absurd hn (by decide)

/-- The command at the end of a line keeps it as it is. -/
theorem withoutReturn_indented (i : Indent) {c : List Char} (hne : c ≠ []) (h : IsTrimmed c) :
    withoutReturn (i.text ++ c) = i.text ++ c := by
  refine withoutReturn_of_ne fun hlast => ?_
  rw [List.getLast?_append_of_ne_nil _ hne] at hlast
  exact absurd (h.last _ hlast) (by decide)

theorem IsSound.map_withoutReturn (h : d.IsSound) :
    d.texts.map withoutReturn = d.toSection.lines := by
  have hbody : d.bodyTexts.map withoutReturn = d.bodyTexts := by
    unfold bodyTexts
    rw [List.map_map]
    refine List.map_congr_left fun c hc => ?_
    obtain ⟨hne, htrimmed, _⟩ := h.commands c hc
    exact withoutReturn_indented c.1 hne htrimmed
  unfold texts toSection Section.lines
  rw [List.map_cons, hbody, withoutReturn_append _ (List.cons_ne_nil _ _)]
  congr 2
  exact withoutReturn_append [':'] (List.cons_ne_nil _ _)

theorem IsSound.isHeader (h : d.IsSound) : IsHeader d.toSection.header := by
  obtain ⟨c, l, hlabel⟩ := List.exists_cons_of_ne_nil h.label_ne_nil
  have hsign : c ≠ '#' := by
    rintro rfl
    exact h.label_sign ⟨l, by rw [hlabel]; rfl⟩
  unfold toSection
  dsimp only
  rw [hlabel]
  exact isHeader_cons (h.label_trimmed.head c (by rw [hlabel]; rfl)) hsign _

theorem IsSound.isBody (h : d.IsSound) : ∀ l ∈ d.toSection.body, IsBody l := by
  intro l hl
  obtain ⟨c, hc, rfl⟩ := List.mem_map.mp hl
  obtain ⟨hne, htrimmed, _⟩ := h.commands c hc
  obtain ⟨first, rest, hcommand⟩ := List.exists_cons_of_ne_nil hne
  rw [hcommand]
  exact isBody_indented c.1 (htrimmed.head first (by rw [hcommand]; rfl)) rest

theorem IsSound.commands_toSection (h : d.IsSound) :
    d.toSection.commands = d.commands.map (·.2) := by
  have hall : d.toSection.body.filter (fun l => IsBody l) = d.bodyTexts :=
    List.filter_eq_self.mpr fun l hl => by simpa using h.isBody l hl
  unfold Section.commands commandsOf
  rw [hall]
  unfold bodyTexts
  rw [List.map_map]
  refine List.map_congr_left fun c hc => ?_
  exact (trim_blanks_append c.1.isBlank_of_mem c.2).trans (h.commands c hc).2.1.trim_eq

/-! ## Headers -/

/-- The tag behind an expression ends the text behind the colon, with blanks between them. -/
theorem exists_trim_behindColon (d : Draft) (hstartup : d.startup = true)
    (hne : trim d.expression ≠ []) :
    ∃ front, trim d.behindColon = front ++ startupTag ∧ trim front = trim d.expression := by
  obtain ⟨before, after, hbefore, hafter, hexpression⟩ := exists_padding d.expression
  have htag : IsTrimmed startupTag := by decide
  have hblanks : ∀ c ∈ after ++ [' '], isBlank c = true := by
    intro c hc
    rcases List.mem_append.mp hc with hc | hc
    · exact hafter c hc
    · rw [List.mem_singleton.mp hc]
      decide
  have hspace : ∀ c ∈ ' ' :: before, isBlank c = true :=
    List.forall_mem_cons.mpr ⟨by decide, hbefore⟩
  have hbehind : d.behindColon =
      (' ' :: before) ++ (trim d.expression ++ (after ++ [' ']) ++ startupTag) := by
    unfold behindColon
    rw [if_pos hstartup]
    conv_lhs => rw [hexpression]
    simp only [List.append_assoc, List.cons_append, List.nil_append]
  refine ⟨trim d.expression ++ (after ++ [' ']), ?_, ?_⟩
  · rw [hbehind, trim_blanks_append hspace]
    exact ((isTrimmed_trim d.expression).append hne htag (by decide) _).trim_eq
  · rw [trim_append_blanks hblanks, trim_trim]

/-- The header is cut where it was put together, some white space around the expression aside. -/
theorem IsSound.exists_headerText (h : d.IsSound) (hne : trim d.expression ≠ []) :
    ∃ expression, HeaderText d.toSection.header (trim d.label) expression d.startup ∧
      trim expression = trim d.expression := by
  have hbehind : trim (withoutReturn d.behindColon) = trim d.behindColon := trim_withoutReturn _
  cases hstartup : d.startup with
  | false =>
    have hspace : ∀ c ∈ [' '], isBlank c = true := List.forall_mem_singleton.mpr (by decide)
    have htrim : trim (withoutReturn d.behindColon) = trim d.expression := by
      rw [hbehind]
      unfold behindColon
      rw [hstartup, if_neg (by decide), List.append_nil]
      exact trim_blanks_append hspace d.expression
    refine ⟨_, .plain h.label_colon ?_, ?_⟩
    · rw [htrim]
      exact h.expression_tag
    · rw [htrim, trim_trim]
  | true =>
    obtain ⟨front, hfront, htrim⟩ := exists_trim_behindColon d hstartup hne
    exact ⟨trimEnd front, .tagged h.label_colon (hbehind.trans hfront),
      (trim_trimEnd front).trans htrim⟩

theorem IsSound.headerTells (h : d.IsSound) {s : Schedule}
    (hs : Schedule.read d.expression = .ok s) :
    HeaderTells d.toSection.header ⟨String.ofList d.label, s, d.startup⟩ := by
  obtain ⟨expression, htext, htrim⟩ := h.exists_headerText (Schedule.trim_ne_nil_of_read hs)
  rw [h.label_trimmed.trim_eq] at htext
  have hread : Schedule.read expression = .ok s := (Schedule.read_eq_of_trim_eq htrim).trans hs
  exact ⟨d.label, expression, htext, h.label_ne_nil, rfl, hread⟩

/-! ## Entries -/

/-- Commands without line feeds are the lines of their script. -/
theorem splitOn_script {e : Entry} {commands : List (List Char)}
    (h : e.commands = commands.map String.ofList) (hne : commands ≠ [])
    (hnewline : ∀ c ∈ commands, '\n' ∉ c) : e.script.toList.splitOn '\n' = commands := by
  have hscript : e.script.toList = ['\n'].intercalate commands := by
    have hself : (fun c : List Char => (String.ofList c).toList) = id :=
      funext fun c => String.toList_ofList
    unfold Entry.script
    rw [String.toList_intercalate, h, List.map_map]
    change ['\n'].intercalate (commands.map fun c => (String.ofList c).toList) = _
    rw [hself, List.map_id]
  rw [hscript]
  exact List.splitOn_intercalate '\n' hnewline hne

/-- A sound draft tells one entry, and so does its section. -/
theorem IsSound.exists_entry (h : d.IsSound) : ∃ e, d.toSection.Tells e ∧ d.Tells e := by
  obtain ⟨s, hs⟩ := h.expression_read
  have hcommands := h.commands_toSection
  have hne : d.commands.map (·.2) ≠ [] := by
    rw [ne_eq, List.map_eq_nil_iff]
    exact h.commands_ne_nil
  have hnewline : ∀ c ∈ d.commands.map (·.2), '\n' ∉ c := by
    intro c hc
    obtain ⟨command, hcommand, rfl⟩ := List.mem_map.mp hc
    exact (h.commands command hcommand).2.2
  refine ⟨⟨String.ofList d.label, s, d.startup, (d.commands.map (·.2)).map String.ofList⟩, ?_, ?_⟩
  · exact ⟨h.headerTells hs, by rw [hcommands], by rw [hcommands]; exact hne⟩
  · exact ⟨rfl, hs, rfl, List.map_map, splitOn_script rfl hne hnewline⟩

end Draft

/-! ## Tables -/

section

variable {ds : List Draft}

theorem render_eq_texts (ds : List Draft) :
    render ds = (ds.flatMap Draft.texts).flatMap (· ++ ['\n']) := by
  unfold render
  rw [List.flatMap_assoc]
  exact congrArg (List.flatMap · ds) (funext Draft.render_eq)

theorem newline_not_mem_texts (h : ∀ d ∈ ds, d.IsSound) :
    ∀ l ∈ ds.flatMap Draft.texts, '\n' ∉ l := by
  intro l hl
  obtain ⟨d, hd, hl⟩ := List.mem_flatMap.mp hl
  exact (h d hd).newline_not_mem l hl

theorem map_withoutReturn_texts (h : ∀ d ∈ ds, d.IsSound) :
    (ds.flatMap Draft.texts).map withoutReturn =
      (ds.map Draft.toSection).flatMap Section.lines := by
  rw [List.map_flatMap, List.flatMap_map]
  exact List.flatMap_congr fun d hd => (h d hd).map_withoutReturn

/-- The last line of a table is a command, so that it is a line without its line feed, too. -/
theorem exists_last_text (h : ∀ d ∈ ds, d.IsSound) (hne : ds ≠ []) :
    ∃ ls l, ds.flatMap Draft.texts = ls ++ [l] ∧ l ≠ [] ∧ withoutReturn l = l := by
  obtain ⟨ds', d, rfl⟩ := List.eq_nil_or_concat ds |>.resolve_left hne
  rw [List.concat_eq_append] at h ⊢
  have hd : d.IsSound := h d (by simp)
  obtain ⟨commands, c, hcommands⟩ :=
    List.eq_nil_or_concat d.commands |>.resolve_left hd.commands_ne_nil
  rw [List.concat_eq_append] at hcommands
  obtain ⟨hc, htrimmed, _⟩ := hd.commands c (by rw [hcommands]; simp)
  refine ⟨ds'.flatMap Draft.texts ++ (d.label ++ ':' :: d.behindColon) ::
      commands.map (fun c => c.1.text ++ c.2), c.1.text ++ c.2, ?_, ?_, ?_⟩
  · rw [List.flatMap_append, List.flatMap_singleton]
    unfold Draft.texts Draft.bodyTexts
    rw [hcommands, List.map_append]
    simp only [List.append_assoc, List.cons_append, List.map_cons, List.map_nil]
  · exact fun hnil => hc (List.append_eq_nil_iff.mp hnil).2
  · exact Draft.withoutReturn_indented c.1 hc htrimmed

/-- The lines of a written table, with or without the line feed at its end. -/
theorem lines_render (h : ∀ d ∈ ds, d.IsSound) {text : List Char}
    (htext : text = render ds ∨ text ++ ['\n'] = render ds) :
    lines text = (ds.map Draft.toSection).flatMap Section.lines := by
  have hnewline := newline_not_mem_texts h
  rw [← map_withoutReturn_texts h]
  rw [render_eq_texts] at htext
  rcases htext with rfl | htext
  · have hlines := lines_flatMap hnewline []
    rw [List.append_nil] at hlines
    rw [hlines]
    exact List.append_nil _
  · have hne : ds ≠ [] := by
      rintro rfl
      exact absurd htext (by simp)
    obtain ⟨ls, l, htexts, hl, hreturn⟩ := exists_last_text h hne
    rw [htexts] at htext hnewline ⊢
    have hcut : text = ls.flatMap (· ++ ['\n']) ++ l := by
      rw [List.flatMap_append, List.flatMap_singleton, ← List.append_assoc] at htext
      exact List.append_cancel_right htext
    rw [hcut, lines_flatMap_last (fun l hl => hnewline l (List.mem_append_left _ hl))
        (hnewline l (by simp)) hl, List.map_append, List.map_singleton, hreturn]

theorem outline_render (h : ∀ d ∈ ds, d.IsSound) {text : List Char}
    (htext : text = render ds ∨ text ++ ['\n'] = render ds) :
    Outline (lines text) [] (ds.map Draft.toSection) where
  lines_eq := lines_render h htext
  above := fun _ hl => absurd hl List.not_mem_nil
  header := by
    intro s hs
    obtain ⟨d, hd, rfl⟩ := List.mem_map.mp hs
    exact (h d hd).isHeader
  body := by
    intro s hs l hl hheader
    obtain ⟨d, hd, rfl⟩ := List.mem_map.mp hs
    exact hheader.2 ((h d hd).isBody l hl)

/-- Sound drafts are read back: the table is accepted, with or without the line feed at its end,
    and its entries are those that the drafts tell, in order. -/
theorem parse_render_drafts (ds : List Draft) (h : ∀ d ∈ ds, d.IsSound) (text : List Char)
    (htext : text = render ds ∨ text ++ ['\n'] = render ds) :
    ∃ es, parse (String.ofList text) = .ok es ∧ List.Forall₂ Draft.Tells ds es := by
  obtain ⟨es, hes⟩ := exists_forall₂ fun d hd => (h d hd).exists_entry
  refine ⟨es, ?_, hes.imp fun _ _ he => he.2⟩
  unfold parse
  rw [String.toList_ofList, read_eq_ok_iff_outline (outline_render h htext),
    List.forall₂_map_left_iff]
  exact ⟨fun _ hl => absurd hl List.not_mem_nil, hes.imp fun _ _ he => he.1⟩

end

/-- A label of other signs, an expression with white space around it, a carriage return included,
    and commands that look like a comment, like a header and like a tag. -/
theorem parse_render_drafts_lookalikes :
    let ds : List Draft :=
      [⟨"b@ck-up #1".toList, "\t0 0 3 * * *\r".toList, false,
          [(.tab, "# note".toList), (.spaces, "a: * * * * * * @startup".toList)]⟩,
        ⟨['x'], "* * * * * MON-FRI ".toList, true, [(.spaces, "@startup".toList)]⟩]
    (∀ d ∈ ds, d.IsSound) ∧
      render ds = ("b@ck-up #1: \t0 0 3 * * *\r\n\t# note\n  a: * * * * * * @startup\n" ++
        "x: * * * * * MON-FRI  @startup\n  @startup\n").toList ∧
      ∃ es, parse (String.ofList (render ds)) = .ok es ∧ List.Forall₂ Draft.Tells ds es := by
  intro ds
  have hsound : ∀ d ∈ ds, d.IsSound := by
    intro d hd
    rcases List.mem_pair.mp hd with rfl | rfl
    · exact ⟨by decide, by decide, by decide, by decide, by decide,
        ⟨⟨.value 0, .value 0, .value 3, .any, .any, .any⟩, by decide⟩, by decide, by decide,
        by decide, List.forall_mem_cons.mpr ⟨by decide, List.forall_mem_singleton.mpr (by decide)⟩⟩
    · exact ⟨by decide, by decide, by decide, by decide, by decide,
        ⟨⟨.any, .any, .any, .any, .any, .span 1 5⟩, by decide⟩, by decide, by decide,
        by decide, List.forall_mem_singleton.mpr (by decide)⟩
  exact ⟨hsound, by decide, parse_render_drafts ds hsound _ (Or.inl rfl)⟩

end Crond.JobTable
