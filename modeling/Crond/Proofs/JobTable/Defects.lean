import Crond.Proofs.JobTable.Reading

/-
  The defects of a job table, and which of them is reported.

  A defect stands at a line and depends on the lines above and below it: a body line with no
  header above it, a header whose text is at fault, or a header with no body line before the next
  one (`LineDefect`). Gathering the lines keeps all of them (`defectAt_iff_gathered`), and the
  numbers in what is gathered grow (`numbers_gathered`), so that reading comes to the topmost
  first.

  Proved: `parse_eq_error_iff_topmost`. A table is refused exactly when it has a defect, and the
  topmost is reported; of two at one line it is the one of the text of the header.
-/

namespace Crond.JobTable

open Text

/-! ## Headers -/

/-- The label is what stands before the first colon. -/
theorem HeaderText.exists_left {l label expression : List Char} {startup : Bool}
    (h : HeaderText l label expression startup) :
    ∃ left right, l = left ++ ':' :: right ∧ ':' ∉ left ∧ label = trim left := by
  cases h with
  | plain hcolon htag => exact ⟨_, _, rfl, hcolon, rfl⟩
  | tagged hcolon htag => exact ⟨_, _, rfl, hcolon, rfl⟩

theorem HeaderText.label_unique {l label label' expression expression' : List Char}
    {startup startup' : Bool} (h : HeaderText l label expression startup)
    (h' : HeaderText l label' expression' startup') : label = label' := by
  obtain ⟨left, right, rfl, hcolon, rfl⟩ := h.exists_left
  obtain ⟨left', right', hl, hcolon', rfl⟩ := h'.exists_left
  have hsplit := splitColon?_append hcolon right
  rw [hl, splitColon?_append hcolon' right'] at hsplit
  rw [(Prod.mk.inj (Option.some.inj hsplit)).1]

/-- What is wrong with the text of a header: it has no colon, nothing but white space before the
    first one, or behind it an expression that is refused. -/
inductive HeaderDefect (number : Nat) : List Char → Defect → Prop
  | missingColon {l : List Char} (hcolon : ':' ∉ l) : HeaderDefect number l (.missingColon number)
  | missingLabel {left right : List Char} (hcolon : ':' ∉ left) (hlabel : trim left = []) :
      HeaderDefect number (left ++ ':' :: right) (.missingLabel number)
  | badExpression {l label expression : List Char} {startup : Bool} {fault : Fault}
      (htext : HeaderText l label expression startup) (hlabel : label ≠ [])
      (hread : Schedule.read expression = .error fault) :
      HeaderDefect number l (.badExpression (String.ofList label) fault)

theorem Header.read_eq_error_iff {number : Nat} {l : List Char} {d : Defect} :
    Header.read number l = .error d ↔ HeaderDefect number l d := by
  constructor
  · intro h
    by_cases hcolon : ':' ∈ l
    · obtain ⟨label, expression, startup, htext⟩ := exists_headerText hcolon
      rw [htext.read_eq] at h
      by_cases hlabel : label = []
      · rw [if_pos hlabel] at h
        obtain ⟨left, right, rfl, hleft, rfl⟩ := htext.exists_left
        exact Except.error.inj h ▸ .missingLabel hleft hlabel
      · rw [if_neg hlabel] at h
        cases hread : Schedule.read expression with
        | error fault =>
          rw [hread] at h
          exact Except.error.inj h ▸ .badExpression htext hlabel hread
        | ok schedule =>
          rw [hread] at h
          exact absurd h (by simp)
    · rw [read_of_not_mem hcolon] at h
      exact Except.error.inj h ▸ .missingColon hcolon
  · rintro (hcolon | ⟨hcolon, hlabel⟩ | ⟨htext, hlabel, hread⟩)
    · exact read_of_not_mem hcolon number
    · rw [Header.read_append hcolon rfl, if_pos hlabel]
    · rw [htext.read_eq, if_neg hlabel, hread]

theorem HeaderDefect.ne_strayCommand {number : Nat} {l : List Char} {d : Defect}
    (h : HeaderDefect number l d) (n : Nat) : d ≠ .strayCommand n := by cases h <;> simp

/-- The kind of defect that only the lines below a header tell. -/
def Defect.IsMissingBody : Defect → Prop
  | .noCommands _ _ => True
  | .strayCommand _ | .missingColon _ | .missingLabel _ | .badExpression _ _ => False

theorem HeaderDefect.not_isMissingBody {number : Nat} {l : List Char} {d : Defect}
    (h : HeaderDefect number l d) : ¬ d.IsMissingBody := by cases h <;> exact id

/-! ## Blocks -/

/-- The defects of a block. -/
inductive Block.HasDefect (b : Block) : Defect → Prop
  | header {d : Defect} (h : HeaderDefect b.number b.header d) : b.HasDefect d
  | noCommands {label expression : List Char} {startup : Bool}
      (htext : HeaderText b.header label expression startup) (h : b.commands = []) :
      b.HasDefect (.noCommands b.number (String.ofList label))

namespace Block

variable {b : Block}

theorem HasDefect.ne_strayCommand {d : Defect} (h : b.HasDefect d) (n : Nat) :
    d ≠ .strayCommand n := by
  cases h with
  | header h => exact h.ne_strayCommand n
  | noCommands htext h => simp

theorem not_hasDefect_of_entry {e : Entry} (h : b.entry = .ok e) (d : Defect) :
    ¬ b.HasDefect d := by
  cases hread : Header.read b.number b.header with
  | error d' =>
    rw [entry_of_error hread] at h
    exact absurd h (by simp)
  | ok header =>
    rw [entry_of_ok hread] at h
    rintro (hd | ⟨htext, hcommands⟩)
    · rw [Header.read_eq_error_iff.mpr hd] at hread
      exact absurd hread (by simp)
    · rw [if_pos hcommands] at h
      exact absurd h (by simp)

/-- A block is refused with a defect of it. Only a missing body can be another one. -/
theorem hasDefect_of_entry {d : Defect} (h : b.entry = .error d) :
    b.HasDefect d ∧
      ∀ d', b.HasDefect d' → d' = d ∨ d'.IsMissingBody ∧ ¬ d.IsMissingBody := by
  cases hread : Header.read b.number b.header with
  | error d₀ =>
    rw [entry_of_error hread] at h
    obtain rfl := Except.error.inj h
    have hd := Header.read_eq_error_iff.mp hread
    refine ⟨.header hd, fun d' hd' => ?_⟩
    cases hd' with
    | header hd' =>
      rw [Header.read_eq_error_iff.mpr hd'] at hread
      exact Or.inl (Except.error.inj hread)
    | noCommands htext hcommands => exact Or.inr ⟨trivial, hd.not_isMissingBody⟩
  | ok header =>
    rw [entry_of_ok hread] at h
    by_cases hcommands : b.commands = []
    · rw [if_pos hcommands] at h
      obtain rfl := Except.error.inj h
      obtain ⟨label, expression, htext, _, hlabel, _⟩ := Header.read_eq_ok_iff.mp hread
      rw [hlabel]
      refine ⟨.noCommands htext hcommands, fun d' hd' => ?_⟩
      cases hd' with
      | header hd' =>
        rw [Header.read_eq_error_iff.mpr hd'] at hread
        exact absurd hread (by simp)
      | noCommands htext' _ => exact Or.inl (by rw [htext'.label_unique htext])
    · rw [if_neg hcommands] at h
      exact absurd h (by simp)

end Block

/-! ## Gathered lines -/

/-- A defect above which there is no other: any other stands below it, or is the missing body of a
    header the text of which is at fault. -/
def Topmost (defectAt : Nat → Defect → Prop) (n : Nat) (d : Defect) : Prop :=
  defectAt n d ∧ ∀ m d', defectAt m d' →
    n < m ∨ n = m ∧ (d' = d ∨ d'.IsMissingBody ∧ ¬ d.IsMissingBody)

theorem Topmost.unique {defectAt : Nat → Defect → Prop} {n n' : Nat} {d d' : Defect}
    (h : Topmost defectAt n d) (h' : Topmost defectAt n' d') : d = d' := by
  rcases h.2 n' d' h'.1 with hlt | ⟨heq, hd | ⟨hbody, hnot⟩⟩
  · rcases h'.2 n d h.1 with hlt' | ⟨heq, -⟩ <;> omega
  · exact hd.symm
  · rcases h'.2 n d h.1 with hlt' | ⟨-, hd | ⟨hbody', -⟩⟩
    · omega
    · exact hd
    · exact absurd hbody' hnot

namespace Blocks

/-- A defect of gathered lines, with its number. -/
def DefectAt (b : Blocks) (n : Nat) (d : Defect) : Prop :=
  (∃ c, (n, c) ∈ b.stray ∧ d = .strayCommand n) ∨ ∃ x ∈ b.blocks, x.number = n ∧ x.HasDefect d

/-- The numbers of stray commands and of blocks. -/
def numbers (b : Blocks) : List Nat := b.stray.map (·.1) ++ b.blocks.map (·.number)

variable {b : Blocks}

theorem not_defectAt_of_entries {es : List Entry} (h : b.entries = .ok es) (n : Nat)
    (d : Defect) : ¬ b.DefectAt n d := by
  obtain ⟨hstray, hblocks⟩ := entries_eq_ok_iff.mp h
  rintro (⟨c, hc, -⟩ | ⟨x, hx, -, hd⟩)
  · rw [hstray] at hc
    exact absurd hc List.not_mem_nil
  · obtain ⟨e, -, he⟩ := exists_of_mem_right hblocks.flip hx
    exact x.not_hasDefect_of_entry he d hd

/-- Where the numbers grow, the defect that is reported is the topmost. -/
theorem topmost_of_entries (hnumbers : b.numbers.Pairwise (· < ·)) {d : Defect}
    (h : b.entries = .error d) : ∃ n, Topmost b.DefectAt n d := by
  unfold numbers at hnumbers
  unfold entries at h
  unfold Topmost DefectAt
  cases hstray : b.stray with
  | cons first rest =>
    obtain ⟨n, c⟩ := first
    rw [hstray] at h hnumbers
    obtain rfl := Except.error.inj h
    rw [List.map_cons, List.cons_append, List.pairwise_cons] at hnumbers
    refine ⟨n, Or.inl ⟨c, List.mem_cons_self, rfl⟩, ?_⟩
    rintro m d' (⟨c', hc', rfl⟩ | ⟨x, hx, rfl, -⟩)
    · rcases List.mem_cons.mp hc' with heq | hc'
      · obtain rfl := (Prod.mk.inj heq).1
        exact Or.inr ⟨rfl, Or.inl rfl⟩
      · exact Or.inl (hnumbers.1 m (List.mem_append_left _ (List.mem_map_of_mem hc')))
    · exact Or.inl (hnumbers.1 _ (List.mem_append_right _ (List.mem_map_of_mem hx)))
  | nil =>
    rw [hstray] at h hnumbers
    obtain ⟨before, x, after, hblocks, hbefore, hx⟩ := mapM_eq_error_iff.mp h
    rw [hblocks, List.map_nil, List.nil_append, List.map_append, List.map_cons] at hnumbers
    rw [hblocks]
    obtain ⟨hd, hothers⟩ := Block.hasDefect_of_entry hx
    refine ⟨x.number, Or.inr ⟨x, by simp, rfl, hd⟩, ?_⟩
    rintro m d' (⟨c', hc', -⟩ | ⟨y, hy, rfl, hd'⟩)
    · exact absurd hc' List.not_mem_nil
    · rcases List.mem_append.mp hy with hy | hy
      · obtain ⟨e, he⟩ := hbefore y hy
        exact absurd hd' (Block.not_hasDefect_of_entry he d')
      · rcases List.mem_cons.mp hy with rfl | hy
        · exact Or.inr ⟨rfl, hothers d' hd'⟩
        · have hafter := (List.pairwise_cons.mp (List.pairwise_append.mp hnumbers).2.1).1
          exact Or.inl (hafter _ (List.mem_map_of_mem hy))

theorem entries_eq_error_iff (hnumbers : b.numbers.Pairwise (· < ·)) {d : Defect} :
    b.entries = .error d ↔ ∃ n, Topmost b.DefectAt n d := by
  refine ⟨topmost_of_entries hnumbers, ?_⟩
  rintro ⟨n, h⟩
  cases hentries : b.entries with
  | ok es => exact absurd h.1 (not_defectAt_of_entries hentries n d)
  | error d' =>
    obtain ⟨n', h'⟩ := topmost_of_entries hnumbers hentries
    rw [h'.unique h]

end Blocks

/-! ## Lines -/

/-- A defect of a line between those above and those below it. A missing body is told by the label
    of its header: a header without a colon has none, but is a defect by its text. -/
inductive LineDefect (number : Nat) (above : List (List Char)) (l : List Char)
    (below : List (List Char)) : Defect → Prop
  | strayCommand (hl : IsBody l) (habove : ∀ l' ∈ above, ¬ IsHeader l') :
      LineDefect number above l below (.strayCommand number)
  | header {d : Defect} (hl : IsHeader l) (h : HeaderDefect number l d) :
      LineDefect number above l below d
  | noCommands {label expression : List Char} {startup : Bool} (hl : IsHeader l)
      (htext : HeaderText l label expression startup)
      (hbelow : ∀ l' ∈ below.takeWhile (fun l' => ¬ IsHeader l'), ¬ IsBody l') :
      LineDefect number above l below (.noCommands number (String.ofList label))

/-- A defect of lines that are numbered from `first`. -/
def DefectAt (first : Nat) (ls : List (List Char)) (n : Nat) (d : Defect) : Prop :=
  ∃ above l below, ls = above ++ l :: below ∧ n = first + above.length ∧
    LineDefect n above l below d

section

variable {first n : Nat} {l l' : List Char} {ls above below : List (List Char)} {d : Defect}

/-- A line more above the others takes the stray commands away if it is a header, and nothing
    else. -/
theorem lineDefect_cons_iff :
    LineDefect n (l :: above) l' below d ↔
      LineDefect n above l' below d ∧ (IsHeader l → d ≠ .strayCommand n) := by
  constructor
  · rintro (⟨hl, habove⟩ | ⟨hl, h⟩ | ⟨hl, htext, hbelow⟩)
    · rw [List.forall_mem_cons] at habove
      exact ⟨.strayCommand hl habove.2, fun hheader => absurd hheader habove.1⟩
    · exact ⟨.header hl h, fun _ => h.ne_strayCommand n⟩
    · exact ⟨.noCommands hl htext hbelow, fun _ => by simp⟩
  · rintro ⟨⟨hl, habove⟩ | ⟨hl, h⟩ | ⟨hl, htext, hbelow⟩, hstray⟩
    · exact .strayCommand hl (List.forall_mem_cons.mpr ⟨fun hheader => hstray hheader rfl, habove⟩)
    · exact .header hl h
    · exact .noCommands hl htext hbelow

/-- The defects of a table with a line on top are those of that line and those below. -/
theorem defectAt_cons_iff :
    DefectAt first (l :: ls) n d ↔
      n = first ∧ LineDefect n [] l ls d ∨
      DefectAt (first + 1) ls n d ∧ (IsHeader l → d ≠ .strayCommand n) := by
  constructor
  · rintro ⟨above, l', below, hls, hn, hd⟩
    cases above with
    | nil =>
      obtain ⟨rfl, rfl⟩ := List.cons.inj hls
      exact Or.inl ⟨hn, hd⟩
    | cons l'' above =>
      obtain ⟨rfl, rfl⟩ := List.cons.inj hls
      rw [lineDefect_cons_iff] at hd
      rw [List.length_cons] at hn
      exact Or.inr ⟨⟨above, l', below, rfl, by omega, hd.1⟩, hd.2⟩
  · rintro (⟨hn, hd⟩ | ⟨⟨above, l', below, rfl, hn, hd⟩, hstray⟩)
    · exact ⟨[], l, ls, rfl, hn, hd⟩
    · refine ⟨l :: above, l', below, rfl, ?_, lineDefect_cons_iff.mpr ⟨hd, hstray⟩⟩
      rw [List.length_cons]
      omega

theorem Outline.takeWhile_eq {sections : List Section} (h : Outline ls above sections) :
    ls.takeWhile (fun l => ¬ IsHeader l) = above := by
  rw [h.lines_eq, List.takeWhile_append_of_pos (by simpa using h.above)]
  cases sections with
  | nil => exact List.append_nil above
  | cons s sections =>
    rw [List.flatMap_cons, Section.lines, List.cons_append,
      List.takeWhile_cons_of_neg (by simpa using h.header s List.mem_cons_self), List.append_nil]

theorem stray_gathered_eq_nil_iff :
    (gathered first ls).stray.map (·.2) = [] ↔
      ∀ l' ∈ ls.takeWhile (fun l' => ¬ IsHeader l'), ¬ IsBody l' := by
  obtain ⟨above, sections, h⟩ := exists_outline ls
  rw [h.gathered_eq, h.takeWhile_eq, map_snd_strayFrom, commandsOf_eq_nil_iff]

theorem lineDefect_noise (hl : IsNoise l) : ¬ LineDefect n above l below d := by
  rintro (⟨hbody, -⟩ | ⟨hheader, -⟩ | ⟨hheader, -, -⟩)
  · exact hbody.1 hl
  · exact hheader.1 hl
  · exact hheader.1 hl

theorem lineDefect_body_iff (hl : IsBody l) :
    LineDefect n [] l below d ↔ d = .strayCommand n := by
  constructor
  · rintro (⟨-, -⟩ | ⟨hheader, -⟩ | ⟨hheader, -, -⟩)
    · rfl
    · exact absurd hl hheader.2
    · exact absurd hl hheader.2
  · rintro rfl
    exact .strayCommand hl (List.forall_mem_nil _)

/-- The defects of a header are those of its block. -/
theorem lineDefect_header_iff (hl : IsHeader l) :
    LineDefect n above l below d ↔
      Block.HasDefect ⟨n, l, (gathered first below).stray.map (·.2)⟩ d := by
  constructor
  · rintro (⟨hbody, -⟩ | ⟨-, h⟩ | ⟨-, htext, hbelow⟩)
    · exact absurd hbody hl.2
    · exact .header h
    · exact .noCommands htext (stray_gathered_eq_nil_iff.mpr hbelow)
  · rintro (h | ⟨htext, hcommands⟩)
    · exact .header hl h
    · exact .noCommands hl htext (stray_gathered_eq_nil_iff.mp hcommands)

/-- Gathering keeps all defects. -/
theorem defectAt_iff_gathered : DefectAt first ls n d ↔ (gathered first ls).DefectAt n d := by
  induction ls generalizing first with
  | nil =>
    constructor
    · rintro ⟨above, l, below, h, -⟩
      exact absurd h (by simp)
    · rintro (⟨c, hc, -⟩ | ⟨x, hx, -⟩)
      · exact absurd hc List.not_mem_nil
      · exact absurd hx List.not_mem_nil
  | cons l ls ih =>
    rw [defectAt_cons_iff, ih]
    rcases line_cases l with hl | hl | hl
    · rw [gathered_cons_noise first ls hl]
      constructor
      · rintro (⟨-, hd⟩ | ⟨hd, -⟩)
        · exact absurd hd (lineDefect_noise hl)
        · exact hd
      · exact fun hd => Or.inr ⟨hd, fun hheader => absurd hl hheader.1⟩
    · rw [gathered_cons_body first ls hl, lineDefect_body_iff hl]
      constructor
      · rintro (⟨rfl, rfl⟩ | ⟨⟨c, hc, rfl⟩ | hd, -⟩)
        · exact Or.inl ⟨trim l, List.mem_cons_self, rfl⟩
        · exact Or.inl ⟨c, List.mem_cons_of_mem _ hc, rfl⟩
        · exact Or.inr hd
      · rintro (⟨c, hc, rfl⟩ | hd)
        · rcases List.mem_cons.mp hc with heq | hc
          · exact Or.inl ⟨(Prod.mk.inj heq).1, rfl⟩
          · exact Or.inr ⟨Or.inl ⟨c, hc, rfl⟩, fun hheader => absurd hl hheader.2⟩
        · exact Or.inr ⟨Or.inr hd, fun hheader => absurd hl hheader.2⟩
    · rw [gathered_cons_header first ls hl]
      constructor
      · rintro (⟨rfl, hd⟩ | ⟨⟨c, hc, rfl⟩ | ⟨x, hx, hd⟩, hstray⟩)
        · exact Or.inr ⟨_, List.mem_cons_self, rfl, (lineDefect_header_iff hl).mp hd⟩
        · exact absurd rfl (hstray hl)
        · exact Or.inr ⟨x, List.mem_cons_of_mem _ hx, hd⟩
      · rintro (⟨c, hc, -⟩ | ⟨x, hx, rfl, hd⟩)
        · exact absurd hc List.not_mem_nil
        · rcases List.mem_cons.mp hx with rfl | hx
          · exact Or.inl ⟨rfl, (lineDefect_header_iff hl).mpr hd⟩
          · exact Or.inr ⟨Or.inr ⟨x, hx, rfl, hd⟩, fun _ => hd.ne_strayCommand _⟩

/-- The numbers of what is gathered grow, from that of the first line on. -/
theorem numbers_gathered (first : Nat) (ls : List (List Char)) :
    (gathered first ls).numbers.Pairwise (· < ·) ∧ ∀ n ∈ (gathered first ls).numbers, first ≤ n := by
  induction ls generalizing first with
  | nil => exact ⟨.nil, List.forall_mem_nil _⟩
  | cons l ls ih =>
    obtain ⟨hsorted, hlow⟩ := ih (first + 1)
    rcases line_cases l with hl | hl | hl
    · rw [gathered_cons_noise first ls hl]
      exact ⟨hsorted, fun n hn => Nat.le_of_succ_le (hlow n hn)⟩
    · rw [gathered_cons_body first ls hl]
      exact ⟨List.pairwise_cons.mpr ⟨hlow, hsorted⟩,
        List.forall_mem_cons.mpr ⟨Nat.le_refl _, fun n hn => Nat.le_of_succ_le (hlow n hn)⟩⟩
    · rw [gathered_cons_header first ls hl]
      -- The numbers of the stray commands are left out, since they belong to the new block.
      have hblocks : ((gathered (first + 1) ls).blocks.map (·.number)).Sublist
          (gathered (first + 1) ls).numbers := List.sublist_append_right _ _
      exact ⟨List.pairwise_cons.mpr ⟨fun n hn => hlow n (hblocks.subset hn), hsorted.sublist hblocks⟩,
        List.forall_mem_cons.mpr
          ⟨Nat.le_refl _, fun n hn => Nat.le_of_succ_le (hlow n (hblocks.subset hn))⟩⟩

/-- A defect is told with its line, a bad expression with its label. -/
theorem DefectAt.line?_eq (h : DefectAt first ls n d) :
    d.line? = some n ∨ ∃ label fault, d = .badExpression label fault := by
  obtain ⟨above, l, below, -, -, hd⟩ := h
  cases hd with
  | strayCommand => exact Or.inl rfl
  | header hl h =>
    cases h with
    | missingColon => exact Or.inl rfl
    | missingLabel => exact Or.inl rfl
    | badExpression => exact Or.inr ⟨_, _, rfl⟩
  | noCommands => exact Or.inl rfl

end

/-- A table is refused exactly when it has a defect. What is reported is the topmost, with the
    number of its line or, for a bad expression, the label of its header. -/
theorem parse_eq_error_iff_topmost (table : String) :
    (∀ d, parse table = .error d ↔ ∃ n, Topmost (DefectAt 1 (lines table.toList)) n d) ∧
    ((∃ d, parse table = .error d) ↔ ∃ n d, DefectAt 1 (lines table.toList) n d) ∧
    ∀ n d, DefectAt 1 (lines table.toList) n d →
      d.line? = some n ∨ ∃ label fault, d = .badExpression label fault := by
  have hdefect : DefectAt 1 (lines table.toList) = (gathered 1 (lines table.toList)).DefectAt :=
    funext fun n => funext fun d => propext defectAt_iff_gathered
  have herror : ∀ d, parse table = .error d ↔
      ∃ n, Topmost (DefectAt 1 (lines table.toList)) n d := by
    intro d
    rw [hdefect]
    exact Blocks.entries_eq_error_iff (numbers_gathered 1 _).1
  refine ⟨herror, ⟨?_, ?_⟩, fun n d h => h.line?_eq⟩
  · rintro ⟨d, h⟩
    obtain ⟨n, hd, -⟩ := (herror d).mp h
    exact ⟨n, d, hd⟩
  · rintro ⟨n, d, hd⟩
    rw [hdefect] at hd
    cases h : parse table with
    | ok es => exact absurd hd (Blocks.not_defectAt_of_entries h n d)
    | error d' => exact ⟨d', rfl⟩

/-- Two defects in one line and a third below them. -/
theorem parse_eq_error_iff_topmost_threeDefects :
    let table := "#\nb: * * * *\n # c\n\tx"
    let bad : Defect := .badExpression "b" (.fieldCount 4)
    DefectAt 1 (lines table.toList) 2 bad ∧
      DefectAt 1 (lines table.toList) 2 (.noCommands 2 "b") ∧
      DefectAt 1 (lines table.toList) 3 (.missingColon 3) ∧
      parse table = .error bad ∧ ∃ n, Topmost (DefectAt 1 (lines table.toList)) n bad := by
  intro table bad
  have hgathered : gathered 1 (lines table.toList) =
      ⟨[], [⟨2, ['b', ':', ' ', '*', ' ', '*', ' ', '*', ' ', '*'], []⟩,
        ⟨3, [' ', '#', ' ', 'c'], [['x']]⟩]⟩ := by decide +kernel
  have htext : HeaderText ['b', ':', ' ', '*', ' ', '*', ' ', '*', ' ', '*'] ['b']
      ['*', ' ', '*', ' ', '*', ' ', '*'] false :=
    @HeaderText.plain ['b'] [' ', '*', ' ', '*', ' ', '*', ' ', '*'] (by decide) (by decide)
  have hbad : DefectAt 1 (lines table.toList) 2 bad := by
    rw [defectAt_iff_gathered, hgathered]
    exact Or.inr ⟨_, List.mem_cons_self, rfl,
      .header (.badExpression htext (by decide) (by decide))⟩
  have hbody : DefectAt 1 (lines table.toList) 2 (.noCommands 2 "b") := by
    rw [defectAt_iff_gathered, hgathered]
    exact Or.inr ⟨_, List.mem_cons_self, rfl, .noCommands htext rfl⟩
  have hcolon : DefectAt 1 (lines table.toList) 3 (.missingColon 3) := by
    rw [defectAt_iff_gathered, hgathered]
    exact Or.inr ⟨_, List.mem_cons_of_mem _ List.mem_cons_self, rfl,
      .header (.missingColon (by decide))⟩
  have hparse : parse table = .error bad := by decide +kernel
  exact ⟨hbad, hbody, hcolon, hparse, ((parse_eq_error_iff_topmost table).1 bad).mp hparse⟩

end Crond.JobTable
