import Mathlib.Data.List.DropRight
import Mathlib.Data.List.TakeWhile
import Crond.Text.Blank

/-
  Trimming, and the texts that it leaves alone.

  Trimming looks at the two ends of a text only (`trim_eq_self`). It takes away blanks and nothing
  else (`exists_padding`), and how many there are does not matter (`trim_padded`). Parts that are
  joined lend their ends to the whole (`head?_intercalate`, `getLast?_intercalate`), so a text of
  words with separators between them is left alone, whatever the separator is
  (`trim_intercalate`); if the separator is blank, the first and the last part must begin and end
  with a character that is not (`isTrimmed_intercalate_iff`).
-/

namespace Crond.Text

instance (cs : List Char) : Decidable (∀ c ∈ cs, isBlank c = true) :=
  decidable_of_iff (cs.all isBlank = true) List.all_eq_true

instance (cs : List Char) : Decidable (∀ c ∈ cs, isBlank c = false) :=
  decidable_of_iff (cs.all (fun c => !isBlank c) = true) (by simp)

/-- A text of one character or more, none of them blank. -/
structure IsVisible (cs : List Char) : Prop where
  ne_nil : cs ≠ []
  not_blank : ∀ c ∈ cs, isBlank c = false

theorem isVisible_singleton {c : Char} (h : isBlank c = false) : IsVisible [c] := by
  refine ⟨List.cons_ne_nil _ _, fun d hd => ?_⟩
  rw [List.mem_singleton.mp hd]
  exact h

theorem IsVisible.cons {c : Char} {cs : List Char} (hc : isBlank c = false) (h : IsVisible cs) :
    IsVisible (c :: cs) :=
  ⟨List.cons_ne_nil c cs, List.forall_mem_cons.mpr ⟨hc, h.not_blank⟩⟩

/-- The ranges of white space hold no digit. -/
theorem isBlank_of_isDigit {c : Char} (h : c.isDigit = true) : isBlank c = false := by
  simp only [Char.isDigit, Bool.and_eq_true, decide_eq_true_eq] at h
  have hlow : 48 ≤ c.toNat := h.1
  have hhigh : c.toNat ≤ 57 := h.2
  simp only [isBlank, blankRanges, List.any_cons, List.any_nil, Bool.or_false,
    Bool.or_eq_false_iff, Bool.and_eq_false_iff, decide_eq_false_iff_not]
  omega

theorem trim_eq_self {cs : List Char} (hhead : ∀ c, cs.head? = some c → isBlank c = false)
    (hlast : ∀ c, cs.getLast? = some c → isBlank c = false) : trim cs = cs := by
  have hstart : trimStart cs = cs := by
    cases cs with
    | nil => rfl
    | cons c cs => exact List.dropWhile_cons_of_neg (by rw [hhead c rfl]; decide)
  unfold trim
  rw [hstart]
  rcases List.eq_nil_or_concat cs with rfl | ⟨front, c, rfl⟩
  · exact trimEnd_nil
  · rw [List.concat_eq_append]
    exact trimEnd_append_solid front (hlast c (by rw [List.concat_eq_append]; simp))

/-- A text without white space at either end. -/
structure IsTrimmed (cs : List Char) : Prop where
  head : ∀ c, cs.head? = some c → isBlank c = false
  last : ∀ c, cs.getLast? = some c → isBlank c = false

theorem isTrimmed_iff (cs : List Char) :
    IsTrimmed cs ↔ cs.head?.all (fun c => !isBlank c) = true ∧
      cs.getLast?.all (fun c => !isBlank c) = true := by
  simp only [Option.all_eq_true, Bool.not_eq_true']
  exact ⟨fun h => ⟨h.head, h.last⟩, fun h => ⟨h.1, h.2⟩⟩

instance (cs : List Char) : Decidable (IsTrimmed cs) := decidable_of_iff _ (isTrimmed_iff cs).symm

theorem IsTrimmed.trim_eq {cs : List Char} (h : IsTrimmed cs) : trim cs = cs :=
  trim_eq_self h.head h.last

/-- The ends of a text are those of its first and its last part. -/
theorem IsTrimmed.append {first second : List Char} (h : IsTrimmed first) (hne : first ≠ [])
    (h' : IsTrimmed second) (hne' : second ≠ []) (middle : List Char) :
    IsTrimmed (first ++ middle ++ second) := by
  constructor
  · intro c hc
    rw [List.append_assoc, List.head?_append_of_ne_nil _ hne] at hc
    exact h.head c hc
  · intro c hc
    rw [List.getLast?_append_of_ne_nil _ hne'] at hc
    exact h'.last c hc

theorem trimStart_blanks_append {front : List Char} (h : ∀ c ∈ front, isBlank c = true)
    (cs : List Char) : trimStart (front ++ cs) = trimStart cs := by
  unfold trimStart
  exact List.dropWhile_append_of_pos h

theorem trimEnd_append_blanks {back : List Char} (h : ∀ c ∈ back, isBlank c = true)
    (cs : List Char) : trimEnd (cs ++ back) = trimEnd cs := by
  unfold trimEnd
  rw [List.reverse_append,
    List.dropWhile_append_of_pos fun c hc => h c (List.mem_reverse.mp hc)]

theorem trim_blank {cs : List Char} (h : ∀ c ∈ cs, isBlank c = true) : trim cs = [] := by
  have hstart : trimStart cs = [] := List.dropWhile_eq_nil_iff.mpr h
  unfold trim
  rw [hstart]
  exact trimEnd_nil

/-- Blanks around a text do not matter. -/
theorem trim_padded {front back : List Char} (hfront : ∀ c ∈ front, isBlank c = true)
    (hback : ∀ c ∈ back, isBlank c = true) (cs : List Char) :
    trim (front ++ cs ++ back) = trim cs := by
  by_cases hcs : ∀ c ∈ cs, isBlank c = true
  · rw [trim_blank hcs]
    refine trim_blank fun c hc => ?_
    rw [List.mem_append, List.mem_append] at hc
    rcases hc with (hc | hc) | hc
    · exact hfront c hc
    · exact hcs c hc
    · exact hback c hc
  · have hne : (cs.dropWhile isBlank).isEmpty = false := by
      rw [List.isEmpty_eq_false_iff]
      exact fun h => hcs (List.dropWhile_eq_nil_iff.mp h)
    have hstart : trimStart (cs ++ back) = trimStart cs ++ back := by
      unfold trimStart
      rw [List.dropWhile_append, hne]
      rfl
    unfold trim
    rw [List.append_assoc, trimStart_blanks_append hfront, hstart, trimEnd_append_blanks hback]

theorem trim_append_blanks {back : List Char} (h : ∀ c ∈ back, isBlank c = true)
    (cs : List Char) : trim (cs ++ back) = trim cs :=
  trim_padded (List.forall_mem_nil _) h cs

theorem trim_blanks_append {front : List Char} (h : ∀ c ∈ front, isBlank c = true)
    (cs : List Char) : trim (front ++ cs) = trim cs := by
  have hpadded := trim_padded h (List.forall_mem_nil _) cs
  rwa [List.append_nil] at hpadded

theorem exists_trimStart (cs : List Char) :
    ∃ front, (∀ c ∈ front, isBlank c = true) ∧ cs = front ++ trimStart cs :=
  ⟨cs.takeWhile isBlank, fun _ hc => List.mem_takeWhile_imp hc,
    List.takeWhile_append_dropWhile.symm⟩

theorem exists_trimEnd (cs : List Char) :
    ∃ back, (∀ c ∈ back, isBlank c = true) ∧ cs = trimEnd cs ++ back := by
  obtain ⟨front, hfront, hcs⟩ := exists_trimStart cs.reverse
  refine ⟨front.reverse, fun c hc => hfront c (List.mem_reverse.mp hc), ?_⟩
  have hreverse := congrArg List.reverse hcs
  rwa [List.reverse_reverse, List.reverse_append] at hreverse

/-- A text is what is left of it after trimming, with blanks on both sides. -/
theorem exists_padding (cs : List Char) :
    ∃ front back, (∀ c ∈ front, isBlank c = true) ∧ (∀ c ∈ back, isBlank c = true) ∧
      cs = front ++ trim cs ++ back := by
  obtain ⟨front, hfront, hcs⟩ := exists_trimStart cs
  obtain ⟨back, hback, hstart⟩ := exists_trimEnd (trimStart cs)
  refine ⟨front, back, hfront, hback, ?_⟩
  rw [List.append_assoc]
  unfold trim
  rw [← hstart]
  exact hcs

theorem trim_trimEnd (cs : List Char) : trim (trimEnd cs) = trim cs := by
  obtain ⟨back, hback, hcs⟩ := exists_trimEnd cs
  conv_rhs => rw [hcs]
  exact (trim_append_blanks hback (trimEnd cs)).symm

theorem exists_head?_trimStart {cs : List Char} (h : trimStart cs ≠ []) :
    ∃ c, (trimStart cs).head? = some c ∧ isBlank c = false := by
  obtain ⟨c, rest, hcons⟩ := List.exists_cons_of_ne_nil h
  have hhead : (cs.dropWhile isBlank).head? = some c := congrArg List.head? hcons
  have hnot := List.head?_dropWhile_not isBlank cs
  rw [hhead] at hnot
  exact ⟨c, hhead, hnot⟩

theorem exists_getLast?_trimEnd {cs : List Char} (h : trimEnd cs ≠ []) :
    ∃ c, (trimEnd cs).getLast? = some c ∧ isBlank c = false := by
  have hne : trimStart cs.reverse ≠ [] := fun hnil => h (congrArg List.reverse hnil)
  obtain ⟨c, hc, hsolid⟩ := exists_head?_trimStart hne
  exact ⟨c, List.getLast?_reverse.trans hc, hsolid⟩

theorem count_trim_le (a : Char) (cs : List Char) : (trim cs).count a ≤ cs.count a := by
  obtain ⟨front, back, -, -, hcs⟩ := exists_padding cs
  have hcount := congrArg (List.count a) hcs
  rw [List.count_append, List.count_append] at hcount
  omega

/-- A blank at an end of a text is taken away. -/
theorem count_trim_lt {a : Char} (ha : isBlank a = true) {cs : List Char}
    (h : cs.head? = some a ∨ cs.getLast? = some a) : (trim cs).count a < cs.count a := by
  have hblank : ∀ c ∈ [a], isBlank c = true := List.forall_mem_singleton.mpr ha
  rcases h with h | h
  · obtain ⟨rest, rfl⟩ := List.head?_eq_some_iff.mp h
    have hle := count_trim_le a rest
    have htrim : trim (a :: rest) = trim rest := trim_blanks_append hblank rest
    rw [htrim, List.count_cons_self]
    omega
  · obtain ⟨rest, rfl⟩ := List.getLast?_eq_some_iff.mp h
    have hle := count_trim_le a rest
    rw [trim_append_blanks hblank, List.count_append, List.count_singleton_self]
    omega

theorem isTrimmed_trim (cs : List Char) : IsTrimmed (trim cs) := by
  constructor
  · intro c hc
    obtain ⟨back, _, hstart⟩ := exists_trimEnd (trimStart cs)
    have hhead : (cs.dropWhile isBlank).head? = some c := by
      change (trimStart cs).head? = some c
      rw [hstart, List.head?_append, show (trimEnd (trimStart cs)).head? = some c from hc]
      rfl
    have hnot := List.head?_dropWhile_not isBlank cs
    rwa [hhead] at hnot
  · intro c hc
    have hlast : ((trimStart cs).reverse.dropWhile isBlank).head? = some c := by
      rw [← List.getLast?_reverse]
      exact hc
    have hnot := List.head?_dropWhile_not isBlank (trimStart cs).reverse
    rwa [hlast] at hnot

theorem trim_trim (cs : List Char) : trim (trim cs) = trim cs := (isTrimmed_trim cs).trim_eq

theorem mem_of_mem_trim {c : Char} {cs : List Char} (h : c ∈ trim cs) : c ∈ cs := by
  obtain ⟨front, back, _, _, hcs⟩ := exists_padding cs
  rw [hcs]
  exact List.mem_append_left _ (List.mem_append_right _ h)

section

variable {α : Type} {a : α} {parts : List (List α)}

theorem mem_of_mem_intercalate {c : α} (h : c ∈ [a].intercalate parts) :
    c = a ∨ ∃ part ∈ parts, c ∈ part := by
  induction parts with
  | nil => exact absurd h List.not_mem_nil
  | cons part parts ih =>
    cases parts with
    | nil =>
      rw [List.intercalate_singleton] at h
      exact Or.inr ⟨part, List.mem_cons_self, h⟩
    | cons next parts =>
      rw [List.intercalate_cons_cons, List.mem_append, List.mem_append, List.mem_singleton] at h
      rcases h with (h | h) | h
      · exact Or.inr ⟨part, List.mem_cons_self, h⟩
      · exact Or.inl h
      · exact (ih h).imp_right fun ⟨p, hp, hc⟩ => ⟨p, List.mem_cons_of_mem _ hp, hc⟩

theorem mem_intercalate_of_mem {part : List α} (hpart : part ∈ parts) {c : α} (hc : c ∈ part) :
    c ∈ [a].intercalate parts := by
  induction parts with
  | nil => exact absurd hpart List.not_mem_nil
  | cons first parts ih =>
    cases parts with
    | nil =>
      rw [List.intercalate_singleton, ← List.mem_singleton.mp hpart]
      exact hc
    | cons next parts =>
      rw [List.intercalate_cons_cons]
      rcases List.mem_cons.mp hpart with rfl | hpart
      · exact List.mem_append_left _ (List.mem_append_left _ hc)
      · exact List.mem_append_right _ (ih hpart)

theorem mem_of_mem_splitOn [BEq α] [LawfulBEq α] {cs part : List α} (hpart : part ∈ cs.splitOn a)
    {c : α} (hc : c ∈ part) : c ∈ cs := by
  have hjoin : [a].intercalate (cs.splitOn a) = cs := List.intercalate_splitOn a
  rw [← hjoin]
  exact mem_intercalate_of_mem hpart hc

theorem head?_intercalate {part : List α} (hne : part ≠ []) :
    ([a].intercalate (part :: parts)).head? = part.head? := by
  cases parts with
  | nil => rw [List.intercalate_singleton]
  | cons next parts =>
    rw [List.intercalate_cons_cons, List.append_assoc, List.head?_append_of_ne_nil _ hne]

theorem getLast?_intercalate {part : List α} (hne : part ≠ []) :
    ([a].intercalate (parts ++ [part])).getLast? = part.getLast? := by
  induction parts with
  | nil => rw [List.nil_append, List.intercalate_singleton]
  | cons first parts ih =>
    have hrest : [a].intercalate (parts ++ [part]) ≠ [] := by
      intro h
      rw [h] at ih
      exact hne (List.getLast?_eq_none_iff.mp ih.symm)
    rw [List.cons_append, List.intercalate_cons_of_ne_nil (by simp),
      List.getLast?_append_of_ne_nil _ hrest, ih]

/-- A separator stands behind the last part but one, so that it ends the text if the last part is
    empty. -/
theorem getLast?_intercalate_cons {part : List α} (hne : parts ≠ []) :
    ([a].intercalate (parts ++ [part])).getLast? = (a :: part).getLast? := by
  induction parts with
  | nil => exact absurd rfl hne
  | cons first parts ih =>
    rw [List.cons_append, List.intercalate_cons_of_ne_nil (by simp)]
    cases parts with
    | nil =>
      rw [List.nil_append, List.intercalate_singleton, List.append_assoc]
      exact List.getLast?_append_of_ne_nil _ (List.cons_ne_nil a part)
    | cons next parts =>
      have hlast := ih (List.cons_ne_nil next parts)
      have hrest : [a].intercalate (next :: parts ++ [part]) ≠ [] := by
        intro h
        rw [h] at hlast
        exact List.cons_ne_nil a part (List.getLast?_eq_none_iff.mp hlast.symm)
      rw [List.getLast?_append_of_ne_nil _ hrest, hlast]

end

/-- The ends of parts with blanks between them are those of the first and of the last part. -/
theorem isTrimmed_intercalate_iff {a : Char} (ha : isBlank a = true) {first last : List Char}
    {middle : List (List Char)} :
    IsTrimmed ([a].intercalate (first :: (middle ++ [last]))) ↔
      (∃ c, first.head? = some c ∧ isBlank c = false) ∧
        ∃ c, last.getLast? = some c ∧ isBlank c = false := by
  have hhead : ([a].intercalate (first :: (middle ++ [last]))).head? = (first ++ [a]).head? := by
    rw [List.intercalate_cons_of_ne_nil (by simp), List.head?_append_of_ne_nil _ (by simp)]
  have hlast : ([a].intercalate (first :: (middle ++ [last]))).getLast? = (a :: last).getLast? :=
    getLast?_intercalate_cons (List.cons_ne_nil first middle)
  constructor
  · intro h
    constructor
    · have hends := h.head
      rw [hhead] at hends
      cases first with
      | nil => exact absurd (ha.symm.trans (hends a rfl)) (by decide)
      | cons c first => exact ⟨c, rfl, hends c rfl⟩
    · have hends := h.last
      rw [hlast] at hends
      rcases List.eq_nil_or_concat last with rfl | ⟨front, c, rfl⟩
      · exact absurd (ha.symm.trans (hends a rfl)) (by decide)
      · rw [List.concat_eq_append] at hends ⊢
        exact ⟨c, List.getLast?_concat, hends c (by rw [← List.cons_append, List.getLast?_concat])⟩
  · rintro ⟨⟨c, hc, hsolid⟩, d, hd, hsolid'⟩
    constructor
    · intro c' hc'
      rw [hhead, List.head?_append, hc] at hc'
      exact Option.some.inj hc' ▸ hsolid
    · intro d' hd'
      rw [hlast, List.getLast?_cons, hd] at hd'
      exact Option.some.inj hd' ▸ hsolid'
namespace IsVisible

theorem join {first second : List Char} {c : Char} (h : IsVisible first) (hc : isBlank c = false)
    (h' : IsVisible second) : IsVisible (first ++ c :: second) := by
  refine ⟨by simp, fun d hd => ?_⟩
  rcases List.mem_append.mp hd with hd | hd
  · exact h.not_blank d hd
  · rcases List.mem_cons.mp hd with rfl | hd
    · exact hc
    · exact h'.not_blank d hd

theorem intercalate {a : Char} {parts : List (List Char)} (hne : parts ≠ [])
    (ha : isBlank a = false) (h : ∀ part ∈ parts, IsVisible part) :
    IsVisible ([a].intercalate parts) := by
  refine ⟨?_, fun c hc => ?_⟩
  · obtain ⟨part, rest, rfl⟩ := List.exists_cons_of_ne_nil hne
    have hpart := (h part List.mem_cons_self).ne_nil
    intro hnil
    have hhead : ([a].intercalate (part :: rest)).head? = part.head? := head?_intercalate hpart
    rw [hnil] at hhead
    exact hpart (List.head?_eq_none_iff.mp hhead.symm)
  · rcases mem_of_mem_intercalate hc with rfl | ⟨part, hpart, hc⟩
    · exact ha
    · exact (h part hpart).not_blank c hc

end IsVisible

/-- Words that are joined form a text that trimming leaves alone. -/
theorem trim_intercalate (a : Char) {parts : List (List Char)}
    (h : ∀ part ∈ parts, IsVisible part) :
    trim ([a].intercalate parts) = [a].intercalate parts := by
  refine trim_eq_self (fun c hc => ?_) (fun c hc => ?_)
  · cases parts with
    | nil => simp at hc
    | cons part parts =>
      have hpart := h part List.mem_cons_self
      rw [head?_intercalate hpart.ne_nil] at hc
      exact hpart.not_blank c (List.mem_of_mem_head? hc)
  · rcases List.eq_nil_or_concat parts with rfl | ⟨front, part, rfl⟩
    · simp at hc
    · rw [List.concat_eq_append] at h hc
      have hpart := h part (by simp)
      rw [getLast?_intercalate hpart.ne_nil] at hc
      exact hpart.not_blank c (List.mem_of_mem_getLast? hc)

end Crond.Text
