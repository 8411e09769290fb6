import Mathlib.Data.List.Forall2

/-
  The parts of a text between separators.

  Splitting and joining are inverse to each other as long as no part holds the separator
  (`splitOn_eq_iff`). Parts that are read one by one give a result together exactly when each of
  them gives one (`mapM_eq_some_iff`, `bind_eq_ok_iff`, `mapM_eq_ok_iff`), and otherwise the first
  one that gives none decides the error (`bind_eq_error_iff`, `mapM_eq_error_iff`). A change
  of the parts that only changes how their errors are told does no more to the whole
  (`mapM_map_eq_mapError`).
-/

namespace Crond.Text

variable {ε α β : Type}

/-- In front of a separator no character is it. -/
theorem decide_ne_of_not_mem [DecidableEq α] {a : α} {cs : List α} (h : a ∉ cs) :
    ∀ c ∈ cs, decide (c ≠ a) = true := by
  intro c hc
  rw [decide_eq_true_iff]
  rintro rfl
  exact h hc

theorem length_splitOn [BEq α] (a : α) (cs : List α) :
    (cs.splitOn a).length = cs.count a + 1 := by
  induction cs with
  | nil => rfl
  | cons c cs ih =>
    rw [List.splitOn_cons_eq_if_modifyHead, List.count_cons]
    split
    · rw [List.length_cons, ih]
    · rw [List.length_modifyHead, ih]

section

variable [BEq α] [LawfulBEq α]

theorem not_mem_of_mem_splitOn {a : α} {cs part : List α} (h : part ∈ cs.splitOn a) :
    a ∉ part := by
  induction cs generalizing part with
  | nil =>
    rw [List.splitOn_nil, List.mem_singleton] at h
    rw [h]
    exact List.not_mem_nil
  | cons c cs ih =>
    rw [List.splitOn_cons_eq_if_modifyHead] at h
    split at h
    · rcases List.mem_cons.mp h with rfl | h
      · exact List.not_mem_nil
      · exact ih h
    · rename_i hc
      obtain ⟨first, rest, hsplit⟩ := List.exists_cons_of_ne_nil (List.splitOn_ne_nil a cs)
      rw [hsplit, List.modifyHead_cons] at h
      rcases List.mem_cons.mp h with rfl | h
      · have hfirst : a ∉ first := ih (by rw [hsplit]; exact List.mem_cons_self)
        rw [List.mem_cons, not_or]
        exact ⟨fun ha => hc (by rw [ha]; exact beq_self_eq_true c), hfirst⟩
      · exact ih (by rw [hsplit]; exact List.mem_cons_of_mem _ h)

theorem splitOn_eq_iff {a : α} {cs : List α} {parts : List (List α)} :
    cs.splitOn a = parts ↔
      parts ≠ [] ∧ (∀ part ∈ parts, a ∉ part) ∧ cs = [a].intercalate parts := by
  constructor
  · rintro rfl
    exact ⟨List.splitOn_ne_nil a cs, fun part h => not_mem_of_mem_splitOn h,
      (List.intercalate_splitOn a).symm⟩
  · rintro ⟨hne, hparts, rfl⟩
    exact List.splitOn_intercalate a hparts hne

theorem splitOn_eq_one_iff {a : α} {cs part : List α} :
    cs.splitOn a = [part] ↔ cs = part ∧ a ∉ part := by
  rw [splitOn_eq_iff]
  simp [and_comm]

theorem splitOn_eq_two_iff {a : α} {cs first second : List α} :
    cs.splitOn a = [first, second] ↔ cs = first ++ a :: second ∧ a ∉ first ∧ a ∉ second := by
  rw [splitOn_eq_iff]
  simp [and_comm]

/-- Parts that hold the separator themselves are cut further. -/
theorem mem_splitOn_intercalate_iff {a : α} {parts : List (List α)} (hne : parts ≠ [])
    {piece : List α} :
    piece ∈ ([a].intercalate parts).splitOn a ↔ ∃ part ∈ parts, piece ∈ part.splitOn a := by
  induction parts with
  | nil => exact absurd rfl hne
  | cons part parts ih =>
    cases parts with
    | nil => simp
    | cons next parts =>
      rw [List.intercalate_cons_cons, List.append_assoc, List.singleton_append,
        List.splitOn_append_cons_self, List.mem_append, ih (List.cons_ne_nil next parts)]
      simp

end

theorem mapM_eq_some_iff {f : α → Option β} {xs : List α} {ys : List β} :
    xs.mapM f = some ys ↔ List.Forall₂ (fun x y => f x = some y) xs ys := by
  induction xs generalizing ys with
  | nil =>
    rw [List.mapM_nil, List.forall₂_nil_left_iff]
    exact ⟨fun h => (Option.some.inj h).symm, fun h => congrArg some h.symm⟩
  | cons x xs ih =>
    simp only [List.mapM_cons, List.forall₂_cons_left_iff, Option.bind_eq_bind,
      Option.bind_eq_some_iff, Option.pure_def, Option.some.injEq]
    constructor
    · rintro ⟨y, hy, ys', hys, rfl⟩
      exact ⟨y, ys', hy, ih.mp hys, rfl⟩
    · rintro ⟨y, ys', hy, hys, rfl⟩
      exact ⟨y, hy, ys', ih.mpr hys, rfl⟩

/-- Parts that are read alike one by one are read alike together. -/
theorem mapM_eq_of_forall₂ {f : α → Option β} {xs xs' : List α}
    (h : List.Forall₂ (fun x x' => f x' = f x) xs xs') : xs'.mapM f = xs.mapM f := by
  induction h with
  | nil => rfl
  | cons hx _ ih => rw [List.mapM_cons, List.mapM_cons, hx, ih]

theorem exists_of_mem_right {R : α → β → Prop} {xs : List α} {ys : List β}
    (h : List.Forall₂ R xs ys) {y : β} (hy : y ∈ ys) : ∃ x ∈ xs, R x y := by
  induction h with
  | nil => exact absurd hy List.not_mem_nil
  | cons hxy _ ih =>
    rcases List.mem_cons.mp hy with rfl | hy
    · exact ⟨_, List.mem_cons_self, hxy⟩
    · obtain ⟨x, hx, hR⟩ := ih hy
      exact ⟨x, List.mem_cons_of_mem _ hx, hR⟩

theorem exists_forall₂ {R : α → β → Prop} {xs : List α} (h : ∀ x ∈ xs, ∃ y, R x y) :
    ∃ ys, List.Forall₂ R xs ys := by
  induction xs with
  | nil => exact ⟨[], .nil⟩
  | cons x xs ih =>
    rw [List.forall_mem_cons] at h
    obtain ⟨y, hy⟩ := h.1
    obtain ⟨ys, hys⟩ := ih h.2
    exact ⟨y :: ys, .cons hy hys⟩

/-- Reading one part after another succeeds when each reading does. -/
theorem bind_eq_ok_iff {x : Except ε α} {f : α → Except ε β} {b : β} :
    (x >>= f) = .ok b ↔ ∃ a, x = .ok a ∧ f a = .ok b := by
  cases x with
  | ok a =>
    constructor
    · exact fun h => ⟨a, rfl, h⟩
    · rintro ⟨a', ha, h⟩
      rw [Except.ok.inj ha]
      exact h
  | error e =>
    constructor
    · exact fun h => absurd h (by simp [bind, Except.bind])
    · rintro ⟨_, h, _⟩
      exact absurd h (by simp)

/-- Reading one part after another fails where the first reading fails. -/
theorem bind_eq_error_iff {x : Except ε α} {f : α → Except ε β} {e : ε} :
    (x >>= f) = .error e ↔ x = .error e ∨ ∃ a, x = .ok a ∧ f a = .error e := by
  cases x with
  | ok a =>
    constructor
    · exact fun h => Or.inr ⟨a, rfl, h⟩
    · rintro (h | ⟨a', ha, h⟩)
      · exact absurd h (by simp)
      · rw [Except.ok.inj ha]
        exact h
  | error e' =>
    constructor
    · exact fun h => Or.inl (congrArg Except.error (Except.error.inj h))
    · rintro (h | ⟨_, ha, _⟩)
      · exact congrArg Except.error (Except.error.inj h)
      · exact absurd ha (by simp)

theorem mapM_eq_ok_iff {f : α → Except ε β} {xs : List α} {ys : List β} :
    xs.mapM f = .ok ys ↔ List.Forall₂ (fun x y => f x = .ok y) xs ys := by
  induction xs generalizing ys with
  | nil =>
    rw [List.mapM_nil, List.forall₂_nil_left_iff]
    exact ⟨fun h => (Except.ok.inj h).symm, fun h => congrArg Except.ok h.symm⟩
  | cons x xs ih =>
    rw [List.mapM_cons, List.forall₂_cons_left_iff, bind_eq_ok_iff]
    simp only [bind_eq_ok_iff]
    constructor
    · rintro ⟨y, hy, ys', hys, h⟩
      exact ⟨y, ys', hy, ih.mp hys, (Except.ok.inj h).symm⟩
    · rintro ⟨y, ys', hy, hys, rfl⟩
      exact ⟨y, hy, ys', ih.mpr hys, rfl⟩

/-- Reading parts fails with the first of them that is not read. -/
theorem mapM_eq_error_iff {f : α → Except ε β} {xs : List α} {e : ε} :
    xs.mapM f = .error e ↔
      ∃ before x after, xs = before ++ x :: after ∧ (∀ y ∈ before, ∃ b, f y = .ok b) ∧
        f x = .error e := by
  induction xs with
  | nil =>
    rw [List.mapM_nil]
    constructor
    · exact fun h => absurd h (by simp [pure, Except.pure])
    · rintro ⟨before, x, after, h, -⟩
      exact absurd h (by simp)
  | cons x xs ih =>
    have hrest : ∀ y, (do let ys ← xs.mapM f; return y :: ys : Except ε (List β)) = .error e ↔
        xs.mapM f = .error e := by
      intro y
      rw [bind_eq_error_iff]
      exact or_iff_left fun ⟨_, _, h⟩ => absurd h (by simp [pure, Except.pure])
    rw [List.mapM_cons, bind_eq_error_iff]
    simp only [hrest, ih]
    constructor
    · rintro (h | ⟨b, hb, before, y, after, rfl, hbefore, hy⟩)
      · exact ⟨[], x, xs, rfl, List.forall_mem_nil _, h⟩
      · exact ⟨x :: before, y, after, rfl, List.forall_mem_cons.mpr ⟨⟨b, hb⟩, hbefore⟩, hy⟩
    · rintro ⟨before, y, after, hsplit, hbefore, hy⟩
      cases before with
      | nil =>
        obtain ⟨rfl, rfl⟩ := List.cons.inj hsplit
        exact Or.inl hy
      | cons z before =>
        obtain ⟨rfl, rfl⟩ := List.cons.inj hsplit
        obtain ⟨⟨b, hb⟩, hbefore⟩ := List.forall_mem_cons.mp hbefore
        exact Or.inr ⟨b, hb, before, y, after, rfl, hbefore, hy⟩

theorem mapM_map_eq_mapError {ε' γ : Type} {f : α → Except ε β} {f' : γ → Except ε' β} {g : α → γ}
    {tell : ε → ε'} (h : ∀ x, f' (g x) = (f x).mapError tell) (xs : List α) :
    (xs.map g).mapM f' = (xs.mapM f).mapError tell := by
  induction xs with
  | nil => rfl
  | cons x xs ih =>
    rw [List.map_cons, List.mapM_cons, List.mapM_cons, h, ih]
    cases f x with
    | error e => rfl
    | ok y =>
      cases xs.mapM f with
      | error e => rfl
      | ok ys => rfl

end Crond.Text
