import Mathlib.Data.List.Pairwise
import Mathlib.Data.List.Perm.Basic
import Crond.Settings.Section

/-
  Sections written as objects: what their members come to, whatever their order.

  A member that a section takes fills the slot of its key or is skipped (`Takes`). Slots that do
  not get in each other's way can be filled in any order (`Apart`), so a section comes out the same
  for any order of its members (`fillMembers_perm`), and a member counts wherever it stands
  (`fillMembers_insert_iff`). Filling an open slot with a value that makes no difference in the end
  is as good as leaving it open (`Harmless`, `fillMembers_harmless`).
-/

namespace Crond

open Json

abbrev Member := Quoted × Node

/-! ## Values that can be skipped -/

/-- A value of sound form throughout: all of JSON. -/
inductive Json.Node.IsWhole : Node → Prop
  | null : IsWhole .null
  | bool (b : Bool) : IsWhole (.bool b)
  | number (isUsable : Bool) : IsWhole (.number isUsable)
  | string (s : Quoted) : IsWhole (.string s)
  | array {elements : List Node} : (∀ n ∈ elements, IsWhole n) → IsWhole (.array elements .closed)
  | object {members : List (Quoted × Node)} : (∀ m ∈ members, IsWhole m.2) →
      IsWhole (.object members .closed)

theorem Json.skipElements_eq_ok {elements : List Node} (h : ∀ n ∈ elements, n.skip = .ok ()) :
    skipElements elements = .ok () := by
  induction elements with
  | nil => rfl
  | cons n elements ih =>
    rw [List.forall_mem_cons] at h
    rw [skipElements, h.1]
    exact ih h.2

theorem Json.skipMembers_eq_ok {members : List (Quoted × Node)}
    (h : ∀ m ∈ members, m.2.skip = .ok ()) : skipMembers members = .ok () := by
  induction members with
  | nil => rfl
  | cons m members ih =>
    rw [List.forall_mem_cons] at h
    rw [skipMembers, h.1]
    exact ih h.2

theorem Json.Node.IsWhole.skip_eq {n : Node} (h : n.IsWhole) : n.skip = .ok () := by
  induction h with
  | null | bool | number | string => rfl
  | array _ ih =>
    rw [skip, skipElements_eq_ok ih]
    rfl
  | object _ ih =>
    rw [skip, skipMembers_eq_ok ih]
    rfl

/-! ## Members one by one -/

variable {σ : Type} {slots : List (Slot σ)}

/-- A member that a section takes, the record before it and the record after it. -/
inductive Takes (slots : List (Slot σ)) : σ → Member → σ → Prop
  | skipped {s : σ} {key : String} {n : Node} :
      slots.find? (fun slot => slot.key = key) = none → n.skip = .ok () →
      Takes slots s (some key, n) s
  | filled {s t : σ} {slot : Slot σ} {n : Node} :
      slots.find? (fun other => other.key = slot.key) = some slot → slot.isFilled s = false →
      slot.fill s n = .ok t → Takes slots s (some slot.key, n) t

theorem fillMembers_cons_iff {s u : σ} {m : Member} {members : List Member} :
    fillMembers slots s (m :: members) = .ok u ↔
      ∃ t, Takes slots s m t ∧ fillMembers slots t members = .ok u := by
  constructor
  · intro h
    obtain ⟨_ | key, n⟩ := m
    · exact absurd h (by simp [fillMembers])
    rw [fillMembers] at h
    cases hfind : slots.find? fun slot => slot.key = key with
    | none =>
      simp only [hfind] at h
      split at h
      · exact absurd h (by simp)
      · rename_i hskip
        exact ⟨s, .skipped hfind hskip, h⟩
    | some slot =>
      obtain rfl : slot.key = key := by simpa using List.find?_some hfind
      simp only [hfind] at h
      split at h
      · exact absurd h (by simp)
      · rename_i hopen
        split at h
        · exact absurd h (by simp)
        · rename_i t hfill
          exact ⟨t, .filled hfind (Bool.eq_false_iff.mpr hopen) hfill, h⟩
  · rintro ⟨t, htakes, h⟩
    cases htakes with
    | skipped hfind hskip => simpa only [fillMembers, hfind, hskip] using h
    | filled hfind hopen hfill =>
      simpa only [fillMembers, hfind, hopen, hfill, Bool.false_eq_true, if_false] using h

/-! ## Members in any order -/

/-- Filling the one slot before the other can be turned round, and leaves the other as it was. -/
structure Slot.Precedes (a b : Slot σ) : Prop where
  key_ne : a.key ≠ b.key
  keeps : ∀ {s t n}, a.fill s n = .ok t → b.isFilled t = b.isFilled s
  swap : ∀ {s t u n m}, a.fill s n = .ok t → b.fill t m = .ok u →
    ∃ t', b.fill s m = .ok t' ∧ a.fill t' n = .ok u

/-- Slots that do not get in each other's way; once filled they stay so. -/
structure Apart (slots : List (Slot σ)) : Prop where
  fills : ∀ a ∈ slots, ∀ {s t n}, a.fill s n = .ok t → a.isFilled t = true
  pairwise : slots.Pairwise fun a b => a.Precedes b ∧ b.Precedes a

theorem Apart.precedes (h : Apart slots) {a b : Slot σ} (ha : a ∈ slots) (hb : b ∈ slots)
    (hkey : a.key ≠ b.key) : a.Precedes b := by
  have : Std.Symm fun a b : Slot σ => a.Precedes b ∧ b.Precedes a := ⟨fun _ _ hab => hab.symm⟩
  have hne : a ≠ b := fun heq => hkey (congrArg Slot.key heq)
  exact (h.pairwise.forall ha hb hne).1

theorem Takes.swap (h : Apart slots) {s t u : σ} {x y : Member} (hx : Takes slots s x t)
    (hy : Takes slots t y u) : ∃ t', Takes slots s y t' ∧ Takes slots t' x u := by
  cases hx with
  | skipped hfindX hskipX => exact ⟨u, hy, .skipped hfindX hskipX⟩
  | @filled _ a n hfindX hopenX hfillX =>
    cases hy with
    | skipped hfindY hskipY => exact ⟨s, .skipped hfindY hskipY, .filled hfindX hopenX hfillX⟩
    | @filled _ b m hfindY hopenY hfillY =>
      have ha := List.mem_of_find?_eq_some hfindX
      have hb := List.mem_of_find?_eq_some hfindY
      -- Two members for one slot are never taken one after the other.
      by_cases hkey : a.key = b.key
      · rw [hkey, hfindY] at hfindX
        obtain rfl := Option.some.inj hfindX
        rw [h.fills _ ha hfillX] at hopenY
        exact absurd hopenY (by decide)
      · have hab := h.precedes ha hb hkey
        have hba := h.precedes hb ha (Ne.symm hkey)
        obtain ⟨t', hfirst, hsecond⟩ := hab.swap hfillX hfillY
        exact ⟨t', .filled hfindY (hab.keeps hfillX ▸ hopenY) hfirst,
          .filled hfindX ((hba.keeps hfirst).trans hopenX) hsecond⟩

theorem fillMembers_perm (h : Apart slots) {members members' : List Member}
    (hperm : members.Perm members') {s u : σ} (hfill : fillMembers slots s members = .ok u) :
    fillMembers slots s members' = .ok u := by
  -- A permutation is made of swaps of neighbours, wherever the record stands by then.
  induction hperm generalizing s with
  | nil => exact hfill
  | cons m _ ih =>
    obtain ⟨t, htakes, hrest⟩ := fillMembers_cons_iff.mp hfill
    exact fillMembers_cons_iff.mpr ⟨t, htakes, ih hrest⟩
  | swap x y members =>
    obtain ⟨t, hy, hrest⟩ := fillMembers_cons_iff.mp hfill
    obtain ⟨v, hx, hrest⟩ := fillMembers_cons_iff.mp hrest
    obtain ⟨t', hx', hy'⟩ := hy.swap h hx
    exact fillMembers_cons_iff.mpr ⟨t', hx', fillMembers_cons_iff.mpr ⟨v, hy', hrest⟩⟩
  | trans _ _ ih₁ ih₂ => exact ih₂ (ih₁ hfill)

theorem fillMembers_concat_iff {s u : σ} {m : Member} {members : List Member} :
    fillMembers slots s (members ++ [m]) = .ok u ↔
      ∃ t, fillMembers slots s members = .ok t ∧ Takes slots t m u := by
  induction members generalizing s with
  | nil => simp [fillMembers_cons_iff, fillMembers]
  | cons first members ih =>
    rw [List.cons_append, fillMembers_cons_iff]
    simp only [ih, fillMembers_cons_iff]
    constructor
    · rintro ⟨v, hv, t, ht, hm⟩
      exact ⟨t, ⟨v, hv, ht⟩, hm⟩
    · rintro ⟨t, ⟨v, hv, ht⟩, hm⟩
      exact ⟨v, hv, t, ht, hm⟩

/-- A member counts as if it came last, wherever it stands. -/
theorem fillMembers_insert_iff (h : Apart slots) {s u : σ} {m : Member}
    {before behind : List Member} :
    fillMembers slots s (before ++ m :: behind) = .ok u ↔
      ∃ t, fillMembers slots s (before ++ behind) = .ok t ∧ Takes slots t m u := by
  have hperm : (before ++ m :: behind).Perm (before ++ behind ++ [m]) :=
    List.perm_middle.trans (List.perm_append_singleton _ _).symm
  rw [← fillMembers_concat_iff]
  exact ⟨fillMembers_perm h hperm, fillMembers_perm h hperm.symm⟩

/-- A slot whose key no member has is as open as before. -/
theorem isFilled_of_fillMembers (h : Apart slots) {slot : Slot σ} (hslot : slot ∈ slots)
    {members : List Member} (habsent : ∀ m ∈ members, m.1 ≠ some slot.key) {s u : σ}
    (hfill : fillMembers slots s members = .ok u) : slot.isFilled u = slot.isFilled s := by
  induction members generalizing s with
  | nil =>
    obtain rfl : s = u := by simpa [fillMembers] using hfill
    rfl
  | cons m members ih =>
    rw [List.forall_mem_cons] at habsent
    obtain ⟨t, htakes, hrest⟩ := fillMembers_cons_iff.mp hfill
    rw [ih habsent.2 hrest]
    cases htakes with
    | skipped => rfl
    | @filled _ a n hfind _ hfilled =>
      have hkey : a.key ≠ slot.key := fun heq => habsent.1 (congrArg some heq)
      exact (h.precedes (List.mem_of_find?_eq_some hfind) hslot hkey).keeps hfilled

/-! ## Members that make no difference -/

variable {β : Type} {finish : σ → β}

/-- A value for an open slot that makes no difference in the end. -/
def Harmless (slots : List (Slot σ)) (finish : σ → β) (key : String) (n : Node) : Prop :=
  ∃ slot, slots.find? (fun other => other.key = key) = some slot ∧
    ∀ s, slot.isFilled s = false → ∃ t, slot.fill s n = .ok t ∧ finish t = finish s

theorem Harmless.finish_eq {key : String} {n : Node} (h : Harmless slots finish key n) {s t : σ}
    (htakes : Takes slots s (some key, n) t) : finish t = finish s := by
  obtain ⟨slot, hslot, hopen⟩ := h
  cases htakes with
  | skipped hfind => exact absurd (hslot.symm.trans hfind) (by simp)
  | filled hfind hisOpen hfill =>
    obtain rfl := Option.some.inj (hslot.symm.trans hfind)
    obtain ⟨t', hfill', heq⟩ := hopen s hisOpen
    rw [hfill] at hfill'
    obtain rfl := Except.ok.inj hfill'
    exact heq

/-- A harmless member can be taken as long as its key is absent. -/
theorem Harmless.exists_takes (h : Apart slots) {key : String} {n : Node}
    (hharmless : Harmless slots finish key n) {members : List Member} {s t : σ}
    (hempty : ∀ slot ∈ slots, slot.isFilled s = false) (habsent : ∀ m ∈ members, m.1 ≠ some key)
    (hfill : fillMembers slots s members = .ok t) :
    ∃ u, Takes slots t (some key, n) u ∧ finish u = finish t := by
  obtain ⟨slot, hslot, hopen⟩ := hharmless
  obtain rfl : slot.key = key := by simpa using List.find?_some hslot
  have hmem := List.mem_of_find?_eq_some hslot
  have hisOpen : slot.isFilled t = false :=
    (isFilled_of_fillMembers h hmem habsent hfill).trans (hempty slot hmem)
  obtain ⟨u, hu, heq⟩ := hopen t hisOpen
  exact ⟨u, .filled hslot hisOpen hu, heq⟩

/-- Members that are all harmless, each with a key of its own, make no difference together. -/
theorem fillMembers_harmless (h : Apart slots) {s : σ}
    (hempty : ∀ slot ∈ slots, slot.isFilled s = false) {members : List Member}
    (hharmless : ∀ m ∈ members, ∃ key, m.1 = some key ∧ Harmless slots finish key m.2)
    (hkeys : (members.map Prod.fst).Nodup) :
    ∃ t, fillMembers slots s members = .ok t ∧ finish t = finish s := by
  induction members with
  | nil => exact ⟨s, rfl, rfl⟩
  | cons m members ih =>
    rw [List.forall_mem_cons] at hharmless
    rw [List.map_cons, List.nodup_cons] at hkeys
    obtain ⟨_, n⟩ := m
    obtain ⟨⟨key, rfl, hfirst⟩, hrest⟩ := hharmless
    obtain ⟨t, hfill, heq⟩ := ih hrest hkeys.2
    have habsent : ∀ m ∈ members, m.1 ≠ some key := fun m hm hkey =>
      hkeys.1 (List.mem_map.mpr ⟨m, hm, hkey⟩)
    obtain ⟨u, htakes, heq'⟩ := hfirst.exists_takes h hempty habsent hfill
    refine ⟨u, ?_, heq'.trans heq⟩
    rw [← List.nil_append ((some key, n) :: members), fillMembers_insert_iff h]
    exact ⟨t, hfill, htakes⟩

/-! ## Edits of a section -/

/-- An edit of the members of a section, which knows some keys, has default members, and inside
    some of whose members there are edits. -/
inductive MembersEdit (keys : List String) (IsDefault : String → Node → Prop)
    (Inside : String → Node → Node → Prop) : List Member → List Member → Prop
  | leaveOut {before behind : List Member} {key : String} {n : Node} : IsDefault key n →
      MembersEdit keys IsDefault Inside (before ++ (some key, n) :: behind) (before ++ behind)
  | spellOut {before behind : List Member} {key : String} {n : Node} : IsDefault key n →
      (∀ m ∈ before ++ behind, m.1 ≠ some key) →
      MembersEdit keys IsDefault Inside (before ++ behind) (before ++ (some key, n) :: behind)
  | reorder {members members' : List Member} : members.Perm members' →
      MembersEdit keys IsDefault Inside members members'
  | addUnknown {before behind : List Member} {key : String} {n : Node} : key ∉ keys →
      n.IsWhole →
      MembersEdit keys IsDefault Inside (before ++ behind) (before ++ (some key, n) :: behind)
  | inside {before behind : List Member} {key : String} {n n' : Node} : Inside key n n' →
      MembersEdit keys IsDefault Inside (before ++ (some key, n) :: behind)
        (before ++ (some key, n') :: behind)

/-- What edits are to the slots that the members fill. -/
structure Suits (slots : List (Slot σ)) (empty : σ) (finish : σ → β) (keys : List String)
    (IsDefault : String → Node → Prop) (Inside : String → Node → Node → Prop) : Prop where
  apart : Apart slots
  isFilled_empty : ∀ slot ∈ slots, slot.isFilled empty = false
  key_mem : ∀ slot ∈ slots, slot.key ∈ keys
  harmless : ∀ {key n}, IsDefault key n → Harmless slots finish key n
  inside : ∀ {key n n'}, Inside key n n' →
    ∃ slot, slots.find? (fun other => other.key = key) = some slot ∧
      ∀ {s t}, slot.fill s n = .ok t → slot.fill s n' = .ok t

variable {empty : σ} {keys : List String} {IsDefault : String → Node → Prop}
  {Inside : String → Node → Node → Prop}

/-- An edited section can still be read, to the same end. -/
theorem Suits.fillMembers_edit (h : Suits slots empty finish keys IsDefault Inside)
    {members members' : List Member} (hedit : MembersEdit keys IsDefault Inside members members')
    {t : σ} (hfill : fillMembers slots empty members = .ok t) :
    ∃ u, fillMembers slots empty members' = .ok u ∧ finish u = finish t := by
  cases hedit with
  | leaveOut hdefault =>
    obtain ⟨u, hu, htakes⟩ := (fillMembers_insert_iff h.apart).mp hfill
    exact ⟨u, hu, ((h.harmless hdefault).finish_eq htakes).symm⟩
  | spellOut hdefault habsent =>
    obtain ⟨u, htakes, heq⟩ :=
      (h.harmless hdefault).exists_takes h.apart h.isFilled_empty habsent hfill
    exact ⟨u, (fillMembers_insert_iff h.apart).mpr ⟨t, hfill, htakes⟩, heq⟩
  | reorder hperm => exact ⟨t, fillMembers_perm h.apart hperm hfill, rfl⟩
  | @addUnknown before behind key n hkey hwhole =>
    have hfind : slots.find? (fun slot => slot.key = key) = none := by
      rw [List.find?_eq_none]
      intro slot hslot heq
      exact hkey (of_decide_eq_true heq ▸ h.key_mem slot hslot)
    have htakes : Takes slots t (some key, n) t := .skipped hfind hwhole.skip_eq
    exact ⟨t, (fillMembers_insert_iff h.apart).mpr ⟨t, hfill, htakes⟩, rfl⟩
  | @inside before behind key n n' hinside =>
    obtain ⟨s, hs, htakes⟩ := (fillMembers_insert_iff h.apart).mp hfill
    obtain ⟨slot, hslot, hkept⟩ := h.inside hinside
    have htakes' : Takes slots s (some key, n') t := by
      cases htakes with
      | skipped hfind => exact absurd (hslot.symm.trans hfind) (by simp)
      | filled hfind hopen hfilled =>
        obtain rfl := Option.some.inj (hslot.symm.trans hfind)
        exact .filled hfind hopen (hkept hfilled)
    exact ⟨t, (fillMembers_insert_iff h.apart).mpr ⟨s, hs, htakes'⟩, rfl⟩

/-- An edit of a section that is an object. -/
inductive ObjectEdit (keys : List String) (IsDefault : String → Node → Prop)
    (Inside : String → Node → Node → Prop) : Node → Node → Prop
  | members {members members' : List Member} : MembersEdit keys IsDefault Inside members members' →
      ObjectEdit keys IsDefault Inside (.object members .closed) (.object members' .closed)

/-- A section that is an object of default members, none of them twice. -/
inductive SpellsDefaults (IsDefault : String → Node → Prop) : Node → Prop
  | members {members : List Member} :
      (∀ m ∈ members, ∃ key, m.1 = some key ∧ IsDefault key m.2) →
      (members.map Prod.fst).Nodup → SpellsDefaults IsDefault (.object members .closed)

theorem map_eq_ok_iff {ε α : Type} {f : α → β} {x : Except ε α} {b : β} :
    x.map f = .ok b ↔ ∃ a, x = .ok a ∧ f a = b := by
  cases x <;> simp [Except.map]

theorem fillSection_object (slots : List (Slot σ)) (empty : σ) (members : List Member) :
    fillSection slots empty (.object members .closed) = fillMembers slots empty members := by
  cases h : fillMembers slots empty members with
  | error flaw => simp only [fillSection, h]
  | ok t =>
    simp only [fillSection, h, Tail.use]
    rfl

/-- An edited section is read to the same end. -/
theorem Suits.map_edit (h : Suits slots empty finish keys IsDefault Inside) {n n' : Node}
    (hedit : ObjectEdit keys IsDefault Inside n n') {b : β}
    (hread : (fillSection slots empty n).map finish = .ok b) :
    (fillSection slots empty n').map finish = .ok b := by
  cases hedit with
  | members hedit =>
    rw [fillSection_object, map_eq_ok_iff] at hread ⊢
    obtain ⟨t, hfill, rfl⟩ := hread
    exact h.fillMembers_edit hedit hfill

/-- A section of defaults is read as if it were empty. -/
theorem Suits.map_defaults (h : Suits slots empty finish keys IsDefault Inside) {n : Node}
    (hspells : SpellsDefaults IsDefault n) :
    (fillSection slots empty n).map finish = .ok (finish empty) := by
  cases hspells with
  | members hdefault hkeys =>
    rw [fillSection_object, map_eq_ok_iff]
    refine fillMembers_harmless h.apart h.isFilled_empty (fun m hm => ?_) hkeys
    obtain ⟨key, hkey, hm⟩ := hdefault m hm
    exact ⟨key, hkey, h.harmless hm⟩

/-- Where `null` may stand for a section, an object is still read as one. -/
theorem Json.Node.asOptional_object_iff {α : Type} {read : Node → Except Flaw α}
    {members : List Member} {tail : Tail} {a : Option α} :
    asOptional read (.object members tail) = .ok a ↔
      ∃ b, read (.object members tail) = .ok b ∧ some b = a := by
  unfold asOptional
  cases h : read (.object members tail) <;> simp [h]

/-! ## Slots that are fields -/

section Fields

variable {α γ : Type} {keyA keyB : String} {isDroppableA isDroppableB : Bool}
  {getA : σ → Option α} {getB : σ → Option γ} {putA : σ → α → σ} {putB : σ → γ → σ}
  {readA : Node → Except Flaw α} {readB : Node → Except Flaw γ}

theorem Slot.fill_of_eq_ok_iff {s t : σ} {n : Node} :
    (Slot.of keyA isDroppableA getA putA readA).fill s n = .ok t ↔
      ∃ a, readA n = .ok a ∧ putA s a = t := by
  unfold Slot.of
  exact map_eq_ok_iff

/-- Fields that are put and got one apart from the other make slots that precede one another. -/
theorem Slot.of_precedes (hkey : keyA ≠ keyB) (hget : ∀ s a, getB (putA s a) = getB s)
    (hput : ∀ s a c, putB (putA s a) c = putA (putB s c) a) :
    (Slot.of keyA isDroppableA getA putA readA).Precedes
      (Slot.of keyB isDroppableB getB putB readB) where
  key_ne := hkey
  keeps hfill := by
    obtain ⟨a, _, rfl⟩ := fill_of_eq_ok_iff.mp hfill
    exact congrArg Option.isSome (hget _ a)
  swap hA hB := by
    obtain ⟨a, ha, rfl⟩ := fill_of_eq_ok_iff.mp hA
    obtain ⟨c, hc, rfl⟩ := fill_of_eq_ok_iff.mp hB
    exact ⟨_, fill_of_eq_ok_iff.mpr ⟨c, hc, rfl⟩, fill_of_eq_ok_iff.mpr ⟨a, ha, (hput _ a c).symm⟩⟩

theorem Slot.of_apart (hkey : keyA ≠ keyB) (hAB : ∀ s a, getB (putA s a) = getB s)
    (hBA : ∀ s c, getA (putB s c) = getA s)
    (hput : ∀ s a c, putB (putA s a) c = putA (putB s c) a) :
    (Slot.of keyA isDroppableA getA putA readA).Precedes
        (Slot.of keyB isDroppableB getB putB readB) ∧
      (Slot.of keyB isDroppableB getB putB readB).Precedes
        (Slot.of keyA isDroppableA getA putA readA) :=
  ⟨of_precedes hkey hAB hput, of_precedes (Ne.symm hkey) hBA fun s c a => (hput s a c).symm⟩

theorem Slot.of_fills (hget : ∀ s a, getA (putA s a) = some a) {s t : σ} {n : Node}
    (hfill : (Slot.of keyA isDroppableA getA putA readA).fill s n = .ok t) :
    (Slot.of keyA isDroppableA getA putA readA).isFilled t = true := by
  obtain ⟨a, _, rfl⟩ := fill_of_eq_ok_iff.mp hfill
  exact congrArg Option.isSome (hget _ a)

/-- A value is harmless if it is read as what an open field comes to. -/
theorem Harmless.of_field {n : Node} {a : α}
    (hfind : slots.find? (fun other => other.key = keyA) =
      some (Slot.of keyA isDroppableA getA putA readA))
    (hread : readA n = .ok a) (hfinish : ∀ s, getA s = none → finish (putA s a) = finish s) :
    Harmless slots finish keyA n := by
  refine ⟨_, hfind, fun s hopen => ?_⟩
  have hnone : getA s = none := Option.not_isSome_iff_eq_none.mp (Bool.eq_false_iff.mp hopen)
  exact ⟨_, Slot.fill_of_eq_ok_iff.mpr ⟨a, hread, rfl⟩, hfinish s hnone⟩

end Fields

end Crond
