import Mathlib
import Crond.Settings.Reader
import Crond.Proofs.Settings.Members

/-
  Settings with their defaults left out or spelled out.

  In each section some members say what would hold without them (`IsDefault`), a whole section of
  such members among them. Leaving such a member out or adding it, reordering members and adding
  members that no one asks for are the edits of a section, and so are edits in a section inside it.
  The edits suit the way in which a section is read (`suits`): a section that is missing and one
  that is empty come to the same, though their defaults are written down in two places. Hence
  whatever edits are made, in any section and one after the other, the settings stay the same:
  `Settings.read_edited`.
-/

namespace Crond

open Json

/-! ## Standard output -/

namespace StdoutLog

/-- The members that say no more than the section without them. -/
inductive IsDefault : String → Node → Prop
  | enabled : IsDefault "enabled" (.bool true)
  | format : IsDefault "format" .null
  | color : IsDefault "color" (.bool true)

def Edit : Node → Node → Prop :=
  ObjectEdit ["enabled", "format", "color"] IsDefault fun _ _ _ => False

theorem apart : Apart StdoutDraft.slots where
  fills := by
    simp only [StdoutDraft.slots, List.forall_mem_cons]
    refine ⟨Slot.of_fills ?_, Slot.of_fills ?_, Slot.of_fills ?_, nofun⟩ <;> exact fun _ _ => rfl
  pairwise := by
    simp only [StdoutDraft.slots, List.pairwise_cons, List.forall_mem_cons]
    refine ⟨⟨?_, ?_, nofun⟩, ⟨?_, nofun⟩, nofun, .nil⟩ <;>
      exact Slot.of_apart (by decide) (fun _ _ => rfl) (fun _ _ => rfl) (fun _ _ _ => rfl)

theorem suits : Suits StdoutDraft.slots {} StdoutDraft.finish ["enabled", "format", "color"]
    IsDefault fun _ _ _ => False where
  apart := apart
  isFilled_empty := by
    simp only [StdoutDraft.slots, List.forall_mem_cons]
    exact ⟨rfl, rfl, rfl, nofun⟩
  key_mem := by
    simp only [StdoutDraft.slots, List.forall_mem_cons]
    exact ⟨by decide, by decide, by decide, nofun⟩
  harmless h := by
    cases h with
    | enabled => exact .of_field rfl rfl fun s h => by simp [StdoutDraft.finish, h]
    | format => exact .of_field rfl rfl fun s h => by simp [StdoutDraft.finish, h]
    | color => exact .of_field rfl rfl fun s h => by simp [StdoutDraft.finish, h]
  inside := nofun

theorem ofNode_edit {n n' : Node} (hedit : Edit n n') {l : StdoutLog} (h : ofNode n = .ok l) :
    ofNode n' = .ok l := suits.map_edit hedit h

/-- A section of defaults is what stands for a missing section. -/
theorem ofNode_defaults {n : Node} (h : SpellsDefaults IsDefault n) : ofNode n = .ok {} :=
  suits.map_defaults h

end StdoutLog

/-! ## Log files -/

namespace FileLog

inductive IsDefault : String → Node → Prop
  | enabled : IsDefault "enabled" (.bool true)
  | rotation : IsDefault "rotation" (.string (some "daily"))
  | format : IsDefault "format" .null

def Edit : Node → Node → Prop :=
  ObjectEdit ["enabled", "path", "rotation", "format"] IsDefault fun _ _ _ => False

theorem apart : Apart FileDraft.slots where
  fills := by
    simp only [FileDraft.slots, List.forall_mem_cons]
    refine ⟨Slot.of_fills ?_, Slot.of_fills ?_, Slot.of_fills ?_, Slot.of_fills ?_, nofun⟩ <;>
      exact fun _ _ => rfl
  pairwise := by
    simp only [FileDraft.slots, List.pairwise_cons, List.forall_mem_cons]
    refine ⟨⟨?_, ?_, ?_, nofun⟩, ⟨?_, ?_, nofun⟩, ⟨?_, nofun⟩, nofun, .nil⟩ <;>
      exact Slot.of_apart (by decide) (fun _ _ => rfl) (fun _ _ => rfl) (fun _ _ _ => rfl)

theorem suits : Suits FileDraft.slots {} FileDraft.finish ["enabled", "path", "rotation", "format"]
    IsDefault fun _ _ _ => False where
  apart := apart
  isFilled_empty := by
    simp only [FileDraft.slots, List.forall_mem_cons]
    exact ⟨rfl, rfl, rfl, rfl, nofun⟩
  key_mem := by
    simp only [FileDraft.slots, List.forall_mem_cons]
    exact ⟨by decide, by decide, by decide, by decide, nofun⟩
  harmless h := by
    cases h with
    | enabled => exact .of_field rfl rfl fun s h => by simp [FileDraft.finish, h]
    | rotation => exact .of_field rfl rfl fun s h => by simp [FileDraft.finish, h]
    | format => exact .of_field rfl rfl fun s h => by simp [FileDraft.finish, h]
  inside := nofun

theorem ofNode_eq_ok_iff {n : Node} {l : FileLog} :
    ofNode n = .ok l ↔ (fillSection FileDraft.slots {} n).map FileDraft.finish = .ok (.ok l) := by
  unfold ofNode
  cases fillSection FileDraft.slots {} n <;> simp [Except.map]

theorem ofNode_edit {n n' : Node} (hedit : Edit n n') {l : FileLog} (h : ofNode n = .ok l) :
    ofNode n' = .ok l :=
  ofNode_eq_ok_iff.mpr (suits.map_edit hedit (ofNode_eq_ok_iff.mp h))

theorem asOptional_edit {n n' : Node} (hedit : Edit n n') {l : Option FileLog}
    (h : Node.asOptional ofNode n = .ok l) : Node.asOptional ofNode n' = .ok l := by
  cases hedit with
  | members hmembers =>
    rw [Node.asOptional_object_iff] at h ⊢
    obtain ⟨l', hread, hl⟩ := h
    exact ⟨l', ofNode_edit (.members hmembers) hread, hl⟩

end FileLog

/-! ## Logging -/

namespace LogSettings

inductive IsDefault : String → Node → Prop
  | stdout {n : Node} : SpellsDefaults StdoutLog.IsDefault n → IsDefault "stdout" n
  | file : IsDefault "file" .null

inductive Inside : String → Node → Node → Prop
  | stdout {n n' : Node} : StdoutLog.Edit n n' → Inside "stdout" n n'
  | file {n n' : Node} : FileLog.Edit n n' → Inside "file" n n'

def Edit : Node → Node → Prop := ObjectEdit ["stdout", "file"] IsDefault Inside

theorem apart : Apart LogDraft.slots where
  fills := by
    simp only [LogDraft.slots, List.forall_mem_cons]
    refine ⟨Slot.of_fills ?_, Slot.of_fills ?_, nofun⟩ <;> exact fun _ _ => rfl
  pairwise := by
    simp only [LogDraft.slots, List.pairwise_cons, List.forall_mem_cons]
    refine ⟨⟨?_, nofun⟩, nofun, .nil⟩
    exact Slot.of_apart (by decide) (fun _ _ => rfl) (fun _ _ => rfl) (fun _ _ _ => rfl)

theorem suits : Suits LogDraft.slots {} LogDraft.finish ["stdout", "file"] IsDefault Inside where
  apart := apart
  isFilled_empty := by
    simp only [LogDraft.slots, List.forall_mem_cons]
    exact ⟨rfl, rfl, nofun⟩
  key_mem := by
    simp only [LogDraft.slots, List.forall_mem_cons]
    exact ⟨by decide, by decide, nofun⟩
  harmless h := by
    cases h with
    | stdout hspells =>
      exact .of_field rfl (StdoutLog.ofNode_defaults hspells) fun s h => by
        simp [LogDraft.finish, h]
    | file => exact .of_field rfl rfl fun s h => by simp [LogDraft.finish, h]
  inside h := by
    cases h with
    | stdout hedit =>
      refine ⟨_, rfl, fun hfill => ?_⟩
      obtain ⟨l, hread, rfl⟩ := Slot.fill_of_eq_ok_iff.mp hfill
      exact Slot.fill_of_eq_ok_iff.mpr ⟨l, StdoutLog.ofNode_edit hedit hread, rfl⟩
    | file hedit =>
      refine ⟨_, rfl, fun hfill => ?_⟩
      obtain ⟨l, hread, rfl⟩ := Slot.fill_of_eq_ok_iff.mp hfill
      exact Slot.fill_of_eq_ok_iff.mpr ⟨l, FileLog.asOptional_edit hedit hread, rfl⟩

theorem ofNode_edit {n n' : Node} (hedit : Edit n n') {l : LogSettings} (h : ofNode n = .ok l) :
    ofNode n' = .ok l := suits.map_edit hedit h

theorem ofNode_defaults {n : Node} (h : SpellsDefaults IsDefault n) : ofNode n = .ok {} :=
  suits.map_defaults h

end LogSettings

/-! ## Settings -/

namespace Settings

inductive IsDefault : String → Node → Prop
  | name : IsDefault "name" (.string (some "secondhand"))
  | log {n : Node} : SpellsDefaults LogSettings.IsDefault n → IsDefault "log" n

inductive Inside : String → Node → Node → Prop
  | log {n n' : Node} : LogSettings.Edit n n' → Inside "log" n n'

/-- An edit of a document, in any of its sections, after which its settings should be the same. -/
def Edit : Node → Node → Prop := ObjectEdit ["name", "log"] IsDefault Inside

theorem apart : Apart SettingsDraft.slots where
  fills := by
    simp only [SettingsDraft.slots, List.forall_mem_cons]
    refine ⟨Slot.of_fills ?_, Slot.of_fills ?_, nofun⟩ <;> exact fun _ _ => rfl
  pairwise := by
    simp only [SettingsDraft.slots, List.pairwise_cons, List.forall_mem_cons]
    refine ⟨⟨?_, nofun⟩, nofun, .nil⟩
    exact Slot.of_apart (by decide) (fun _ _ => rfl) (fun _ _ => rfl) (fun _ _ _ => rfl)

theorem suits :
    Suits SettingsDraft.slots {} SettingsDraft.finish ["name", "log"] IsDefault Inside where
  apart := apart
  isFilled_empty := by
    simp only [SettingsDraft.slots, List.forall_mem_cons]
    exact ⟨rfl, rfl, nofun⟩
  key_mem := by
    simp only [SettingsDraft.slots, List.forall_mem_cons]
    exact ⟨by decide, by decide, nofun⟩
  harmless h := by
    cases h with
    | name => exact .of_field rfl rfl fun s h => by simp [SettingsDraft.finish, h]
    | log hspells =>
      exact .of_field rfl (LogSettings.ofNode_defaults hspells) fun s h => by
        simp [SettingsDraft.finish, h]
  inside h := by
    cases h with
    | log hedit =>
      refine ⟨_, rfl, fun hfill => ?_⟩
      obtain ⟨l, hread, rfl⟩ := Slot.fill_of_eq_ok_iff.mp hfill
      exact Slot.fill_of_eq_ok_iff.mpr ⟨l, LogSettings.ofNode_edit hedit hread, rfl⟩

theorem ofNode_edit {n n' : Node} (hedit : Edit n n') {s : Settings} (h : ofNode n = .ok s) :
    ofNode n' = .ok s := suits.map_edit hedit h

theorem ofNode_edits {n n' : Node} (hedits : Relation.ReflTransGen Edit n n') {s : Settings}
    (h : ofNode n = .ok s) : ofNode n' = .ok s := by
  induction hedits with
  | refl => exact h
  | tail _ hedit ih => exact ofNode_edit hedit ih

theorem read_eq_ok_iff {bytes : Bytes} {s : Settings} :
    read bytes = .ok s ↔
      ofNode (Document.ofBytes bytes).root = .ok s ∧ (Document.ofBytes bytes).isComplete = true := by
  unfold read
  cases h : ofNode (Document.ofBytes bytes).root with
  | error flaw => simp [h]
  | ok s' => cases hc : (Document.ofBytes bytes).isComplete <;> simp [h, hc]

/--
Of two texts, of which the second is a document too and comes from the first by edits of any
number, in any order and in any sections, the second has the same settings as the first: the name,
what goes to standard output and to a file, and so the styles in which it is written.
-/
theorem read_edited {a b : Bytes} {s : Settings} (hread : read a = .ok s)
    (hcomplete : (Document.ofBytes b).isComplete = true)
    (hedits : Relation.ReflTransGen Edit (Document.ofBytes a).root (Document.ofBytes b).root) :
    read b = .ok s := by
  obtain ⟨hnode, _⟩ := read_eq_ok_iff.mp hread
  exact read_eq_ok_iff.mpr ⟨ofNode_edits hedits hnode, hcomplete⟩

/-- A default left out and others spelled out on all levels, a section among them, and a member
    that no one asks for. -/
theorem read_edited_allLevels :
    let a := "\x7b\"log\": \x7b\"stdout\": \x7b\"format\": \"json\", \"color\": true\x7d\x7d\x7d"
    let b := "\x7b\"x\":[null,\x7b\"y\":\"\"\x7d],\"log\":\x7b\"stdout\":\x7b\"enabled\":true," ++
      "\"format\":\"json\"\x7d,\"file\":null\x7d,\"name\":\"secondhand\"\x7d"
    let s : Settings := { log := { stdout := { format := some "json" } } }
    read a.toUTF8.toList = .ok s ∧ (Document.ofBytes b.toUTF8.toList).isComplete = true ∧
      Relation.ReflTransGen Edit (Document.ofBytes a.toUTF8.toList).root
        (Document.ofBytes b.toUTF8.toList).root ∧
      read b.toUTF8.toList = .ok s := by
  intro a b s
  let json : Member := (some "format", .string (some "json"))
  let unknown : Member := (some "x", .array [.null, .object [(some "y", .string (some ""))] .closed]
    .closed)
  let name : Member := (some "name", .string (some "secondhand"))
  let log (members : List Member) : Member := (some "log", .object members .closed)
  let stdout (members : List Member) : Member := (some "stdout", .object members .closed)
  have ha : Document.ofBytes a.toUTF8.toList =
      ⟨.object [log [stdout [json, (some "color", .bool true)]]] .closed, true⟩ := by cbv
  have hb : Document.ofBytes b.toUTF8.toList =
      ⟨.object [unknown, log [stdout [(some "enabled", .bool true), json], (some "file", .null)],
        name] .closed, true⟩ := by cbv
  have hread : read a.toUTF8.toList = .ok s := by
    rw [read_eq_ok_iff, ha]
    exact ⟨rfl, rfl⟩
  have hcomplete : (Document.ofBytes b.toUTF8.toList).isComplete = true := by rw [hb]
  have hedits : Relation.ReflTransGen Edit (Document.ofBytes a.toUTF8.toList).root
      (Document.ofBytes b.toUTF8.toList).root := by
    rw [ha, hb]
    have hlog : ∀ {n n' : Node}, LogSettings.Edit n n' →
        Edit (.object [(some "log", n)] .closed) (.object [(some "log", n')] .closed) :=
      fun h => .members (@MembersEdit.inside _ _ _ [] [] _ _ _ (.log h))
    have hstdout : ∀ {n n' : Node}, StdoutLog.Edit n n' → LogSettings.Edit
        (.object [(some "stdout", n)] .closed) (.object [(some "stdout", n')] .closed) :=
      fun h => .members (@MembersEdit.inside _ _ _ [] [] _ _ _ (.stdout h))
    have hcolor : StdoutLog.Edit (.object [json, (some "color", .bool true)] .closed)
        (.object [json] .closed) := .members (@MembersEdit.leaveOut _ _ _ [json] [] _ _ .color)
    have henabled : StdoutLog.Edit (.object [json] .closed)
        (.object [(some "enabled", .bool true), json] .closed) :=
      .members (@MembersEdit.spellOut _ _ _ [] [json] _ _ .enabled (by simp [json]))
    have hfile : LogSettings.Edit
        (.object [stdout [(some "enabled", .bool true), json]] .closed)
        (.object [stdout [(some "enabled", .bool true), json], (some "file", .null)] .closed) :=
      .members (@MembersEdit.spellOut _ _ _ [stdout _] [] _ _ .file (by simp [stdout]))
    let logged := log [stdout [(some "enabled", .bool true), json], (some "file", .null)]
    have hname : Edit (.object [logged] .closed) (.object [name, logged] .closed) :=
      .members (@MembersEdit.spellOut _ _ _ [] [logged] _ _ .name (by simp [logged, log]))
    have horder : Edit (.object [name, logged] .closed) (.object [logged, name] .closed) :=
      .members (.reorder (List.Perm.swap _ _ _))
    have hunknown : Edit (.object [logged, name] .closed)
        (.object [unknown, logged, name] .closed) := by
      have hobject : Node.IsWhole (.object [(some "y", .string (some ""))] .closed) :=
        .object (List.forall_mem_singleton.mpr (.string _))
      have hwhole : Node.IsWhole unknown.2 :=
        .array (List.forall_mem_cons.mpr ⟨.null, List.forall_mem_singleton.mpr hobject⟩)
      exact .members (@MembersEdit.addUnknown _ _ _ [] [logged, name] _ _ (by decide) hwhole)
    exact .head (hlog (hstdout hcolor)) <| .head (hlog (hstdout henabled)) <|
      .head (hlog hfile) <| .head hname <| .head horder <| .single hunknown
  exact ⟨hread, hcomplete, hedits, read_edited hread hcomplete hedits⟩

end Settings

end Crond
