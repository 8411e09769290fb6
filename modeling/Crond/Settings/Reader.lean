import Crond.Json.Reader
import Crond.Settings.Basic
import Crond.Settings.Section

/-
  Reading settings from a JSON document.

  Every section has a draft, which is the section with its fields still optional. A missing field
  has its default, but a section on file logging must tell the path.
-/

namespace Crond

open Json

structure StdoutDraft where
  isEnabled : Option Bool := none
  format : Option (Option String) := none
  isColored : Option Bool := none

namespace StdoutDraft

def slots : List (Slot StdoutDraft) :=
  [.of "enabled" true (·.isEnabled) (fun d b => { d with isEnabled := some b }) Node.asBool,
   .of "format" false (·.format) (fun d f => { d with format := some f })
     (Node.asOptional Node.asText),
   .of "color" true (·.isColored) (fun d b => { d with isColored := some b }) Node.asBool]

def finish (d : StdoutDraft) : StdoutLog where
  isEnabled := d.isEnabled.getD true
  format := d.format.getD none
  isColored := d.isColored.getD true

end StdoutDraft

def StdoutLog.ofNode (n : Node) : Except Flaw StdoutLog :=
  (fillSection StdoutDraft.slots {} n).map StdoutDraft.finish

structure FileDraft where
  isEnabled : Option Bool := none
  path : Option String := none
  rotation : Option String := none
  format : Option (Option String) := none

namespace FileDraft

def slots : List (Slot FileDraft) :=
  [.of "enabled" true (·.isEnabled) (fun d b => { d with isEnabled := some b }) Node.asBool,
   .of "path" false (·.path) (fun d p => { d with path := some p }) Node.asText,
   .of "rotation" true (·.rotation) (fun d r => { d with rotation := some r }) Node.asText,
   .of "format" false (·.format) (fun d f => { d with format := some f })
     (Node.asOptional Node.asText)]

def finish (d : FileDraft) : Except Flaw FileLog :=
  match d.path with
  | none => .error .unsuitable
  | some path => .ok {
      isEnabled := d.isEnabled.getD true
      path
      rotation := d.rotation.getD "daily"
      format := d.format.getD none }

end FileDraft

def FileLog.ofNode (n : Node) : Except Flaw FileLog :=
  match fillSection FileDraft.slots {} n with
  | .error flaw => .error flaw
  | .ok d => d.finish

structure LogDraft where
  stdout : Option StdoutLog := none
  file : Option (Option FileLog) := none

namespace LogDraft

def slots : List (Slot LogDraft) :=
  [.of "stdout" true (·.stdout) (fun d l => { d with stdout := some l }) StdoutLog.ofNode,
   .of "file" false (·.file) (fun d l => { d with file := some l })
     (Node.asOptional FileLog.ofNode)]

def finish (d : LogDraft) : LogSettings where
  stdout := d.stdout.getD {}
  file := d.file.getD none

end LogDraft

def LogSettings.ofNode (n : Node) : Except Flaw LogSettings :=
  (fillSection LogDraft.slots {} n).map LogDraft.finish

structure SettingsDraft where
  name : Option String := none
  log : Option LogSettings := none

namespace SettingsDraft

def slots : List (Slot SettingsDraft) :=
  [.of "name" true (·.name) (fun d s => { d with name := some s }) Node.asText,
   .of "log" true (·.log) (fun d l => { d with log := some l }) LogSettings.ofNode]

def finish (d : SettingsDraft) : Settings where
  name := d.name.getD "secondhand"
  log := d.log.getD {}

end SettingsDraft

def Settings.ofNode (n : Node) : Except Flaw Settings :=
  (fillSection SettingsDraft.slots {} n).map SettingsDraft.finish

/-- The settings of a text, which must hold nothing behind them. -/
def Settings.read (bytes : Bytes) : Except Flaw Settings :=
  let document := Document.ofBytes bytes
  match Settings.ofNode document.root with
  | .error flaw => .error flaw
  | .ok settings => if document.isComplete then .ok settings else .error .malformed

end Crond
