import Crond.Json.Node

/-
  Sections of a settings document.

  A section is a record whose fields are its slots. It is written as an object, with members in
  any order, or as an array, with the slots in their own order. Members of an object that no slot
  asks for are skipped, and a slot is filled at most once. An array may stop early only where the
  remaining slots allow it, and holds no surplus element.
-/

namespace Crond

open Json

/-- A slot of a record under construction. -/
structure Slot (σ : Type) where
  key : String
  isFilled : σ → Bool
  fill : σ → Node → Except Flaw σ
  /-- Whether the slot may be missing at the end of an array. -/
  isDroppable : Bool

/-- A slot that keeps its value as an optional field of the record. -/
def Slot.of {σ α : Type} (key : String) (isDroppable : Bool) (get : σ → Option α)
    (put : σ → α → σ) (read : Node → Except Flaw α) : Slot σ where
  key := key
  isFilled s := (get s).isSome
  fill s n := (read n).map (put s)
  isDroppable := isDroppable

variable {σ : Type}

/-- Fills the slots from the members of an object. -/
def fillMembers (slots : List (Slot σ)) : σ → List (Quoted × Node) → Except Flaw σ
  | s, [] => .ok s
  | _, (none, _) :: _ => .error .malformed
  | s, (some key, node) :: members =>
    match slots.find? fun slot => slot.key = key with
    | none =>
      match node.skip with
      | .error flaw => .error flaw
      | .ok _ => fillMembers slots s members
    | some slot =>
      if slot.isFilled s then .error .unsuitable
      else
        match slot.fill s node with
        | .error flaw => .error flaw
        | .ok s' => fillMembers slots s' members

def Json.Tail.use : Tail → Except Flaw Unit
  | .closed => .ok ()
  | .broken used _ _ => .error used

/-- Fills the slots from the elements of an array. -/
def fillElements : List (Slot σ) → σ → List Node → Tail → Except Flaw σ
  | [], s, [], .closed => .ok s
  | [], _, [], .broken used _ afterComma => .error (if afterComma then .malformed else used)
  | [], _, _ :: _, _ => .error .malformed
  | slot :: slots, s, node :: nodes, tail =>
    match slot.fill s node with
    | .error flaw => .error flaw
    | .ok s' => fillElements slots s' nodes tail
  | slots, s, [], .closed =>
    if slots.all Slot.isDroppable then .ok s else .error .unsuitable
  | _ :: _, _, [], .broken used _ _ => .error used

/-- Fills the slots of an empty record from an object or an array. -/
def fillSection (slots : List (Slot σ)) (empty : σ) : Node → Except Flaw σ
  | .object members tail =>
    match fillMembers slots empty members with
    | .error flaw => .error flaw
    | .ok s => tail.use.map fun _ => s
  | .array elements tail => fillElements slots empty elements tail
  | n => .error n.mismatch

end Crond
