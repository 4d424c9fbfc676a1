import JsonSql.Json
import JsonSql.Text.Display

/-!
# Reading structures from JSON

A structure is read from an object by the names of its slots, or from a list by
their order.  Either way the slots fill a draft one after another, the first
failure ends the reading, and at the end the draft becomes the structure.
-/

namespace JsonSql

inductive ReadError where
  | wrongType (found : Json) (expected : String)
  | outOfRange (value : Int) (expected : String)
  | duplicate (slot : String)
  | missing (slot : String)
  | wrongLength (length : Nat) (expected : String)
  deriving Repr

def Json.description : Json → String
  | null => "null"
  | boolean value => "boolean `" ++ (if value then "true" else "false") ++ "`"
  | number (.integer value) => "integer `" ++ (Number.integer value).text ++ "`"
  | number (.double bits) => "floating point `" ++ (Number.double bits).text ++ "`"
  | string text => "string " ++ Text.display text
  | array _ => "sequence"
  | object _ => "map"

def ReadError.message : ReadError → String
  | wrongType found expected =>
      "invalid type: " ++ found.description ++ ", expected " ++ expected
  | outOfRange value expected =>
      "invalid value: integer `" ++ (Number.integer value).text ++ "`, expected " ++
        expected
  | duplicate slot => "duplicate field `" ++ slot ++ "`"
  | missing slot => "missing field `" ++ slot ++ "`"
  | wrongLength length expected =>
      "invalid length " ++ length.repr ++ ", expected " ++ expected

def readString : Json → Except ReadError String
  | .string text => .ok text
  | value => .error (.wrongType value "a string")

def readBoolean : Json → Except ReadError Bool
  | .boolean value => .ok value
  | value => .error (.wrongType value "a boolean")

def readUnsigned (bits : Nat) : Json → Except ReadError Nat
  | .number (.integer value) =>
      if 0 ≤ value ∧ value.toNat < Nat.pow 2 bits then .ok value.toNat
      else .error (.outOfRange value ("u" ++ bits.repr))
  | value => .error (.wrongType value ("u" ++ bits.repr))

structure Slot (δ : Type) where
  name : String
  aliases : List String
  isFilled : δ → Bool
  fill : Json → δ → Except ReadError δ

def Slot.of (name : String) (aliases : List String) (get : δ → Option β)
    (set : β → δ → δ) (read : Json → Except ReadError β) : Slot δ where
  name := name
  aliases := aliases
  isFilled draft := (get draft).isSome
  fill value draft := (read value).map fun part => set part draft

def Slot.answersTo (slot : Slot δ) (key : String) : Bool :=
  slot.name == key || slot.aliases.contains key

def fillByKey (slots : List (Slot δ)) (draft : δ) : Record → Except ReadError δ
  | [] => .ok draft
  | (key, value) :: entries =>
      match slots.find? fun slot => slot.answersTo key with
      | none => fillByKey slots draft entries
      | some slot =>
          if slot.isFilled draft then .error (.duplicate slot.name)
          else do fillByKey slots (← slot.fill value draft) entries

def fillInOrder (length : Nat) : List (Slot δ) → δ → List Json → Except ReadError δ
  | _, draft, [] => .ok draft
  | [], _, _ :: _ => .error (.wrongLength length "fewer elements in array")
  | slot :: slots, draft, item :: items => do
      fillInOrder length slots (← slot.fill item draft) items

/-- `finish` supplies defaults; its first argument names the failure for a slot
that has none. -/
structure Layout (δ α : Type) where
  name : String
  slots : List (Slot δ)
  start : δ
  finish : (String → ReadError) → δ → Except ReadError α

/-- What a list too short for the required slots is compared with. -/
def Layout.fullText (layout : Layout δ α) : String :=
  "struct " ++ layout.name ++ " with " ++ layout.slots.length.repr ++ " elements"

def Layout.read (layout : Layout δ α) : Json → Except ReadError α
  | .object entries => do
      layout.finish .missing (← fillByKey layout.slots layout.start entries)
  | .array items => do
      layout.finish (fun _ => .wrongLength items.length layout.fullText)
        (← fillInOrder items.length layout.slots layout.start items)
  | value => .error (.wrongType value ("struct " ++ layout.name))

end JsonSql
