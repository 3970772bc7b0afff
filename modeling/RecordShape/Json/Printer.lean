import RecordShape.Json.Basic
import RecordShape.Decimal.Shortest

/-!
# JSON text

A layout says which blanks stand between the parts of a value. `Json.compact` writes none,
`Json.pretty` a line for each member or element, indented by two blanks a level. Strings are
written as they are but for the quote, the backslash and the control characters.
-/

namespace RecordShape

/-- A character inside a quoted string. -/
def Json.escape (c : Char) : String :=
  if c = '"' then "\\\""
  else if c = '\\' then "\\\\"
  else if c = '\x08' then "\\b"
  else if c = '\x0c' then "\\f"
  else if c = '\n' then "\\n"
  else if c = '\r' then "\\r"
  else if c = '\t' then "\\t"
  else if c.toNat < 0x20 then
    ("\\u00".push (Nat.digitChar (c.toNat / 16))).push (Nat.digitChar (c.toNat % 16))
  else String.singleton c

def Json.quote (s : String) : String :=
  (s.toList.foldl (fun text c => text ++ Json.escape c) "\"").push '"'

def Number.write : Number → String
  | .int n => toString n
  | .double x => DecimalLayout.json.write x

/-- The blanks before a part of a value at some level, and those before the value of a member. -/
structure Json.Layout where
  gap : Nat → List Char
  space : List Char
  gap_blank : ∀ level, ∀ c ∈ gap level, c = ' ' ∨ c = '\n' := by simp
  space_blank : ∀ c ∈ space, c = ' ' ∨ c = '\n' := by simp

namespace Json.Layout

def compact : Layout where
  gap _ := []
  space := []

/-- Each part has a line of its own. -/
def pretty : Layout where
  gap level := '\n' :: List.replicate (2 * level) ' '
  space := [' ']

/-- Parts at the next level, with commas between them, in brackets. -/
def block (layout : Layout) (start stop : String) (level : Nat) (parts : List String) : String :=
  if parts.isEmpty then start ++ stop
  else
    let gap := String.ofList (layout.gap (level + 1))
    start ++ gap ++ ("," ++ gap).intercalate parts ++ String.ofList (layout.gap level) ++ stop

mutual
def write (layout : Layout) (level : Nat) : Json → String
  | null => "null"
  | bool b => if b then "true" else "false"
  | num n => n.write
  | str s => quote s
  | arr items => layout.block "[" "]" level (writeItems layout (level + 1) items)
  | obj members => layout.block "\x7b" "\x7d" level (writeMembers layout (level + 1) members)

def writeItems (layout : Layout) (level : Nat) : List Json → List String
  | [] => []
  | x :: xs => write layout level x :: writeItems layout level xs

def writeMembers (layout : Layout) (level : Nat) : List (String × Json) → List String
  | [] => []
  | (k, x) :: xs =>
    (quote k ++ ":" ++ String.ofList layout.space ++ write layout level x) ::
      writeMembers layout level xs
end

theorem toList_block_nil (layout : Layout) (start stop : String) (level : Nat) :
    (layout.block start stop level []).toList = start.toList ++ stop.toList :=
  String.toList_append

theorem toList_block_cons (layout : Layout) (start stop : String) (level : Nat) (part : String)
    (parts : List String) : (layout.block start stop level (part :: parts)).toList =
      start.toList ++ (layout.gap (level + 1) ++ (part.toList ++
        ((parts.flatMap fun part => ',' :: (layout.gap (level + 1) ++ part.toList)) ++
          (layout.gap level ++ stop.toList)))) := by
  have hjoined (gap : List Char) : (("," ++ String.ofList gap).intercalate (part :: parts)).toList =
      part.toList ++ parts.flatMap fun part => ',' :: (gap ++ part.toList) := by
    induction parts generalizing part with
    | nil => rw [String.intercalate_singleton, List.flatMap_nil, List.append_nil]
    | cons next parts ih =>
      rw [String.intercalate_cons_cons, String.toList_append, ih, List.flatMap_cons]
      simp
  simp only [block, List.isEmpty_cons, Bool.false_eq_true, if_false, String.toList_append, hjoined,
    String.toList_ofList, List.append_assoc]

theorem exists_toList_block (layout : Layout) (start stop : String) (level : Nat)
    (parts : List String) :
    ∃ rest, (layout.block start stop level parts).toList = start.toList ++ rest := by
  cases parts with
  | nil => exact ⟨_, layout.toList_block_nil start stop level⟩
  | cons part parts => exact ⟨_, layout.toList_block_cons start stop level part parts⟩

theorem writeItems_eq (layout : Layout) (level : Nat) (items : List Json) :
    layout.writeItems level items = items.map (layout.write level) := by
  induction items with
  | nil => rfl
  | cons first rest ih => rw [writeItems, ih, List.map_cons]

theorem writeMembers_eq (layout : Layout) (level : Nat) (members : List (String × Json)) :
    layout.writeMembers level members = members.map fun member =>
      quote member.1 ++ ":" ++ String.ofList layout.space ++ layout.write level member.2 := by
  induction members with
  | nil => rfl
  | cons first rest ih => rw [writeMembers, ih, List.map_cons]

end Json.Layout

namespace Json

def compact (value : Json) : String := Layout.compact.write 0 value

def pretty (value : Json) : String := Layout.pretty.write 0 value

end Json
end RecordShape
