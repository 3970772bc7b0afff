import RecordShape.KeyMap
import RecordShape.Toml.Scalar

/-!
# TOML documents

A document is read line by line into a table. Tables remember how they came about, because a table
may be given once only: by a header, by dotted keys, or as a value. A table that was only passed
through on the way to another may still be given a header.
-/

namespace RecordShape.Toml

inductive Value where
  | text (value : String)
  | int (value : Int)
  | float (value : ExtendedDouble)
  | flag (value : Bool)
  | list (items : List Value)
  | table (entries : List (String × Value))

/-- A part of a document that is being read. -/
inductive Node where
  | leaf (value : Value)
  /-- A table; `implicit` if no header named it, `dotted` if dotted keys made it. -/
  | table (implicit dotted : Bool) (entries : List (String × Node))
  /-- A list of tables with headers, the last first. -/
  | tables (all : List (List (String × Node)))

abbrev Entries := List (String × Node)

mutual
def Node.value : Node → Value
  | .leaf v => v
  | .table _ _ entries => .table (entryValues entries)
  | .tables all => .list (tableValues all).reverse

def entryValues : List (String × Node) → List (String × Value)
  | [] => []
  | (key, node) :: rest => (key, node.value) :: entryValues rest

def tableValues : List (List (String × Node)) → List Value
  | [] => []
  | entries :: rest => .table (entryValues entries) :: tableValues rest
end

/-- Changes the table at a path. The tables on the way are made as needed; dotted keys may not go
through tables that a header named. -/
def updateAt (dotted : Bool) (update : Bool → Entries → Option Entries) :
    List String → Bool → Entries → Option Entries
  | [], isDotted, entries => update isDotted entries
  | key :: path, _, entries =>
    match KeyMap.find? key entries with
    | none => do
      let inner ← updateAt dotted update path dotted []
      some (KeyMap.insert key (.table true dotted inner) entries)
    | some (.leaf _) => none
    | some (.table implicit isDotted inner) =>
      if dotted && !implicit then none
      else do
        let inner ← updateAt dotted update path isDotted inner
        some (KeyMap.insert key (.table implicit isDotted inner) entries)
    | some (.tables []) => none
    | some (.tables (last :: others)) => do
      let last ← updateAt dotted update path false last
      some (KeyMap.insert key (.tables (last :: others)) entries)

/-- Adds a value under a dotted key to a table. -/
def addValue (key : List String) (value : Value) (entries : Entries) : Option Entries :=
  match key.getLast? with
  | none => none
  | some name =>
    let path := key.dropLast
    updateAt true (fun isDotted entries =>
      if isDotted = path.isEmpty || KeyMap.contains entries name then none
      else some (KeyMap.insert name (.leaf value) entries)) path false entries

/-- Opens the table of a header. -/
def openTable (key : List String) (entries : Entries) : Option Entries :=
  match key.getLast? with
  | none => none
  | some name =>
    updateAt false (fun _ entries =>
      match KeyMap.find? name entries with
      | none => some (KeyMap.insert name (.table false false []) entries)
      | some (.table true false inner) =>
        some (KeyMap.insert name (.table false false inner) entries)
      | some _ => none) key.dropLast false entries

/-- Opens one more table of a list. -/
def openListed (key : List String) (entries : Entries) : Option Entries :=
  match key.getLast? with
  | none => none
  | some name =>
    updateAt false (fun _ entries =>
      match KeyMap.find? name entries with
      | none => some (KeyMap.insert name (.tables [[]]) entries)
      | some (.tables all) => some (KeyMap.insert name (.tables ([] :: all)) entries)
      | some _ => none) key.dropLast false entries

/-- Characters of numbers, dates and words. -/
def isWordChar (c : Char) : Bool :=
  ('a' ≤ c && c ≤ 'z') || ('A' ≤ c && c ≤ 'Z') || isDigit c || "_+-.:".toList.contains c

/-- A word: a truth value, a number, or a date or time, which may have a blank inside. -/
def word? (s : List Char) : Option (Value × List Char) :=
  let word := s.takeWhile isWordChar
  let rest := s.drop word.length
  let longer := match rest with
    | ' ' :: c :: _ => isDigit c && (Calendar.date? word = some [])
    | _ => false
  if longer then
    let word := word ++ ' ' :: (rest.drop 1).takeWhile isWordChar
    (moment? word).map fun text => (.text text, s.drop word.length)
  else if word = "true".toList then some (.flag true, rest)
  else if word = "false".toList then some (.flag false, rest)
  else
    match integer? word, float? word, moment? word with
    | some n, _, _ => some (.int n, rest)
    | none, some x, _ => some (.float x, rest)
    | none, none, some text => some (.text text, rest)
    | none, none, none => none

/-- The items of a list, up to its bracket. -/
def items? (value? : List Char → Option (Value × List Char)) :
    Nat → List Char → Option (List Value × List Char)
  | 0, _ => none
  | fuel + 1, s => do
    let s ← skipLines s.length s
    match s with
    | ']' :: rest => some ([], rest)
    | s =>
      let (item, s) ← value? s
      let s ← skipLines s.length s
      match s with
      | ',' :: rest =>
        let (items, rest) ← items? value? fuel rest
        some (item :: items, rest)
      | ']' :: rest => some ([item], rest)
      | _ => none

/-- The entries of a table in braces, one at least, up to its brace. -/
def inlineEntries? (value? : List Char → Option (Value × List Char)) (entries : Entries) :
    Nat → List Char → Option (Entries × List Char)
  | 0, _ => none
  | fuel + 1, s => do
    let (key, s) ← key? s.length s
    match s with
    | '=' :: s =>
      let (value, s) ← value? (skipBlanks s)
      let entries ← addValue key value entries
      match skipBlanks s with
      | ',' :: rest => inlineEntries? value? entries fuel rest
      | '}' :: rest => some (entries, rest)
      | _ => none
    | _ => none

/-- Lists and tables nest less deep than this. -/
def nestingLimit : Nat := 80

/-- A value; lists and tables may nest less than `depth` deep. -/
def value? : Nat → List Char → Option (Value × List Char)
  | 0, _ => none
  | depth + 1, s =>
    match s with
    | '[' :: rest => (items? (value? depth) rest.length.succ rest).map fun r => (.list r.1, r.2)
    | '{' :: rest =>
      match skipBlanks rest with
      | '}' :: rest => some (.table [], rest)
      | rest =>
        (inlineEntries? (value? depth) [] rest.length.succ rest).map fun r =>
          (.table (entryValues r.1), r.2)
    | '"' :: _ | '\'' :: _ => (string? s).map fun r => (.text r.1, r.2)
    | _ => word? s

/-- Adds a value to the table that the last header opened. -/
def addBelow (header key : List String) (value : Value) (entries : Entries) : Option Entries :=
  updateAt false (fun _ entries => addValue key value entries) header false entries

/-- The lines of a document below a header. -/
def lines? (header : List String) (entries : Entries) : Nat → List Char → Option Entries
  | 0, _ => none
  | fuel + 1, s =>
    match skipBlanks s with
    | [] => some entries
    | '[' :: '[' :: rest => do
      let (key, rest) ← key? rest.length rest
      match rest with
      | ']' :: ']' :: rest =>
        let rest ← lineEnd? rest
        lines? key (← openListed key entries) fuel rest
      | _ => none
    | '[' :: rest => do
      let (key, rest) ← key? rest.length rest
      match rest with
      | ']' :: rest =>
        let rest ← lineEnd? rest
        lines? key (← openTable key entries) fuel rest
      | _ => none
    | c :: rest =>
      if c = '#' || c = '\n' || c = '\r' then do
        let rest ← lineEnd? (c :: rest)
        lines? header entries fuel rest
      else do
        let (key, rest) ← key? (c :: rest).length (c :: rest)
        match rest with
        | '=' :: rest =>
          let (value, rest) ← value? nestingLimit (skipBlanks rest)
          let rest ← lineEnd? rest
          lines? header (← addBelow header key value entries) fuel rest
        | _ => none

/-- The table that a document stands for, unless the text breaks the rules. The text may begin
with a byte order mark. -/
def document? (text : String) : Option (List (String × Value)) :=
  let s := match text.toList with
    | '\ufeff' :: rest => rest
    | s => s
  (lines? [] [] s.length.succ s).map entryValues

end RecordShape.Toml
