/-!
# Arguments of a command line

Options begin with dashes and stand anywhere. A value follows its option as the next argument,
after an equals sign, or directly after a letter. After two dashes alone every argument is a word.

An option whose value is the next argument, and a run of words, are taken in when something else
follows; so a fault of what stands behind them may be found first.
-/

namespace RecordShape
attribute [local instance (high)] instPowNat

/-- Why there is no command to carry out. -/
inductive UsageError where
  | helpAsked
  | noArguments
  | missingCommand
  | unknownCommand (name : String)
  | missingArguments
  | unexpectedArgument (argument : String)
  | unexpectedValue (value label : String)
  | missingValue (label : String)
  | invalidValue (value label reason : String)
  | repeated (label : String)
  deriving DecidableEq

/-- What an option takes. -/
inductive OptionKind where
  | switch
  | help
  | text
  | path
  | size
  deriving DecidableEq

structure CommandOption where
  name : String
  letter : Option Char := none
  kind : OptionKind

namespace CommandOption

def takesValue (o : CommandOption) : Bool := o.kind ≠ .switch && o.kind ≠ .help

/-- The option as it is named in messages. -/
def label (o : CommandOption) : String :=
  if o.takesValue then
    "--" ++ o.name ++ " <" ++
      String.ofList (o.name.toUpper.toList.map fun c => if c = '-' then '_' else c) ++ ">"
  else "--" ++ o.name

end CommandOption

/-- An option that has been given. -/
inductive Argument where
  | present
  | text (value : String)
  | size (value : Nat)

/-- What has been given: options by name, and words. -/
structure Given where
  options : List (String × Argument) := []
  words : List String := []

namespace Given

def has (g : Given) (name : String) : Bool := (g.options.lookup name).isSome

def text? (g : Given) (name : String) : Option String :=
  match g.options.lookup name with
  | some (.text value) => some value
  | _ => none

def size? (g : Given) (name : String) : Option Nat :=
  match g.options.lookup name with
  | some (.size value) => some value
  | _ => none

end Given

/-- A number from `0` to `2 ^ 64 - 1` in decimal digits, perhaps with a plus sign, or why the text
is none. Digits count before what follows them. -/
def readSize (text : String) : Except String Nat :=
  let digits := match text.toList with
    | '+' :: c :: rest => c :: rest
    | all => all
  let leading := digits.takeWhile Char.isDigit
  let n := leading.foldl (fun n c => n * 10 + (c.toNat - '0'.toNat)) 0
  if text.isEmpty then .error "cannot parse integer from empty string"
  else if 2 ^ (64 : Nat) ≤ n then .error "number too large to fit in target type"
  else if leading.length < digits.length then .error "invalid digit found in string"
  else .ok n

/-- What is taken in when something else follows. -/
inductive Pending where
  | nothing
  | option (o : CommandOption) (value : Option String)
  | words (words : List String)

/-- How far a command line has been read. -/
structure Progress where
  given : Given := {}
  pending : Pending := .nothing
  onlyWords : Bool := false

/-- How words are named in messages. -/
def wordsLabel : String := "<DATA>..."

namespace Given

def add (g : Given) (o : CommandOption) (value : Option String) : Except UsageError Given :=
  let put (a : Argument) : Except UsageError Given :=
    if g.has o.name then .error (.repeated o.label)
    else .ok { g with options := g.options ++ [(o.name, a)] }
  match o.kind, value with
  | .help, _ => .error .helpAsked
  | .switch, _ => put .present
  | _, none => .error (.missingValue o.label)
  | .text, some v => put (.text v)
  | .path, some v => do
    let g ← put (.text v)
    if v.isEmpty then .error (.missingValue o.label) else .ok g
  | .size, some v =>
    match readSize v with
    | .ok n => put (.size n)
    | .error reason => do
      let _ ← put .present
      .error (.invalidValue v o.label reason)

end Given

namespace Progress

/-- Takes in what is pending. -/
def settle (p : Progress) : Except UsageError Given :=
  match p.pending with
  | .nothing => .ok p.given
  | .option o value => p.given.add o value
  | .words words =>
    if words.any String.isEmpty then .error (.missingValue wordsLabel)
    else .ok { p.given with words := p.given.words ++ words }

/-- Takes in what is pending and then an option that is complete. -/
def take (p : Progress) (o : CommandOption) (value : Option String) :
    Except UsageError Progress := do
  return { p with given := ← (← p.settle).add o value, pending := .nothing }

/-- Takes in what is pending; the value of an option is to follow. -/
def await (p : Progress) (o : CommandOption) : Except UsageError Progress := do
  return { p with given := ← p.settle, pending := .option o none }

/-- Letters after one dash: options without values, then perhaps one with its value. -/
def takeLetters (options : List CommandOption) (p : Progress) :
    List Char → Except UsageError Progress
  | [] => .ok p
  | c :: rest =>
    match options.find? fun o => o.letter = some c with
    | none => .error (.unexpectedArgument (String.ofList ['-', c]))
    | some o =>
      if !o.takesValue then do takeLetters options (← p.take o none) rest
      else
        match rest with
        | [] => p.await o
        | '=' :: value | value => p.take o (some (String.ofList value))

/-- A name after two dashes, perhaps with an equals sign and a value. -/
def takeName (options : List CommandOption) (p : Progress) (spelled : List Char) :
    Except UsageError Progress :=
  let name := spelled.takeWhile (· ≠ '=')
  let value : Option String := match spelled.drop name.length with
    | [] => none
    | _ :: value => some (String.ofList value)
  match options.find? fun o => o.name.toList = name with
  | none => .error (.unexpectedArgument (String.ofList ('-' :: '-' :: name)))
  | some o =>
    match o.takesValue, value with
    | true, none => p.await o
    | false, some value => .error (.unexpectedValue value o.label)
    | _, value => p.take o value

/-- Reads arguments up to the first word, or all of them if words are taken. -/
def read (options : List CommandOption) (takesWords : Bool) (p : Progress) :
    List String → Except UsageError (Progress × List String)
  | [] => .ok (p, [])
  | argument :: rest =>
    match p.onlyWords, argument.toList with
    | false, ['-', '-'] => read options takesWords { p with onlyWords := true } rest
    | false, '-' :: '-' :: name => do
      read options takesWords (← p.takeName options name) rest
    | false, '-' :: c :: letters => do
      read options takesWords (← p.takeLetters options (c :: letters)) rest
    | onlyWords, _ =>
      match onlyWords, p.pending with
      | false, .option o none =>
        read options takesWords { p with pending := .option o (some argument) } rest
      | _, pending =>
        if !takesWords then .ok (p, argument :: rest)
        else
          match pending with
          | .words words =>
            read options takesWords { p with pending := .words (words ++ [argument]) } rest
          | _ => do
            read options takesWords
              { p with given := ← p.settle, pending := .words [argument] } rest

end Progress
end RecordShape
