import ProcessStubs.Text.Similarity
import ProcessStubs.Text.Split

/-!
# Options

Arguments that begin with a hyphen name options. A long option stands alone, and its value follows
an equals sign or is the next argument. Short options are letters that can be written together; the
value of one is the rest of its argument or the next argument. After two hyphens there are no more
options.

Main definition: `readOptions` gives the options in order and the other arguments.
-/

namespace ProcessStubs.CommandLine

/-- An option: what it stands for, its names, and whether it takes a value. -/
structure OptionForm (α : Type) where
  stands : α
  letters : List Char
  words : List String
  takesValue : Bool

/-- Why options cannot be read. The names are given as they were written; for a long one that is
unknown, `close` are the long names that are close to it. -/
inductive OptionFault where
  | unknown (name : String) (close : List String)
  | missingValue (name : String)
  | unexpectedValue (name : String)
deriving Repr, DecidableEq

/-- An option that was given, with its value if it takes one. -/
structure GivenOption (α : Type) where
  stands : α
  value : Option String
deriving Repr, DecidableEq

/-- What one argument says: options, and perhaps a last one that the next argument is the value
of. -/
structure ReadArgument (α : Type) where
  given : List (GivenOption α)
  waiting : Option (α × String)

variable {α : Type}

/-- Whether an argument names options. -/
def isOptionArgument (arg : String) : Bool :=
  match arg.toList with
  | '-' :: _ :: _ => true
  | _ => false

/-- Reads a long option, with what follows its equals sign. -/
def readWord (forms : List (OptionForm α)) (name : String) (value : Option String) :
    Except OptionFault (ReadArgument α) :=
  match forms.find? (·.words.contains name) with
  | none => .error (.unknown name (Text.closeMatches name (forms.flatMap OptionForm.words)))
  | some form =>
    match value with
    | none =>
      if form.takesValue then .ok ⟨[], some (form.stands, name)⟩
      else .ok ⟨[⟨form.stands, none⟩], none⟩
    | some v =>
      if form.takesValue then .ok ⟨[⟨form.stands, some v⟩], none⟩
      else .error (.unexpectedValue name)

/-- Reads short options. -/
def readLetters (forms : List (OptionForm α)) : List Char → Except OptionFault (ReadArgument α)
  | [] => .ok ⟨[], none⟩
  | c :: rest =>
    let name := String.ofList ['-', c]
    match forms.find? (·.letters.contains c) with
    | none => .error (.unknown name [])
    | some form =>
      if form.takesValue then
        if rest.isEmpty then .ok ⟨[], some (form.stands, name)⟩
        else .ok ⟨[⟨form.stands, some (String.ofList rest)⟩], none⟩
      else do
        let more ← readLetters forms rest
        return { more with given := ⟨form.stands, none⟩ :: more.given }

/-- Reads an argument that names options. -/
def readArgument (forms : List (OptionForm α)) (arg : String) :
    Except OptionFault (ReadArgument α) :=
  match arg.toList with
  | '-' :: '-' :: cs =>
    let name := String.ofList ('-' :: '-' :: cs.takeWhile (· != '='))
    match cs.dropWhile (· != '=') with
    | [] => readWord forms name none
    | _ :: value => readWord forms name (some (String.ofList value))
  | _ :: cs => readLetters forms cs
  | [] => .ok ⟨[], none⟩

/-- Reads options and gives them in order with the other arguments. Unless options may stand after
other arguments, the first other argument ends them. -/
def readOptions (forms : List (OptionForm α)) (anywhere : Bool) :
    List String → Except OptionFault (List (GivenOption α) × List String)
  | [] => .ok ([], [])
  | arg :: rest =>
    if arg = "--" then .ok ([], rest)
    else if isOptionArgument arg then do
      let read ← readArgument forms arg
      match read.waiting, rest with
      | none, rest =>
        let (given, others) ← readOptions forms anywhere rest
        return (read.given ++ given, others)
      | some (_, name), [] => throw (.missingValue name)
      | some (stands, _), value :: rest =>
        let (given, others) ← readOptions forms anywhere rest
        return (read.given ++ ⟨stands, some value⟩ :: given, others)
    else if anywhere then do
      let (given, others) ← readOptions forms anywhere rest
      return (given, arg :: others)
    else .ok ([], arg :: rest)

variable [DecidableEq α]

/-- Whether an option was given. -/
def isGiven (given : List (GivenOption α)) (o : α) : Bool := given.any (·.stands = o)

/-- How often an option was given. -/
def countGiven (given : List (GivenOption α)) (o : α) : Nat := given.countP (·.stands = o)

/-- The values an option was given with. -/
def valuesOf (given : List (GivenOption α)) (o : α) : List String :=
  (given.filter (·.stands = o)).filterMap GivenOption.value

/-- The value an option was given with last. -/
def valueOf? (given : List (GivenOption α)) (o : α) : Option String :=
  (valuesOf given o).getLast?

/-- The options that were given, each once, in the order in which they first were. -/
def givenOnce (given : List (GivenOption α)) : List α :=
  (given.map GivenOption.stands).eraseDups

end ProcessStubs.CommandLine
