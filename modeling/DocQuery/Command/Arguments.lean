/-!
Arguments of the command line. The first one names the command. Behind it stand the query and the
options in any order; an option's value may be attached to it, and short options may be joined
behind one dash. After `--` an argument is no option.
-/

namespace DocQuery

inductive Command where
  | tokens (query : String)
  | parse (query : String) (pretty : Bool)
  | run (query container : String) (input : Option String) (ignoreCase pretty : Bool)
  deriving DecidableEq

namespace Command

inductive Setting where
  | container
  | input
  | pretty
  | ignoreCase
  deriving DecidableEq

namespace Setting

def takesValue : Setting → Bool
  | .container | .input => true
  | .pretty | .ignoreCase => false

def long : Setting → String
  | .container => "container"
  | .input => "input"
  | .pretty => "pretty"
  | .ignoreCase => "ignore-case"

def short? : Setting → Option Char
  | .container => some 'c'
  | .input => some 'i'
  | .pretty => some 'p'
  | .ignoreCase => none

end Setting

/-- The arguments read so far. `awaiting` is an option whose value comes next, and from `literal`
on an argument is no option. -/
structure Arguments where
  query : Option String := none
  container : Option String := none
  input : Option String := none
  pretty : Bool := false
  ignoreCase : Bool := false
  awaiting : Option Setting := none
  literal : Bool := false

namespace Arguments

def setQuery? (given : Arguments) (value : String) : Option Arguments :=
  if given.query.isSome then none else some { given with query := some value }

def setValue? (given : Arguments) (setting : Setting) (value : String) : Option Arguments :=
  match setting with
  | .container =>
      if given.container.isSome then none else some { given with container := some value }
  | .input => if given.input.isSome then none else some { given with input := some value }
  | .pretty | .ignoreCase => none

def setFlag? (given : Arguments) (setting : Setting) : Option Arguments :=
  match setting with
  | .pretty => if given.pretty then none else some { given with pretty := true }
  | .ignoreCase => if given.ignoreCase then none else some { given with ignoreCase := true }
  | .container | .input => none

def readLong? (given : Arguments) (setting : Setting) : Option String → Option Arguments
  | some value => given.setValue? setting value
  | none =>
      if setting.takesValue then some { given with awaiting := some setting }
      else given.setFlag? setting

/-- Joined short options. What stands behind an option that takes a value is its value, without
an equals sign in front. -/
def readShort? (allowed : List Setting) (given : Arguments) : List Char → Option Arguments
  | [] => some given
  | c :: rest =>
      match allowed.find? (·.short? == some c) with
      | none => none
      | some setting =>
          if setting.takesValue then
            match rest with
            | [] => some { given with awaiting := some setting }
            | '=' :: value => given.setValue? setting (String.ofList value)
            | value => given.setValue? setting (String.ofList value)
          else (given.setFlag? setting).bind (readShort? allowed · rest)

def splitLong : List Char → List Char × Option (List Char)
  | [] => ([], none)
  | '=' :: value => ([], some value)
  | c :: rest => (c :: (splitLong rest).1, (splitLong rest).2)

def read? (allowed : List Setting) (given : Arguments) (argument : String) : Option Arguments :=
  if given.literal then given.setQuery? argument
  else match given.awaiting, argument.toList with
    | none, ['-', '-'] => some { given with literal := true }
    | none, '-' :: '-' :: option =>
        let (name, value) := splitLong option
        match allowed.find? (·.long == String.ofList name) with
        | none => none
        | some setting => given.readLong? setting (value.map String.ofList)
    | none, '-' :: c :: rest => readShort? allowed given (c :: rest)
    | none, _ => given.setQuery? argument
    | some _, '-' :: _ :: _ => none
    | some setting, _ => { given with awaiting := none }.setValue? setting argument

def readAll? (allowed : List Setting) (arguments : List String) : Option Arguments := do
  let given ← arguments.foldlM (read? allowed) {}
  if given.awaiting.isSome then none else some given

end Arguments

def ofArguments? : List String → Option Command
  | [] => none
  | name :: arguments =>
      if name = "tokens" then do
        let given ← Arguments.readAll? [] arguments
        some (.tokens (← given.query))
      else if name = "parse" then do
        let given ← Arguments.readAll? [.pretty] arguments
        some (.parse (← given.query) given.pretty)
      else if name = "run" then do
        let given ← Arguments.readAll? [.container, .input, .pretty, .ignoreCase] arguments
        some (.run (← given.query) (← given.container) given.input given.ignoreCase given.pretty)
      else none

end Command

end DocQuery
