import FailurePrompt.Text.Digit
import FailurePrompt.Text.Quoted

/-!
# Options on a command line

Arguments that begin with a hyphen are options. An option has short and long names; a long one may
be cut short as long as it stays unambiguous, its value may follow after an equals sign, and short
ones may be bundled. `Options.read` goes through the arguments once and lists the options given
with their values, stopping at the first argument that is a command if there are any commands. The
main statement, `isOf_of_readKinds`, is that reading neither makes up arguments nor changes their
order.
-/

namespace FailurePrompt

/-- What an option is for. -/
inductive OptionUse
  /-- It turns something on. -/
  | flag
  /-- It has a value. -/
  | value
  /-- It asks for the version of the program. -/
  | version
  /-- It asks for help. -/
  | help
  deriving Repr, DecidableEq

/-- An option of a command. -/
structure OptionSpec where
  /-- The names with their hyphens. -/
  names : List String
  use : OptionUse := .value
  /-- The permitted values; none are listed if all are. -/
  choices : List String := []
  required : Bool := false
  /-- A few words on what the option is for. -/
  explanation : String := ""
  deriving Repr, DecidableEq

namespace OptionSpec

/-- The option as it is called in messages. -/
def label (spec : OptionSpec) : String := String.intercalate "/" spec.names

/-- The option is followed by a value. -/
def hasValue (spec : OptionSpec) : Bool := spec.use = .value

/-- A long name in capitals without its hyphens, and with underscores for the ones within. -/
def capitals (name : String) : String :=
  String.ofList ((name.toList.dropWhile (· == '-')).map fun c =>
    if c = '-' then '_' else c.toUpper)

/-- What stands for the value of the option: the permitted ones, or the long name in capitals. -/
def valueName (spec : OptionSpec) : String :=
  if spec.choices = [] then capitals (spec.names.getLastD "")
  else "\x7b" ++ String.intercalate "," spec.choices ++ "\x7d"

end OptionSpec

/-- Why a command line was refused. -/
inductive UsageError
  | ambiguous (given : String) (names : List String)
  | valueMissing (label : String)
  | valueUnwanted (label value : String)
  | notAmong (label value : String) (choices : List String)
  | missing (labels : List String)
  | unrecognized (arguments : List String)
  deriving Repr, DecidableEq

/-- The wording of a refusal. -/
def UsageError.message : UsageError → String
  | .ambiguous given names =>
    let matching := String.intercalate ", " names
    s!"ambiguous option: {given} could match {matching}"
  | .valueMissing label => s!"argument {label}: expected one argument"
  | .valueUnwanted label value =>
    s!"argument {label}: ignored explicit argument {Text.quote value}"
  | .notAmong label value choices =>
    let listed := String.intercalate ", " (choices.map Text.quote)
    s!"argument {label}: invalid choice: {Text.quote value} (choose from {listed})"
  | .missing labels =>
    let listed := String.intercalate ", " labels
    s!"the following arguments are required: {listed}"
  | .unrecognized arguments =>
    let listed := String.intercalate " " arguments
    s!"unrecognized arguments: {listed}"

namespace Options

/-! ### Kinds of arguments -/

/-- What an argument is, by its look and by the options there are. -/
inductive Kind
  | plain
  /-- Two hyphens, after which nothing is an option. -/
  | separator
  /-- An option under one of its names, perhaps with a text attached to it. -/
  | option (spec : OptionSpec) (name : String) (attached : Option (List Char))
  /-- An option that there is not. -/
  | unknown
  deriving Repr, DecidableEq

/-- All names of some options with the options, in the order in which they are declared. -/
def namesOf (specs : List OptionSpec) : List (String × OptionSpec) :=
  specs.flatMap fun spec => spec.names.map fun name => (name, spec)

/-- An argument that looks like a negative number. -/
def isNegativeNumber (cs : List Char) : Bool :=
  match cs with
  | '-' :: rest =>
    let body := if rest.getLast? = some '\n' then rest.dropLast else rest
    let behind := body.dropWhile Text.isDigit
    match behind with
    | [] => !body.isEmpty
    | '.' :: fraction => !fraction.isEmpty && fraction.all Text.isDigit
    | _ => false
  | _ => false

/-- An argument divided at its first equals sign. -/
def atEquals (cs : List Char) : List Char × Option (List Char) :=
  match cs.dropWhile (· != '=') with
  | [] => (cs, none)
  | _ :: value => (cs.takeWhile (· != '='), some value)

/-- The options that an argument may be a shorter form of: a long one by its beginning, a short
one by its letter with a text attached. -/
def candidates (specs : List OptionSpec) (cs : List Char) :
    List (OptionSpec × String × Option (List Char)) :=
  match cs with
  | '-' :: '-' :: _ =>
    let (start, attached) := atEquals cs
    (namesOf specs).filterMap fun (name, spec) =>
      if start.isPrefixOf name.toList then some (spec, name, attached) else none
  | '-' :: letter :: text =>
    (namesOf specs).filterMap fun (name, spec) =>
      if name.toList = ['-', letter] then some (spec, name, some text) else none
  | _ => []

/-- What an argument is if it is none of the options under their full names. -/
def kindOfCandidates (specs : List OptionSpec) (arg : String) : Except UsageError Kind :=
  let cs := arg.toList
  match candidates specs cs with
  | [(spec, name, attached)] => .ok (.option spec name attached)
  | a :: b :: more => .error (.ambiguous arg ((a :: b :: more).map (·.2.1)))
  -- No option has a space in its name or looks like a number.
  | [] => .ok (if isNegativeNumber cs || cs.contains ' ' then .plain else .unknown)

/-- What an argument is. -/
def kindOf (specs : List OptionSpec) (arg : String) : Except UsageError Kind :=
  match arg.toList with
  | '-' :: c :: rest =>
    match (namesOf specs).lookup arg with
    | some spec => .ok (.option spec arg none)
    | none =>
      let (start, attached) := atEquals ('-' :: c :: rest)
      match attached, (namesOf specs).lookup (String.ofList start) with
      | some text, some spec => .ok (.option spec (String.ofList start) (some text))
      | _, _ => kindOfCandidates specs arg
  | _ => .ok .plain

/-- Arguments with their kinds. Nothing after two hyphens is an option. -/
def classify (specs : List OptionSpec) : List String → Except UsageError (List (String × Kind))
  | [] => .ok []
  | "--" :: rest => .ok (("--", .separator) :: rest.map fun arg => (arg, .plain))
  | arg :: rest =>
    match kindOf specs arg with
    | .error e => .error e
    | .ok kind => (classify specs rest).map ((arg, kind) :: ·)

/-! ### Bundles of short options -/

/-- An option that was given, with its value if it has one. -/
abbrev Given := OptionSpec × Option String

/-- The options in one argument. -/
structure Bundle where
  given : List Given := []
  /-- The last option, if it still waits for its value. -/
  waiting : Option OptionSpec := none

/-- A bundle with an option in front of it. -/
def Bundle.cons (spec : OptionSpec) (b : Bundle) : Bundle :=
  { b with given := (spec, none) :: b.given }

/-- An option without anything attached to it. -/
def bare (spec : OptionSpec) : Bundle :=
  if spec.hasValue then { waiting := some spec } else { given := [(spec, none)] }

/-- An option with a text attached to it. The text is the value if the option has one. That of a
short option without a value is the letters of further ones; a letter that is no option is
refused together with all that follows, and so is an empty text or one of a long option. -/
def unbundle (specs : List OptionSpec) (spec : OptionSpec) (isShort : Bool) :
    List Char → Except UsageError Bundle
  | [] =>
    if spec.hasValue then .ok { given := [(spec, some "")] }
    else .error (.valueUnwanted spec.label "")
  | c :: more =>
    if spec.hasValue then .ok { given := [(spec, some (String.ofList (c :: more)))] }
    else
      let next := if isShort then (namesOf specs).lookup (String.ofList ['-', c]) else none
      match next, more with
      | none, _ => .error (.valueUnwanted spec.label (String.ofList (c :: more)))
      | some next, [] => .ok ((bare next).cons spec)
      | some next, d :: more => (unbundle specs next true (d :: more)).map (Bundle.cons spec)

/-- A short name has a single hyphen. -/
def isShort (name : String) : Bool :=
  match name.toList with
  | '-' :: '-' :: _ => false
  | _ => true

/-- The options in an argument. -/
def bundle (specs : List OptionSpec) (spec : OptionSpec) (name : String)
    (attached : Option (List Char)) : Except UsageError Bundle :=
  match attached with
  | none => .ok (bare spec)
  | some text => unbundle specs spec (isShort name) text

/-! ### Reading -/

/-- Why reading ended early. -/
inductive Stop
  | usage (e : UsageError)
  | version
  | help
  deriving Repr, DecidableEq

/-- What was read. -/
structure Reading where
  /-- The options with their values, the first one first. -/
  given : List Given := []
  /-- The arguments that have no meaning. -/
  leftOver : List String := []
  /-- The arguments from the command on. -/
  rest : List String := []

/-- Looks at an option that was given: its value must be permitted, and it may end the reading. -/
def look (g : Given) : Except Stop Unit :=
  match g.1.use, g.2 with
  | .version, _ => .error .version
  | .help, _ => .error .help
  | .value, some value =>
    if g.1.choices ≠ [] ∧ !g.1.choices.contains value then
      .error (.usage (.notAmong g.1.label value g.1.choices))
    else .ok ()
  | _, _ => .ok ()

/-- A reading with further options in front of it, each of which is looked at. -/
def withGiven (given : List Given) (rest : Except Stop Reading) : Except Stop Reading :=
  match given with
  | [] => rest
  | g :: more =>
    match look g with
    | .error e => .error e
    | .ok () => (withGiven more rest).map fun r => { r with given := g :: r.given }

/-- The arguments themselves. -/
def texts (args : List (String × Kind)) : List String := args.map Prod.fst

/-- A reading with further arguments that have no meaning. -/
def withLeftOver (args : List String) (r : Reading) : Reading :=
  { r with leftOver := args ++ r.leftOver }

/-- Reads arguments whose kinds are known. With commands, the first plain argument begins the
command; two hyphens do so as well if anything follows them. -/
def readKinds (specs : List OptionSpec) (hasCommands : Bool) :
    List (String × Kind) → Except Stop Reading
  | [] => .ok {}
  | (arg, .plain) :: rest =>
    if hasCommands then .ok { rest := arg :: texts rest }
    else (readKinds specs hasCommands rest).map (withLeftOver [arg])
  | (arg, .separator) :: rest =>
    if hasCommands && !rest.isEmpty then .ok { rest := arg :: texts rest }
    else (readKinds specs hasCommands rest).map (withLeftOver [arg])
  | (arg, .unknown) :: rest => (readKinds specs hasCommands rest).map (withLeftOver [arg])
  | (_, .option spec name attached) :: rest =>
    match bundle specs spec name attached with
    | .error e => .error (.usage e)
    | .ok ⟨given, none⟩ => withGiven given (readKinds specs hasCommands rest)
    | .ok ⟨given, some waiting⟩ =>
      match rest with
      | (value, .plain) :: rest =>
        withGiven (given ++ [(waiting, some value)]) (readKinds specs hasCommands rest)
      | _ => .error (.usage (.valueMissing waiting.label))

/-- The options that are given change nothing else in a reading. -/
theorem exists_of_withGiven {given : List Given} {rest : Except Stop Reading} {r : Reading}
    (h : withGiven given rest = .ok r) :
    ∃ r', rest = .ok r' ∧ r.leftOver = r'.leftOver ∧ r.rest = r'.rest := by
  induction given generalizing r with
  | nil => exact ⟨r, h, rfl, rfl⟩
  | cons g more ih =>
    rw [withGiven] at h
    rcases hlook : look g with e | _
    · rw [hlook] at h
      cases h
    · rw [hlook] at h
      rcases hmore : withGiven more rest with e | r'
      · rw [hmore] at h
        cases h
      · obtain ⟨last, hrest, hleft, hlast⟩ := ih hmore
        rw [hmore] at h
        cases h
        exact ⟨last, hrest, hleft, hlast⟩

/-- The arguments are those of a reading: the rest of it ends them, and what is left over stands
before, in its order. -/
structure Reading.IsOf (r : Reading) (args : List String) : Prop where
  suffix : r.rest <:+ args
  sublist : (r.leftOver ++ r.rest).Sublist args

theorem Reading.IsOf.cons {r : Reading} {args : List String} (h : r.IsOf args) (arg : String) :
    r.IsOf (arg :: args) :=
  ⟨h.suffix.trans (List.suffix_cons arg args), h.sublist.cons arg⟩

/-- An argument that is left over comes before all that is read after it. -/
theorem isOf_of_map_withLeftOver {rest : Except Stop Reading} {r : Reading} {arg : String}
    {args : List String} (h : rest.map (withLeftOver [arg]) = .ok r)
    (hrest : ∀ r', rest = .ok r' → r'.IsOf args) : r.IsOf (arg :: args) := by
  rcases rest with e | r'
  · cases h
  · cases h
    obtain ⟨hsuffix, hsublist⟩ := hrest r' rfl
    exact ⟨hsuffix.trans (List.suffix_cons arg args), hsublist.cons_cons arg⟩

theorem isOf_of_withGiven {given : List Given} {rest : Except Stop Reading} {r : Reading}
    {args : List String} (h : withGiven given rest = .ok r)
    (hrest : ∀ r', rest = .ok r' → r'.IsOf args) : r.IsOf args := by
  obtain ⟨r', hr', hleft, hlast⟩ := exists_of_withGiven h
  obtain ⟨hsuffix, hsublist⟩ := hrest r' hr'
  exact ⟨hlast ▸ hsuffix, hleft ▸ hlast ▸ hsublist⟩

/-- Reading makes up no arguments and does not change their order: a command is read from where it
begins to the end. -/
theorem isOf_of_readKinds {specs : List OptionSpec} {hasCommands : Bool}
    {kinds : List (String × Kind)} {r : Reading} (h : readKinds specs hasCommands kinds = .ok r) :
    r.IsOf (texts kinds) := by
  fun_induction readKinds specs hasCommands kinds generalizing r with
  | case1 =>
    cases h
    exact ⟨List.suffix_refl _, List.Sublist.refl _⟩
  -- What begins a command is not looked at, nor is anything behind it.
  | case2 arg rest | case4 arg rest =>
    cases h
    exact ⟨List.suffix_refl _, List.Sublist.refl _⟩
  | case3 arg rest _ ih | case5 arg rest _ ih | case6 arg rest ih =>
    exact isOf_of_map_withLeftOver h fun _ => ih
  | case7 => cases h
  | case8 arg spec name attached rest given _ ih => exact (isOf_of_withGiven h fun _ => ih).cons arg
  | case9 arg spec name attached given waiting _ value rest ih =>
    exact ((isOf_of_withGiven h fun _ => ih).cons value).cons arg
  | case10 => cases h

/-- Reads arguments. -/
def read (specs : List OptionSpec) (hasCommands : Bool) (args : List String) :
    Except Stop Reading :=
  match classify specs args with
  | .error e => .error (.usage e)
  | .ok kinds => readKinds specs hasCommands kinds

namespace Reading

/-- The value of an option; of several the last one. -/
def value? (r : Reading) (spec : OptionSpec) : Option String :=
  (r.given.reverse.find? (·.1 = spec)).bind (·.2)

/-- An option was given. -/
def has (r : Reading) (spec : OptionSpec) : Bool := r.given.any (·.1 = spec)

/-- The required options that were not given. -/
def missing (r : Reading) (specs : List OptionSpec) : List String :=
  (specs.filter fun spec => spec.required && !r.has spec).map OptionSpec.label

end Reading

end Options

end FailurePrompt
