/-!
# Options of a command line

`Options.scan` reads the options at the head of a command line: long ones behind two hyphens, short ones
behind one, each with its value in the same word or in the next one.  A value in a word of its own is checked
when the next option comes, or by `Options.settle` at the end.
-/

namespace MintDrop.Cli

/-- Why reading a command line stopped early. -/
inductive Stop
  /-- Help or the version is to be shown. -/
  | shown
  /-- The command line is wrong. -/
  | wrong
  deriving DecidableEq

/-- An option that a command knows. -/
structure Flag where
  name : String
  short : Option Char
  hasValue : Bool
  /-- Whether a value is allowed. -/
  accepts : String → Bool

namespace Flag

/-- An option with a text as its value. -/
def text (name : String) (short : Option Char) : Flag := ⟨name, short, true, fun _ => true⟩

/-- An option with a path as its value. -/
def path (name : String) (short : Option Char) : Flag := ⟨name, short, true, fun s => !s.isEmpty⟩

/-- An option without a value. -/
def switch (name : String) (short : Option Char) : Flag := ⟨name, short, false, fun _ => true⟩

end Flag

/-- The values of options by name. -/
abbrev Values := List (String × String)

/-- The options that were read. -/
structure Options where
  /-- The values that were checked. -/
  values : Values
  /-- The last option, if its value is not checked yet. -/
  pending : Option (Flag × String)

namespace Options

/-- No options. -/
def empty : Options := ⟨[], none⟩

/-- The values with one more, which must be allowed and the first of its option. -/
def add (values : Values) (f : Flag) (value : String) : Except Stop Values :=
  if (values.lookup f.name).isSome ∨ !f.accepts value then .error .wrong
  else .ok ((f.name, value) :: values)

/-- The values of all options, checked. -/
def settle (options : Options) : Except Stop Values :=
  match options.pending with
  | some (f, value) => add options.values f value
  | none => .ok options.values

/-- The value of an option in the next word, which must not look like an option, and the other words. -/
def nextValue : List String → Except Stop (String × List String)
  | [] => .error .wrong
  | word :: rest => if word.startsWith "-" ∧ word ≠ "-" then .error .wrong else .ok (word, rest)

/-- The options after one with a value in its own word, or none, and the words after it. -/
def take (shown : List String) (options : Options) (f : Flag) (attached : Option String)
    (rest : List String) : Except Stop (Options × List String) := do
  if !f.hasValue ∧ attached.isSome then throw .wrong
  let values ← options.settle
  match attached with
  | some value => pure (⟨← add values f value, none⟩, rest)
  | none =>
      if f.hasValue then
        let (value, rest) ← nextValue rest
        pure (⟨values, some (f, value)⟩, rest)
      else if shown.contains f.name then throw .shown
      else pure (⟨← add values f "", none⟩, rest)

/-- The options after a word that is one, and the words after it. -/
def word (flags : List Flag) (shown : List String) (options : Options) (cs : List Char)
    (rest : List String) : Except Stop (Options × List String) :=
  match cs with
  | '-' :: '-' :: cs =>
      let (name, tail) := cs.span (· ≠ '=')
      let attached := if tail.isEmpty then none else some (String.ofList (tail.drop 1))
      match flags.find? (·.name = String.ofList name) with
      | some f => take shown options f attached rest
      | none => .error .wrong
  | '-' :: c :: cs =>
      match flags.find? (·.short = some c) with
      | none => .error .wrong
      | some f =>
          if f.hasValue then
            let attached := match cs with
              | [] => none
              | '=' :: value => some (String.ofList value)
              | value => some (String.ofList value)
            take shown options f attached rest
          else take shown options f none rest
  | _ => .error .wrong

/-- The options up to the first word that is none, with that word and the words after it; options named in
`shown` end the reading. -/
def scan (flags : List Flag) (shown : List String) : (steps : Nat) → Options → List String →
    Except Stop (Options × List String)
  | _, options, [] => .ok (options, [])
  | 0, _, _ :: _ => .error .wrong
  | steps + 1, options, w :: rest =>
      if w = "--" then if rest.isEmpty then .ok (options, []) else .error .wrong
      else if w.startsWith "-" ∧ w ≠ "-" then do
        let (options, rest) ← word flags shown options w.toList rest
        scan flags shown steps options rest
      else .ok (options, w :: rest)

end Options

end MintDrop.Cli
