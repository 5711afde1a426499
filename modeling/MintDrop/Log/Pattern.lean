import MintDrop.Bytes
import MintDrop.Text.Blank
import MintDrop.Text.Letters

/-!
# Patterns

A value that a log filter asks for may be a regular expression.  `Pattern.isValid` says whether a text is one.
Braces are never part of one, because they end the fields of a directive, so that there are no counted
repetitions and no named classes or characters in braces.
-/

namespace MintDrop.Log.Pattern

/-- How a part of a pattern is read. -/
structure Mode where
  /-- Whether the pattern is about characters and not about bytes. -/
  unicode : Bool
  /-- Whether blanks and comments do not count. -/
  spaced : Bool

/-- The greatest depth of a pattern. -/
def maxDepth : Nat := 250

/-- The text after blanks and comments, which end with their lines. -/
def skipSpace : (inComment : Bool) → List Char → List Char
  | _, [] => []
  | true, c :: cs => skipSpace (c ≠ '\n') cs
  | false, c :: cs =>
      if Text.isBlank c then skipSpace false cs
      else if c = '#' then skipSpace true cs
      else c :: cs

/-- The text after what does not count. -/
def Mode.skip (m : Mode) (cs : List Char) : List Char := if m.spaced then skipSpace false cs else cs

/-! ### Escapes -/

/-- What one sign of a pattern stands for. -/
inductive Sign
  | character (c : Char)
  /-- A byte that is no character. -/
  | byte (n : Nat)
  /-- A class of ASCII characters and their counterparts, or what is not in it. -/
  | set (negated : Bool)
  /-- The characters of a general category, or the others. -/
  | category
  /-- A place between characters, which may be the edge of a word. -/
  | place (isWordEdge : Bool)

/-- Whether a sign is allowed: bytes and other classes of bytes than those of ASCII characters would break
characters, and the edges of words are those of bytes. -/
def Sign.isAllowed (m : Mode) : Sign → Bool
  | .character _ => true
  | .byte _ => m.unicode
  | .set negated => m.unicode || !negated
  | .category => m.unicode
  | .place isWordEdge => !(isWordEdge && m.unicode)

/-- The number of some hexadecimal digits. -/
def hexNumber (m : Mode) : (digits : Nat) → (read : Nat) → List Char → Option (Nat × List Char)
  | 0, n, cs => some (n, m.skip cs)
  | digits + 1, n, cs =>
      match m.skip cs with
      | [] => none
      | c :: cs => do hexNumber m digits (16 * n + (← Bytes.hexValue? c)) cs

/-- The names of general categories of one letter. -/
def categories : List Char := "clmnpsz".toList

/-- The sign of an escape whose backslash has been read. -/
def escape? (m : Mode) : List Char → Option (Sign × List Char)
  | [] => none
  | c :: rest =>
      if c = 'x' ∨ c = 'u' ∨ c = 'U' then do
        let (n, rest) ← hexNumber m (if c = 'x' then 2 else if c = 'u' then 4 else 8) 0 rest
        if !n.isValidChar then none
        else if c = 'x' ∧ 0x80 ≤ n then some (.byte n, rest)
        else some (.character (Char.ofNat n), rest)
      else if c = 'p' ∨ c = 'P' then
        match m.skip rest with
        | name :: rest => if categories.contains name.toLower then some (.category, m.skip rest) else none
        | [] => none
      else if "dsw".toList.contains c then some (.set false, rest)
      else if "DSW".toList.contains c then some (.set true, rest)
      else if "Az".toList.contains c then some (.place false, rest)
      else if "bB<>".toList.contains c then some (.place true, rest)
      else if "aftnrv".toList.contains c then some (.character c, rest)
      else if c.toNat < 0x80 ∧ !c.isAlphanum then some (.character c, rest)
      else none

/-! ### Classes -/

/-- What has been read of a class: the depth of what an operator stands behind, the number of items since, and
the depth of the deepest of them. -/
structure ClassState where
  before : Option Nat
  items : Nat
  deepest : Nat

namespace ClassState

/-- A class with some items. -/
def start (items : Nat) : ClassState := ⟨none, items, 0⟩

/-- The class with one more item. -/
def push (s : ClassState) (depth : Nat) : ClassState := ⟨s.before, s.items + 1, max s.deepest depth⟩

/-- The depth of the class. -/
def depth (s : ClassState) : Nat :=
  let union := if s.items ≤ 1 then s.deepest else s.deepest + 1
  match s.before with
  | none => union
  | some d => max d union + 1

/-- The class with an operator behind it. -/
def operate (s : ClassState) : ClassState := ⟨some s.depth, 0, 0⟩

end ClassState

/-- The names of classes of ASCII characters. -/
def classNames : List String :=
  ["alnum", "alpha", "ascii", "blank", "cntrl", "digit", "graph", "lower", "print", "punct", "space", "upper",
   "word", "xdigit"]

/-- Whether a class with a name is negated, and the text after it, from the text after its bracket. -/
def namedClass? : List Char → Option (Bool × List Char)
  | ':' :: cs =>
      let (negated, cs) := match cs with
        | '^' :: cs => (true, cs)
        | cs => (false, cs)
      match cs.span (· ≠ ':') with
      | (name, ':' :: ']' :: rest) =>
          if classNames.contains (String.ofList name) then some (negated, rest) else none
      | _ => none
  | _ => none

/-- The number of hyphens at the head of a text, and the text after them. -/
def hyphens (m : Mode) : (steps : Nat) → List Char → Nat × List Char
  | steps + 1, '-' :: cs =>
      let (n, rest) := hyphens m steps (m.skip cs)
      (n + 1, rest)
  | _, cs => (0, cs)

/-- The beginning of a class after its bracket: hyphens and a closing bracket are items there. -/
def openClass? (m : Mode) (cs : List Char) : Option (ClassState × List Char) :=
  let cs := m.skip cs
  let (negated, cs) := match cs with
    | '^' :: cs => (true, m.skip cs)
    | cs => (false, cs)
  if negated ∧ !m.unicode then none
  else
    let (n, cs) := hyphens m cs.length cs
    match n, cs with
    | _, [] => none
    | 0, ']' :: cs => some (.start 1, m.skip cs)
    | n, cs => some (.start n, cs)

/-- A sign inside a class; classes of bytes have ASCII characters only. -/
def classSign? (m : Mode) : List Char → Option (Sign × List Char)
  | [] => none
  | '\\' :: cs => do
      let (sign, rest) ← escape? m cs
      match sign with
      | .place _ => none
      | .character c => if m.unicode ∨ c.toNat < 0x80 then some (sign, rest) else none
      | sign => if sign.isAllowed m then some (sign, rest) else none
  | c :: cs => if m.unicode ∨ c.toNat < 0x80 then some (.character c, cs) else none

/-- The number of the character or byte that a sign stands for. -/
def Sign.number? : Sign → Option Nat
  | .character c => some c.toNat
  | .byte n => some n
  | _ => none

/-- The text after a sign or a range inside a class. -/
def classItem? (m : Mode) (cs : List Char) : Option (List Char) := do
  let (low, rest) ← classSign? m cs
  match m.skip rest with
  | [] => none
  | '-' :: rest =>
      match m.skip rest with
      | [] => none
      | c :: after =>
          if c = ']' ∨ c = '-' then some ('-' :: rest)
          else do
            let (high, rest) ← classSign? m (c :: after)
            if (← low.number?) ≤ (← high.number?) then some rest else none
  | rest => some rest

/-- The depth of the rest of a class, and the text after it. -/
def class? (m : Mode) : (steps : Nat) → ClassState → List Char → Option (Nat × List Char)
  | 0, _, _ => none
  | steps + 1, s, cs =>
      match m.skip cs with
      | [] => none
      | ']' :: rest => some (s.depth, rest)
      | '[' :: rest =>
          match namedClass? rest with
          | some (negated, rest) => if negated ∧ !m.unicode then none else class? m steps (s.push 0) rest
          | none => do
              let (inner, rest) ← openClass? m rest
              let (d, rest) ← class? m steps inner rest
              class? m steps (s.push (d + 1)) rest
      | '&' :: '&' :: rest => class? m steps s.operate rest
      | '-' :: '-' :: rest => class? m steps s.operate rest
      | '~' :: '~' :: rest => class? m steps s.operate rest
      | cs => do class? m steps (s.push 0) (← classItem? m cs)

/-! ### Groups -/

/-- What an opening parenthesis begins. -/
inductive Group
  /-- A change of mode for the rest of the group around it. -/
  | settings (m : Mode)
  /-- A group with a mode of its own; `name` is the new name that it introduces. -/
  | part (m : Mode) (name : Option String)

/-- Whether a character may stand in the name of a group. -/
def isNameChar (isFirst : Bool) (c : Char) : Bool :=
  c = '_' || if isFirst then Text.isAlphabetic c else c = '.' || c = '[' || c = ']' || Text.isAlphanumeric c

/-- The name of a group, with the text after it. -/
def groupName? (names : List String) (cs : List Char) : Option (String × List Char) :=
  match cs.span (· ≠ '>') with
  | (c :: cs, '>' :: rest) =>
      let name := String.ofList (c :: cs)
      if isNameChar true c ∧ cs.all (isNameChar false) ∧ !names.contains name then some (name, rest) else none
  | _ => none

/-- The mode after flags, of which those after a hyphen are switched off. -/
def Mode.set (m : Mode) (flags : List Char) : Mode :=
  let (on, off) := flags.span (· ≠ '-')
  let switch (flag : Char) (old : Bool) : Bool := if on.contains flag then true else !off.contains flag && old
  ⟨switch 'u' m.unicode, switch 'x' m.spaced⟩

/-- Whether flags are known and none of them is there twice. -/
def areFlags (flags : List Char) : Bool :=
  flags.all "imsUuRx-".toList.contains && decide flags.Nodup && flags.getLast? ≠ some '-'

/-- The beginning of a group after its parenthesis. -/
def group? (m : Mode) (names : List String) (cs : List Char) : Option (Group × List Char) :=
  match m.skip cs with
  | '?' :: '!' :: _ => none
  | '?' :: '<' :: '!' :: _ => none
  | '?' :: 'P' :: '<' :: cs => (groupName? names cs).map fun (name, rest) => (.part m (some name), rest)
  | '?' :: '<' :: cs => (groupName? names cs).map fun (name, rest) => (.part m (some name), rest)
  | '?' :: cs =>
      let (flags, rest) := cs.span fun c => c ≠ ':' && c ≠ ')'
      if !areFlags flags then none
      else match rest with
        | ')' :: rest => if flags.isEmpty then none else some (.settings (m.set flags), rest)
        | _ :: rest => some (.part (m.set flags) none, rest)
        | [] => none
  | cs => some (.part m none, cs)

/-! ### Whole patterns -/

/-- What has been read of a group: the number and the depth of its alternatives, and the depths of the pieces of
the last one, the last first; changes of mode have none. -/
structure Body where
  alternatives : Nat
  deepest : Nat
  pieces : List (Option Nat)

namespace Body

/-- A group without pieces. -/
def empty : Body := ⟨0, 0, []⟩

/-- The depth of the last alternative. -/
def lastDepth (b : Body) : Nat :=
  match b.pieces with
  | [] => 0
  | [d] => d.getD 0
  | ds => ds.foldl (fun n d => max n (d.getD 0)) 0 + 1

/-- The depth of the group. -/
def depth (b : Body) : Nat := if b.alternatives = 0 then b.lastDepth else max b.deepest b.lastDepth + 1

/-- The group with one more piece. -/
def push (b : Body) (depth : Option Nat) : Body := { b with pieces := depth :: b.pieces }

/-- The group with one more alternative. -/
def next (b : Body) : Body := ⟨b.alternatives + 1, max b.deepest b.lastDepth, []⟩

/-- The group with its last piece repeated. -/
def repeat? (b : Body) : Option Body :=
  match b.pieces with
  | some d :: ds => some { b with pieces := some (d + 1) :: ds }
  | _ => none

end Body

/-- A pattern up to a closing parenthesis or its end: its depth, the names of its groups and the text after
it. -/
def body? : (steps : Nat) → Mode → (names : List String) → Body → List Char →
    Option (Nat × List String × List Char)
  | 0, _, _, _, _ => none
  | steps + 1, m, names, b, cs =>
      match m.skip cs with
      | [] => some (b.depth, names, [])
      | ')' :: rest => some (b.depth, names, ')' :: rest)
      | '|' :: rest => body? steps m names b.next rest
      | '(' :: rest => do
          match ← group? m names rest with
          | (.settings m, rest) => body? steps m names (b.push none) rest
          | (.part inner name, rest) =>
              let (d, names, rest) ← body? steps inner (name.toList ++ names) .empty rest
              match rest with
              | ')' :: rest => body? steps m names (b.push (some (d + 1))) rest
              | _ => none
      | '[' :: rest => do
          let (s, rest) ← openClass? m rest
          let (d, rest) ← class? m (rest.length + 1) s rest
          body? steps m names (b.push (some (d + 1))) rest
      | '\\' :: rest => do
          let (sign, rest) ← escape? m rest
          if sign.isAllowed m then body? steps m names (b.push (some 0)) rest else none
      | '.' :: rest => if m.unicode then body? steps m names (b.push (some 0)) rest else none
      | c :: rest =>
          if c = '\x7b' then none
          else if c = '*' ∨ c = '+' ∨ c = '?' then do
            body? steps m names (← b.repeat?) (if rest.head? = some '?' then rest.drop 1 else rest)
          else body? steps m names (b.push (some 0)) rest

/-- Whether a text is a pattern. -/
def isValid (text : String) : Bool :=
  let cs := text.toList
  match body? (cs.length + 1) ⟨true, false⟩ [] .empty cs with
  | some (d, _, []) => d ≤ maxDepth
  | _ => false

end MintDrop.Log.Pattern
