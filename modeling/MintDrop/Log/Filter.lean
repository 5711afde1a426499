import MintDrop.Log.FieldValue
import MintDrop.Log.Level

/-!
# Log filters

A `Log.Directive` gives a level to what is logged under a target, in a span or with a field.
`Log.Filter.ofText` reads directives between commas, leaves out those that cannot be read, and orders the
others from the most specific to the least; `Log.Filter.text` writes them.
-/

namespace MintDrop.Log

/-- A field that what is logged must have, and the value that it must have. -/
structure FieldMatch where
  name : String
  value : Option FieldValue

/-- A level for a part of what is logged; parts that are absent do not restrict it. -/
structure Directive where
  target : Option String
  span : Option String
  field : Option FieldMatch
  level : Level

/-! ### Writing -/

/-- The text of a field. -/
def FieldMatch.text (f : FieldMatch) : String :=
  match f.value with
  | none => f.name
  | some value => f.name ++ "=" ++ value.text

namespace Directive

/-- The text of a span and a field. -/
def scopeText (d : Directive) : String :=
  let field := match d.field with
    | none => ""
    | some f => "\x7b" ++ f.text ++ "\x7d"
  if d.span.isNone ∧ d.field.isNone then "" else "[" ++ d.span.getD "" ++ field ++ "]"

/-- The text of a directive. -/
def text (d : Directive) : String :=
  let place := d.target.getD "" ++ d.scopeText
  if d.target.isNone ∧ place = "" then d.level.name else place ++ "=" ++ d.level.name

/-! ### Reading

The marks of a directive are looked for in its text without the blanks around it, but its parts are cut out of the
text with them: `text` is the whole text, and `start` is the number of bytes of the text without blanks that have
been read. -/

/-- The number of bytes of a text. -/
def size : List Char → Nat
  | [] => 0
  | c :: cs => c.utf8Size + size cs

/-- The first characters of a text, as many as some bytes hold. -/
def takeBytes : Nat → List Char → List Char
  | _, [] => []
  | n, c :: cs => if n = 0 then [] else c :: takeBytes (n - c.utf8Size) cs

/-- A text without as many characters as some bytes hold. -/
def dropBytes : Nat → List Char → List Char
  | _, [] => []
  | n, c :: cs => if n = 0 then c :: cs else dropBytes (n - c.utf8Size) cs

/-- The part of a text between two numbers of bytes. -/
def cut (text : List Char) (start stop : Nat) : String :=
  String.ofList (takeBytes (stop - start) (dropBytes start text))

/-- The field of a text between braces. -/
def field? (text : String) : Option FieldMatch :=
  if text.isEmpty then none
  else
    match text.splitOn "=" with
    | name :: value :: _ => (FieldValue.ofText? value).map fun v => ⟨name, some v⟩
    | _ => some ⟨text, none⟩

/-- The level after an equals sign, up to the end of a text; without a text everything is logged. -/
def level? (text : List Char) (start : Nat) : Option Level :=
  let word := String.ofList (dropBytes start text)
  if word.isEmpty then some .trace else Level.ofText? word

/-- The directive for a target, a span and a field, from what follows the bracket after them. -/
def afterScope? (text : List Char) (target span : Option String) (field : Option FieldMatch) (start : Nat) :
    List Char → Option Directive
  | [] => some ⟨target, span, field, .trace⟩
  | '=' :: _ => (level? text (start + 1)).map fun level => ⟨target, span, field, level⟩
  | _ => none

/-- The directive for a target, from what follows an opening bracket. -/
def scoped? (text : List Char) (target : Option String) (start : Nat) (cs : List Char) : Option Directive := do
  let (name, rest) := cs.span fun c => c ≠ ']' && c ≠ '\x7b'
  let stop := start + size name
  let span := cut text start stop
  match rest with
  | ']' :: rest => afterScope? text target (some span) none (stop + 1) rest
  | _ :: rest =>
      let (inside, rest) := rest.span (· ≠ '\x7d')
      let last := stop + 1 + size inside
      match rest with
      | _ :: ']' :: rest =>
          let field ← field? (cut text (stop + 1) last)
          afterScope? text target (if span.isEmpty then none else some span) (some field) (last + 2) rest
      | _ => none
  | [] => none

/-- Whether a target or a level may begin with a character. -/
def isStart (c : Char) : Bool := c = '-' || c = ':' || c = '_' || Text.isAlphanumeric c

/-- The directive of a text. -/
def ofText? (text : String) : Option Directive :=
  let text := text.toList
  match Text.trimChars text with
  | [] => none
  | '[' :: rest => scoped? text none 1 rest
  | c :: cs =>
      if !isStart c then none
      else
        let (head, rest) := (c :: cs).span fun c => c ≠ '=' && c ≠ '['
        let stop := size head
        match rest with
        | '=' :: _ => (level? text (stop + 1)).map fun level => ⟨some (cut text 0 stop), none, none, level⟩
        | _ :: rest => scoped? text (some (cut text 0 stop)) (stop + 1) rest
        | [] => some <| match Level.ofText? (String.ofList text) with
          | some level => ⟨none, none, none, level⟩
          | none => ⟨some (String.ofList text), none, none, .trace⟩

/-! ### Order -/

/-- Whether a directive depends on the running span. -/
def isDynamic (d : Directive) : Bool := d.span.isSome || d.field.isSome

/-- Whether a directive can be decided without the running span. -/
def isStatic (d : Directive) : Bool := d.span.isNone && d.field.all (·.value.isNone)

/-- Order of options: what is absent comes first. -/
def compareOption {α : Type} (order : α → α → Ordering) : Option α → Option α → Ordering
  | none, none => .eq
  | none, some _ => .lt
  | some _, none => .gt
  | some a, some b => order a b

/-- Order of fields: those with a value come last. -/
def compareField (f g : FieldMatch) : Ordering :=
  (compare f.value.isSome g.value.isSome)
    |>.then (compare f.name g.name)
    |>.then (compareOption FieldValue.order f.value g.value)

/-- Order of directives by how specific they are: by the length of the target, the presence of a span and
of a field, then by the target, the span and the field themselves. -/
def specificity (a b : Directive) : Ordering :=
  (compareOption compare (a.target.map String.utf8ByteSize) (b.target.map String.utf8ByteSize))
    |>.then (compare a.span.isSome b.span.isSome)
    |>.then (compare a.field.isSome b.field.isSome)
    |>.then (compareOption compare a.target b.target)
    |>.then (compareOption compare a.span b.span)
    |>.then (compareOption compareField a.field b.field)

/-- Directives with one more at its place, instead of the one that is as specific for the same part. -/
def insert (d : Directive) : List Directive → List Directive
  | [] => [d]
  | e :: es =>
      match specificity d e with
      | .gt => d :: e :: es
      | .eq => d :: es
      | .lt => e :: insert d es

end Directive

/-- Directives from the most specific to the least. -/
structure Filter where
  /-- The directives that can be decided without the running span. -/
  statics : List Directive
  /-- The directives that depend on the running span. -/
  dynamics : List Directive

namespace Filter

/-- The filter of directives, of which later ones win.  Without directives errors are logged. -/
def ofDirectives (ds : List Directive) : Filter :=
  let (dynamics, others) := ds.partition (·.isDynamic)
  let order (ds : List Directive) : List Directive := ds.foldl (fun es d => Directive.insert d es) []
  let filter : Filter := ⟨order (others ++ dynamics.filter (·.isStatic)), order dynamics⟩
  if filter.statics.isEmpty ∧ filter.dynamics.isEmpty then ⟨[⟨none, none, none, .error⟩], []⟩ else filter

/-- The filter that a text describes. -/
def ofText (text : String) : Filter := ofDirectives ((text.splitOn ",").filterMap Directive.ofText?)

/-- The text of a filter. -/
def text (f : Filter) : String := ",".intercalate ((f.statics ++ f.dynamics).map Directive.text)

/-- The target of what the program logs itself. -/
def ownTarget : String := "candy_operator"

/-- The filter that an operator asks for: directives, or a level for the program itself. -/
def ofLevel (level : Option String) : Filter :=
  match level with
  | none => ofText (ownTarget ++ "=info")
  | some text => ofText (if text.contains '=' then text else ownTarget ++ "=" ++ text)

end Filter

end MintDrop.Log
