import MintDrop.Json.Reader
import MintDrop.Json.Writer
import MintDrop.Progress.Basic

/-!
# The text of progress

`Progress.toJson` writes progress as JSON without blanks and `Progress.ofJson` reads it, also with missing
parts, which have defaults.
-/

namespace MintDrop.Progress

/-! ### Writing -/

/-- The written form of an item. -/
def writeItem (item : Item) : List Char :=
  Json.writeObject
    [("name", Json.writeString item.name), ("uri", Json.writeString item.uri),
      ("onChain", Json.writeBool item.onChain), ("verifyRun", Json.writeBool item.verifyRun)]

/-- The written form of the identity, of which missing parts are left out. -/
def writeEntry (entry : RecordEntry) : List Char :=
  let part (name : String) (value : Option String) : List (String × List Char) :=
    (value.map fun s => (name, Json.writeString s)).toList
  Json.writeObject (part "uuid" entry.tag ++ part "candyMachine" entry.address)

/-- The written form of the items, by ascending index. -/
def writeItems (items : Items) : List Char :=
  Json.writeObject (items.entries.map fun (index, item) => (toString index.toNat, writeItem item))

/-- The text of progress. -/
def toJson (p : Progress) : String :=
  String.ofList <| Json.writeObject
    [("program", writeEntry p.program), ("items", writeItems p.items),
      ("env", Json.writeString p.env), ("cacheName", Json.writeString p.cacheName)]

/-! ### Reading -/

/-- Reads the identity. -/
def entryReader : Json.Reader RecordEntry :=
  Json.fields "struct ProgramEntry"
    [Json.field "uuid" .defaulted (Json.optional Json.text) fun e s => { e with tag := s },
      Json.field "candyMachine" .defaulted (Json.optional Json.text) fun e s => { e with address := s }]
    ⟨none, none⟩

/-- Reads an item. -/
def itemReader : Json.Reader Item :=
  Json.fields "struct ItemRecord"
    [Json.field "name" .required Json.text fun i s => { i with name := s },
      Json.field "uri" .required Json.text fun i s => { i with uri := s },
      Json.field "onChain" .defaulted Json.boolean fun i b => { i with onChain := b },
      Json.field "verifyRun" .defaulted Json.boolean fun i b => { i with verifyRun := b }]
    (.fresh "" "")

/-- Reads progress. -/
def reader : Json.Reader Progress :=
  Json.fields "struct DeploymentState"
    [Json.field "program" .defaulted entryReader fun p e => { p with program := e },
      Json.field "items" .defaulted (Json.numbered itemReader) fun p es =>
        { p with items := .ofList es },
      Json.field "env" .defaulted Json.text fun p s => { p with env := s },
      Json.field "cacheName" .defaulted Json.text fun p s => { p with cacheName := s }]
    blank

/-- The progress that a document holds. -/
def ofJson (document : Bytes) : Except Json.Fault Progress := Json.document reader document

end MintDrop.Progress
