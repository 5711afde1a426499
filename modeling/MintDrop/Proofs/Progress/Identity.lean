import MintDrop.Proofs.Progress.Json
import MintDrop.Proofs.Text.Base58

/-!
# An identity that is kept

Once the identity of a record is entered, progress holds it (`Progress.Holds`): it is read back and no other one is
entered.  `Holds.revise` is one step that progress may take, `Holds.revisions` any number of them, and
`identity_entered_once` begins with progress that has no identity.
-/

namespace MintDrop.Progress

variable {p : Progress} {id : Identity}

/-- What happens to progress between its first identity and its last use. -/
inductive Revision
  /-- The items of some indices are recorded as written. -/
  | mark (first last : UInt32)
  /-- An identity is entered, if there is none. -/
  | identify (id : Identity)
  /-- The progress is written and read again. -/
  | reload

/-- The progress after a revision. -/
def revise (p : Progress) : Revision → Except Json.Fault Progress
  | .mark first last => .ok (p.markOnChain first last)
  | .identify id => .ok ((p.setIdentity? id).getD p)
  | .reload => ofJson (Utf8.encode p.toJson)

/-- Whether an identity is read from progress and stays the only one. -/
structure Holds (p : Progress) (id : Identity) : Prop where
  read : p.identity = .ok (some id)
  refuses : ∀ id', p.setIdentity? id' = none

theorem setIdentity?_eq_none_iff : p.setIdentity? id = none ↔ p.program ≠ ⟨none, none⟩ := by
  obtain ⟨⟨tag, address⟩, items, env, cacheName⟩ := p
  cases tag <;> cases address <;> simp [setIdentity?]

theorem holds_of_program (h : p.program = ⟨some id.tag, some id.address.toText⟩) : p.Holds id where
  read := by
    rw [identity, h]
    change (Address.parse id.address.toText).map _ = _
    rw [Address.parse_toText]
    rfl
  refuses _ := setIdentity?_eq_none_iff.2 (by simp [h])

/-- A revision neither loses an identity nor replaces it. -/
theorem Holds.revise (h : p.Holds id) (r : Revision) : ∃ p', p.revise r = .ok p' ∧ p'.Holds id := by
  cases r with
  | mark first last =>
      have hprogram : p.program ≠ ⟨none, none⟩ := setIdentity?_eq_none_iff.1 (h.refuses id)
      exact ⟨p.markOnChain first last, rfl, h.read, fun _ => setIdentity?_eq_none_iff.2 hprogram⟩
  | identify id' =>
      refine ⟨p, ?_, h⟩
      rw [Progress.revise, h.refuses, Option.getD_none]
  | reload => exact ⟨p, p.ofJson_toJson, h⟩

theorem Holds.revisions (h : p.Holds id) (rs : List Revision) :
    ∃ p', rs.foldlM Progress.revise p = .ok p' ∧ p'.Holds id := by
  induction rs generalizing p with
  | nil => exact ⟨p, rfl, h⟩
  | cons r rs ih =>
      obtain ⟨p', hp', h'⟩ := h.revise r
      rw [List.foldlM_cons, hp']
      exact ih h'

/-- An identity of any tag and any address is entered into progress that has none, and is read back from it, also after
any number of times that items are marked, that the progress is written and read, and that another identity is refused.
A text is read as an address just if it is the written form of that address with blanks around it. -/
theorem identity_entered_once (hp : p.program = ⟨none, none⟩) (id : Identity) :
    (∃ p', p.setIdentity? id = some p' ∧ p'.Holds id ∧
      ∀ rs : List Revision, ∃ p'', rs.foldlM revise p' = .ok p'' ∧ p''.Holds id) ∧
    ∀ (s : String) (a : Address), (Address.parse s = .ok a ↔ Text.trim s = a.toText) ∧
      (Text.trim s = a.toText ↔ Text.Padded s a.toText) := by
  refine ⟨⟨{ p with program := ⟨some id.tag, some id.address.toText⟩ }, ?_, ?_⟩, fun s a => ⟨?_, ?_⟩⟩
  · rw [setIdentity?, hp]
    rfl
  · have hholds : Holds { p with program := ⟨some id.tag, some id.address.toText⟩ } id := holds_of_program rfl
    exact ⟨hholds, hholds.revisions⟩
  · exact Address.parse_eq_ok_iff
  · exact Text.trim_eq_iff_padded fun _ => Address.isBlank_of_mem_toText

/-- Progress of one item, without an identity. -/
def unnamed : Progress := { blank with items := Items.empty.insert 0 (.fresh "Item" "https://item") }

theorem identity_entered_once_zeroAddress : unnamed.program = ⟨none, none⟩ ∧
    (∃ p', unnamed.setIdentity? ⟨"\"tag\"", .zero⟩ = some p' ∧ p'.Holds ⟨"\"tag\"", .zero⟩ ∧
      ∀ rs : List Revision, ∃ p'', rs.foldlM revise p' = .ok p'' ∧ p''.Holds ⟨"\"tag\"", .zero⟩) ∧
    ∀ (s : String) (a : Address), (Address.parse s = .ok a ↔ Text.trim s = a.toText) ∧
      (Text.trim s = a.toText ↔ Text.Padded s a.toText) :=
  ⟨rfl, identity_entered_once rfl ⟨"\"tag\"", .zero⟩⟩

end MintDrop.Progress
