import MintDrop.Progress.Json
import MintDrop.Proofs.Json.Value

/-!
# Reading written progress

`Progress.ofJson_toJson`: the text of progress is read as that progress, whatever its items, texts, flags and missing
parts.  The items come back in the order in which they were written, which is their own (`Items.ofList_entries`).
-/

namespace MintDrop

namespace Items

theorem ofList_entries (items : Items) : ofList items.entries = items :=
  ext (Entries.ofList_of_ascending items.ascending)

end Items

namespace Progress

open Json

theorem readsBack_item (item : Item) : ReadsBack itemReader 1 (writeItem item) item := by
  refine readsBack_fields ["verifyRun", "onChain", "uri", "name"] ?_ (by simp [field]) _
  refine .member rfl (by decide) (readsBack_field (readsBack_text item.name) _ _ _ _) ?_
  refine .member rfl (by decide) (readsBack_field (readsBack_text item.uri) _ _ _ _) ?_
  refine .member rfl (by decide) (readsBack_field (readsBack_boolean item.onChain) _ _ _ _) ?_
  refine .member rfl (by decide) (readsBack_field (readsBack_boolean item.verifyRun) _ _ _ _) ?_
  exact .done _ _

/-- Missing parts of an identity are left out, and are missing from what is read. -/
theorem readsBack_entry (entry : RecordEntry) : ReadsBack entryReader 1 (writeEntry entry) entry := by
  obtain ⟨_ | tag, _ | address⟩ := entry
  · exact readsBack_fields [] (.done [] _) (by simp [field]) _
  · refine readsBack_fields ["candyMachine"] ?_ (by simp [field]) _
    exact .member rfl (by decide) (readsBack_field (readsBack_optional address) _ _ _ _) (.done _ _)
  · refine readsBack_fields ["uuid"] ?_ (by simp [field]) _
    exact .member rfl (by decide) (readsBack_field (readsBack_optional tag) _ _ _ _) (.done _ _)
  · refine readsBack_fields ["candyMachine", "uuid"] ?_ (by simp [field]) _
    refine .member rfl (by decide) (readsBack_field (readsBack_optional tag) _ _ _ _) ?_
    exact .member rfl (by decide) (readsBack_field (readsBack_optional address) _ _ _ _) (.done _ _)

theorem readsBack_items (items : Items) :
    ReadsBack (numbered itemReader) 2 (writeItems items) items.entries :=
  readsBack_numbered fun e _ => readsBack_item e.2

theorem readsBack_progress (p : Progress) : ReadsBack reader 3
    (writeObject [("program", writeEntry p.program), ("items", writeItems p.items),
      ("env", writeString p.env), ("cacheName", writeString p.cacheName)])
    { p with items := .ofList p.items.entries } := by
  have hentry := (readsBack_entry p.program).mono (show 1 ≤ 2 by decide)
  have henv := (readsBack_text p.env).mono (show 0 ≤ 2 by decide)
  have hname := (readsBack_text p.cacheName).mono (show 0 ≤ 2 by decide)
  refine readsBack_fields ["cacheName", "env", "items", "program"] ?_ (by simp [field]) _
  refine .member rfl (by decide) (readsBack_field hentry _ _ _ _) ?_
  refine .member rfl (by decide) (readsBack_field (readsBack_items p.items) _ _ _ _) ?_
  refine .member rfl (by decide) (readsBack_field henv _ _ _ _) ?_
  refine .member rfl (by decide) (readsBack_field hname _ _ _ _) ?_
  exact .done _ _

theorem ofJson_toJson (p : Progress) : ofJson (Utf8.encode p.toJson) = .ok p := by
  have hread := document_of_readsBack (readsBack_progress p) (by decide)
  rw [Items.ofList_entries] at hread
  rw [ofJson, toJson, encode_ofList, hread]

end Progress

end MintDrop
