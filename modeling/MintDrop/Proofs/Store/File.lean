import MintDrop.Proofs.Progress.Json
import MintDrop.Proofs.Store.Disk
import MintDrop.Store.Storage

/-!
# What a store loads after a save

A save that succeeds puts the progress in the file of its slot and leaves the rest of the directory alone
(`FileStore.of_save`).  The next load of the slot gives it back, in files as in memory, whatever was there before
(`Storage.load_save`).
-/

namespace MintDrop

/-! ### In files -/

namespace FileStore

variable {d d' : Disk} {dir : String} {slot : Slot} {p : Progress}

/-- The name of a slot's file in its directory. -/
def fileName (slot : Slot) (legacy : Bool) : String :=
  let name := slot.env ++ "-" ++ slot.cacheName
  if legacy then name else name ++ ".json"

theorem path_eq (dir : String) (slot : Slot) (legacy : Bool) :
    path dir slot legacy = joinPath dir (fileName slot legacy) := rfl

/-- The file that holds progress. -/
def file (p : Progress) : Node := .file (Utf8.encode p.toJson)

/-- What a save that succeeds does to the tree, once the directories are there: it puts a file where the path of the
slot leads.  The temporary file is gone. -/
theorem of_save (h : save d dir slot p = (.ok (), d')) :
    ∃ made q, d.makeDirectories (dir.length + 1) dir = (none, made) ∧ made.filePlace (path dir slot false) = .ok q ∧
      made.SameDirectories d' ∧ ∀ r, d'.node? r = if r = q then some (file (p.stamp slot)) else made.node? r := by
  unfold save saveOn at h
  split at h
  · cases h
  rename_i made hmade
  dsimp only at h
  split at h
  · cases h
  rename_i written hcreate
  split at h
  · cases h
  rename_i moved hrename
  cases h
  obtain ⟨t, htemporary, hfree, rfl⟩ := Disk.create_eq_ok.1 hcreate
  obtain ⟨t', content, q, hsource, hcontent, htarget, hq, rfl⟩ := Disk.rename_eq_ok.1 hrename
  -- The temporary file is no directory, so all paths lead where they led before.
  have hsame : made.SameDirectories (made.setNode t (some (file (p.stamp slot)))) :=
    Disk.sameDirectories_create hfree _
  have hsource' := (Disk.filePlace_eq_ok.1 (Disk.filePlace_of_sameDirectories hsame htemporary)).2
  obtain rfl : t = t' := Except.ok.inj (hsource'.symm.trans hsource)
  have ht : t ≠ [] := Disk.ne_nil_of_free hfree
  have hqne : q ≠ [] := by
    rintro rfl
    exact hq rfl
  rw [Disk.node?_setNode ht, if_pos rfl] at hcontent
  obtain rfl : Utf8.encode (p.stamp slot).toJson = content := Node.file.inj (Option.some.inj hcontent)
  have hnode : ∀ r, (((made.setNode t (some (file (p.stamp slot)))).setNode t none).setNode q
      (some (file (p.stamp slot)))).node? r = if r = q then some (file (p.stamp slot)) else made.node? r := by
    intro r
    rw [Disk.node?_setNode hqne, Disk.node?_setNode ht, Disk.node?_setNode ht]
    by_cases hr : r = t
    · rw [if_pos hr, hr, hfree]
    · rw [if_neg hr, if_neg hr]
  refine ⟨made, q, hmade, Disk.filePlace_of_sameDirectories hsame.symm htarget, ⟨rfl, fun r => ?_⟩, hnode⟩
  rw [file] at hnode
  rw [hnode]
  by_cases hr : r = q
  · rw [if_pos hr, hr]
    exact iff_of_false (by simp) fun h => hq ((hsame.directory q).2 h)
  · rw [if_neg hr]

theorem readFile_of_file {path : String} {q : Place} (hplace : d.place path = .ok q)
    (hnode : d.node? q = some (file p)) : readFile d path = .ok p := by
  rw [readFile, Disk.read_eq_ok.2 ⟨q, hplace, hnode⟩]
  simp only [ofContent, Progress.ofJson_toJson]
  rfl

theorem load_of_file {q : Place} (hplace : d.place (path dir slot false) = .ok q) (hnode : d.node? q = some (file p)) :
    load d dir slot = .ok (some p) := by
  have hfile : d.isFile (path dir slot false) = true := Disk.isFile_iff.2 ⟨q, _, hplace, hnode⟩
  rw [load, if_pos hfile, readFile_of_file hplace hnode]
  rfl

/-- If all files hold the same progress, a slot that has a file loads it. -/
theorem load_of_all_files (hall : ∀ q content, d.node? q = some (.file content) → .file content = file p)
    {legacy : Bool} (hfile : d.isFile (path dir slot legacy) = true) : load d dir slot = .ok (some p) := by
  have hread : ∀ legacy, d.isFile (path dir slot legacy) = true → readFile d (path dir slot legacy) = .ok p := by
    intro legacy hfile
    obtain ⟨q, content, hplace, hnode⟩ := Disk.isFile_iff.1 hfile
    exact readFile_of_file hplace (hall q content hnode ▸ hnode)
  unfold load
  split_ifs with hmodern hlegacy
  · rw [hread false hmodern]
    rfl
  · rw [hread true hlegacy]
    rfl
  · cases legacy with
    | false => exact absurd hfile hmodern
    | true => exact absurd hfile hlegacy

/-- A save succeeds if a temporary file can be made and nothing but a file is in the way. -/
theorem exists_save {t q : Place} (hmake : d.makeDirectories (dir.length + 1) dir = (none, d))
    (htemporary : d.filePlace (temporaryPath d dir (d.nodes.length + 1)) = .ok t) (hfree : d.node? t = none)
    (htarget : d.filePlace (path dir slot false) = .ok q) (hq : d.node? q ≠ some .directory) (p : Progress) :
    ∃ d', save d dir slot p = (.ok (), d') := by
  have ht : t ≠ [] := Disk.ne_nil_of_free hfree
  have hsame : d.SameDirectories (d.setNode t (some (file (p.stamp slot)))) :=
    Disk.sameDirectories_create hfree _
  have hcreate : d.create _ (Utf8.encode (p.stamp slot).toJson) = .ok (d.setNode t (some (file (p.stamp slot)))) :=
    Disk.create_eq_ok.2 ⟨t, htemporary, hfree, rfl⟩
  have hrename := Disk.rename_eq_ok.2 ⟨t, _, q,
    (Disk.filePlace_eq_ok.1 (Disk.filePlace_of_sameDirectories hsame htemporary)).2,
    (Disk.node?_setNode ht _ t).trans (if_pos rfl), Disk.filePlace_of_sameDirectories hsame htarget,
    fun h => hq ((hsame.directory q).1 h), rfl⟩
  simp only [save, saveOn, hmake, hcreate, hrename]
  exact ⟨_, rfl⟩

theorem load_of_save (h : save d dir slot p = (.ok (), d')) : load d' dir slot = .ok (some (p.stamp slot)) := by
  obtain ⟨made, q, -, htarget, hsame, hnode⟩ := of_save h
  have hplace := (Disk.filePlace_eq_ok.1 (Disk.filePlace_of_sameDirectories hsame htarget)).2
  exact load_of_file hplace (by rw [hnode, if_pos rfl])

end FileStore

/-! ### In memory -/

theorem MemoryStore.load_of_save (s : MemoryStore) (slot slot' : Slot) (p : Progress) :
    (s.save slot p).load slot' = if slot' = slot then some (p.stamp slot) else s.load slot' :=
  Entries.lookup_replace slot slot' (p.stamp slot) s.slots

/-! ### In either -/

namespace Storage

/-- The progress of a slot that was saved is loaded as it was, but for the name of the slot: in files after each save
that succeeds, whatever file of the slot was there before, and in memory, where each save succeeds.  The text of
progress is read as that progress. -/
theorem load_save (slot : Slot) (p : Progress) :
    (∀ disk dir, ((Storage.files disk dir).save slot p).1 = .ok () →
      ((Storage.files disk dir).save slot p).2.load slot = .ok (some (p.stamp slot))) ∧
    (∀ store, ((Storage.memory store).save slot p).1 = .ok () ∧
      ((Storage.memory store).save slot p).2.load slot = .ok (some (p.stamp slot))) ∧
    Progress.ofJson (Utf8.encode p.toJson) = .ok p := by
  refine ⟨fun disk dir h => ?_, fun store => ⟨rfl, ?_⟩, p.ofJson_toJson⟩
  · exact FileStore.load_of_save (Prod.ext h rfl)
  · exact congrArg Except.ok ((store.load_of_save slot slot p).trans (if_pos rfl))

/-- A tree in which a slot has a file of an older tool and a file that holds nothing. -/
def olderFiles : Disk :=
  ⟨[(["cache"], .directory), (["cache", "devnet-drop"], .file [0x7b]), (["cache", "devnet-drop.json"], .file [])], []⟩

/-- A store in memory with older progress of the same slot. -/
def olderMemory : MemoryStore := MemoryStore.empty.save ⟨"devnet", "drop"⟩ .blank

/-- Progress with a missing part of an identity, the last index and characters that are escaped. -/
def oddProgress : Progress where
  program := ⟨none, some "a\\b"⟩
  items := Items.empty.insert 4294967295 ⟨"\"\x01\n", "é😀", true, false⟩
  env := ""
  cacheName := "other"

theorem load_save_olderFiles :
    ((Storage.files olderFiles "cache").save ⟨"devnet", "drop"⟩ oddProgress).1 = .ok () ∧
      ((Storage.files olderFiles "cache").save ⟨"devnet", "drop"⟩ oddProgress).2.load ⟨"devnet", "drop"⟩
        = .ok (some (oddProgress.stamp ⟨"devnet", "drop"⟩)) ∧
      ((Storage.memory olderMemory).save ⟨"devnet", "drop"⟩ oddProgress).2.load ⟨"devnet", "drop"⟩
        = .ok (some (oddProgress.stamp ⟨"devnet", "drop"⟩)) ∧
      Progress.ofJson (Utf8.encode oddProgress.toJson) = .ok oddProgress := by
  have hsave : ((Storage.files olderFiles "cache").save ⟨"devnet", "drop"⟩ oddProgress).1 = .ok () :=
    eq_ok_of_isOk (by decide +kernel)
  obtain ⟨hfiles, hmemory, htext⟩ := load_save ⟨"devnet", "drop"⟩ oddProgress
  exact ⟨hsave, hfiles olderFiles "cache" hsave, (hmemory olderMemory).2, htext⟩

end Storage

end MintDrop
