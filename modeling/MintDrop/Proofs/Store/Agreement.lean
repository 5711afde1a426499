import Mathlib.Data.Set.Basic
import MintDrop.Proofs.Store.File

/-!
# When files agree with memory

`Storage.answers` are the results of the loads among some requests, of which no save fails.  The file store names a
file after both names of a slot, and the file of an older tool likewise, so that one slot may find what was saved under
another (`Slot.Shares`).  `Storage.agree_iff_apart`: the loads of files in an empty directory are those of memory, for
all requests about some slots, just when no two of the slots share a file.
-/

namespace MintDrop

/-! ### Slots and their files -/

/-- Whether the names of a slot can be part of a file's name. -/
def Slot.Proper (s : Slot) : Prop := ∀ c ∈ s.env.toList ++ s.cacheName.toList, c ≠ '/' ∧ c ≠ '\x00'

instance : DecidablePred Slot.Proper := fun _ => List.decidableBAll (fun c => c ≠ '/' ∧ c ≠ '\x00') _

/-- Whether a slot finds the file that is saved under another one. -/
def Slot.Shares (a b : Slot) : Prop :=
  a ≠ b ∧ ∃ legacy, FileStore.fileName a legacy = FileStore.fileName b false

/-- Whether no two slots share a file whose name is not too long. -/
def Slot.Apart (K : Set Slot) : Prop :=
  ∀ a ∈ K, ∀ b ∈ K, (FileStore.fileName b false).utf8ByteSize ≤ Disk.maxName → ¬ a.Shares b

theorem mem_fileName {s : Slot} {legacy : Bool} {c : Char} (h : c ∈ (FileStore.fileName s legacy).toList) :
    c ∈ s.env.toList ++ s.cacheName.toList ∨ c ∈ "-.json".toList := by
  cases legacy <;> simp [FileStore.fileName] at h ⊢ <;> tauto

theorem properName_fileName {s : Slot} (h : s.Proper) (legacy : Bool) :
    Disk.ProperName (FileStore.fileName s legacy) := by
  have hdash : '-' ∈ (FileStore.fileName s legacy).toList := by cases legacy <;> simp [FileStore.fileName]
  have hne {name : String} (hname : '-' ∉ name.toList) : FileStore.fileName s legacy ≠ name := by
    rintro rfl
    exact hname hdash
  refine ⟨hne (by decide), hne (by decide), hne (by decide), fun hslash => ?_, fun hnul => ?_⟩
  · rcases mem_fileName hslash with hc | hc
    · exact (h _ hc).1 rfl
    · revert hc
      decide
  · rcases mem_fileName hnul with hc | hc
    · exact (h _ hc).2 rfl
    · revert hc
      decide

/-- Whether a path leads to a directory that holds nothing. -/
def Disk.EmptyDirectory (d : Disk) (path : String) : Prop :=
  ∃ place, d.place path = .ok place ∧ d.node? place = some .directory ∧ ∀ name, d.node? (place ++ [name]) = none

namespace Storage

/-! ### Requests -/

/-- What a store is asked for. -/
inductive Request
  | load (slot : Slot)
  | save (slot : Slot) (p : Progress)

/-- The slot that a request is about. -/
def Request.slot : Request → Slot
  | .load slot => slot
  | .save slot _ => slot

/-- The results of the loads among requests, in order, if no save fails. -/
def answers : Storage → List Request → Option (List (Except StoreError (Option Progress)))
  | _, [] => some []
  | s, .load slot :: requests => (s.answers requests).map (s.load slot :: ·)
  | s, .save slot p :: requests =>
      match s.save slot p with
      | (.ok (), s) => s.answers requests
      | (.error _, _) => none

/-! ### One request -/

/-- A directory holds what a store in memory holds of some slots, and nothing else. -/
structure Mirrors (K : Set Slot) (dir : String) (place : Place) (d : Disk) (m : MemoryStore) : Prop where
  leads : d.place dir = .ok place
  directory : d.node? place = some .directory
  kept : ∀ s ∈ K, ∀ p, m.load s = some p →
    d.place (FileStore.path dir s false) = .ok (place ++ [FileStore.fileName s false]) ∧
      d.node? (place ++ [FileStore.fileName s false]) = some (FileStore.file p)
  only : ∀ name, d.node? (place ++ [name]) ≠ none → ∃ s ∈ K, FileStore.fileName s false = name ∧ m.load s ≠ none

variable {K : Set Slot} {dir : String} {place : Place} {d d' : Disk} {m : MemoryStore} {s : Slot} {p : Progress}

theorem Mirrors.load (h : Mirrors K dir place d m) (hproper : ∀ s ∈ K, s.Proper) (hapart : Slot.Apart K) (hs : s ∈ K) :
    FileStore.load d dir s = .ok (m.load s) := by
  cases hload : m.load s with
  | some p =>
      obtain ⟨hplace, hnode⟩ := h.kept s hs p hload
      exact FileStore.load_of_file hplace hnode
  | none =>
      -- A file under either name of the slot is one of another slot.
      have hnone : ∀ legacy, d.isFile (FileStore.path dir s legacy) = false := by
        intro legacy
        by_contra hfile
        obtain ⟨q, content, hplace, hnode⟩ := Disk.isFile_iff.1 (Bool.eq_true_of_not_eq_false hfile)
        obtain ⟨hlong, -, rfl⟩ :=
          (Disk.place_joinPath h.leads h.directory (properName_fileName (hproper s hs) legacy)).1 hplace
        obtain ⟨b, hb, hname, hkept⟩ := h.only _ (by rw [hnode]; simp)
        have hne : s ≠ b := by
          rintro rfl
          exact hkept hload
        exact hapart s hs b hb (by rwa [hname]) ⟨hne, legacy, hname.symm⟩
      rw [FileStore.load, hnone, hnone]
      rfl

theorem Mirrors.save (h : Mirrors K dir place d m) (hproper : ∀ s ∈ K, s.Proper) (hapart : Slot.Apart K) (hs : s ∈ K)
    (hsave : FileStore.save d dir s p = (.ok (), d')) : Mirrors K dir place d' (m.save s p) := by
  obtain ⟨made, q, hmade, htarget, hsame, hnode⟩ := FileStore.of_save hsave
  rw [Disk.makeDirectories_of_directory h.leads h.directory] at hmade
  cases hmade
  have hname {k : Slot} (hk : k ∈ K) := properName_fileName (hproper k hk) false
  obtain ⟨hlong, -, rfl⟩ :=
    (Disk.place_joinPath h.leads h.directory (hname hs)).1 (Disk.filePlace_eq_ok.1 htarget).2
  have hdir : dir ≠ "" := (Disk.place_eq_ok.1 h.leads).1.2.1
  have hplace {k : Slot} (hk : k ∈ K) {q : Place} (hq : d.place (FileStore.path dir k false) = .ok q) :
      d'.place (FileStore.path dir k false) = .ok q :=
    Disk.place_of_sameDirectories hsame (.inl (Disk.endsWith_joinPath hdir (hname hk))) hq
  refine ⟨Disk.place_of_sameDirectories hsame (.inr h.directory) h.leads, (hsame.directory _).2 h.directory, ?_, ?_⟩
  · intro k hk p' hp'
    rw [MemoryStore.load_of_save] at hp'
    by_cases hks : k = s
    · subst hks
      rw [if_pos rfl] at hp'
      cases hp'
      exact ⟨hplace hk (Disk.filePlace_eq_ok.1 htarget).2, by rw [hnode, if_pos rfl]⟩
    · rw [if_neg hks] at hp'
      obtain ⟨hleads, hkept⟩ := h.kept k hk p' hp'
      have hne : place ++ [FileStore.fileName k false] ≠ place ++ [FileStore.fileName s false] := by
        intro heq
        exact hapart k hk s hs hlong ⟨hks, false, by simpa using heq⟩
      exact ⟨hplace hk hleads, by rw [hnode, if_neg hne, hkept]⟩
  · intro name hthere
    rw [hnode] at hthere
    by_cases hq : place ++ [name] = place ++ [FileStore.fileName s false]
    · refine ⟨s, hs, by simpa using hq.symm, ?_⟩
      rw [MemoryStore.load_of_save, if_pos rfl]
      simp
    · rw [if_neg hq] at hthere
      obtain ⟨k, hk, hkname, hkept⟩ := h.only name hthere
      refine ⟨k, hk, hkname, ?_⟩
      rw [MemoryStore.load_of_save]
      split_ifs
      · simp
      · exact hkept

/-! ### All requests -/

theorem Mirrors.answers_eq {requests : List Request} {results : List (Except StoreError (Option Progress))}
    (h : Mirrors K dir place d m) (hproper : ∀ s ∈ K, s.Proper) (hapart : Slot.Apart K)
    (hrequests : ∀ r ∈ requests, r.slot ∈ K) (hresults : (Storage.files d dir).answers requests = some results) :
    (Storage.memory m).answers requests = some results := by
  induction requests generalizing d m results with
  | nil => exact hresults
  | cons r requests ih =>
      obtain ⟨hr, hmore⟩ := List.forall_mem_cons.1 hrequests
      cases r with
      | load s =>
          obtain ⟨rest, hrest, rfl⟩ := Option.map_eq_some_iff.1 hresults
          refine Option.map_eq_some_iff.2 ⟨rest, ih h hmore hrest, ?_⟩
          exact congrArg (· :: rest) (h.load hproper hapart hr).symm
      | save s p =>
          cases hsave : FileStore.save d dir s p with
          | mk outcome d' =>
              cases outcome with
              | error fault => simp only [answers, Storage.save, hsave, reduceCtorEq] at hresults
              | ok u =>
                  simp only [answers, Storage.save, hsave] at hresults
                  exact ih (h.save hproper hapart hr hsave) hmore hresults

/-! ### Slots that share a file -/

/-- A directory that holds nothing. -/
def bareDisk : Disk := ⟨[(["cache"], .directory)], []⟩

theorem place_bareDisk : bareDisk.place "cache" = .ok ["cache"] := by
  refine Disk.place_eq_ok.2 ⟨by decide +kernel, ?_⟩
  have hcomponents : components "cache" = ["cache"] := by decide +kernel
  have hstarts : "cache".startsWith '/' = false := by decide +kernel
  rw [hcomponents, hstarts]
  exact Disk.walk_singleton ⟨by decide, by decide, by decide, by decide, by decide⟩ []

theorem node?_bareDisk_cache (name : String) : bareDisk.node? ["cache", name] = none := by
  rw [Disk.node?_of_ne_nil _ (by simp), bareDisk, Entries.lookup_cons, if_neg (by simp)]
  rfl

theorem emptyDirectory_bareDisk : bareDisk.EmptyDirectory "cache" :=
  ⟨["cache"], place_bareDisk, rfl, node?_bareDisk_cache⟩

theorem node?_bareDisk (q : Place) (content : Bytes) : bareDisk.node? q ≠ some (.file content) := by
  unfold Disk.node?
  split_ifs with hq
  · simp
  · rw [bareDisk, Entries.lookup_cons]
    split_ifs <;> simp

/-- A slot with a name that is not too long can be saved. -/
theorem exists_save_bareDisk {s : Slot} (hproper : s.Proper)
    (hfits : (FileStore.fileName s false).utf8ByteSize ≤ Disk.maxName) (p : Progress) :
    ∃ d, FileStore.save bareDisk "cache" s p = (.ok (), d) := by
  have hdirectory : bareDisk.node? ["cache"] = some .directory := rfl
  have hfilePlace {name : String} (hname : Disk.ProperName name) (hlong : name.utf8ByteSize ≤ Disk.maxName) :
      bareDisk.filePlace (joinPath "cache" name) = .ok ["cache", name] := by
    refine Disk.filePlace_eq_ok.2 ⟨Disk.endsWith_joinPath (by decide) hname, ?_⟩
    refine (Disk.place_joinPath place_bareDisk hdirectory hname).2 ⟨hlong, ?_, rfl⟩
    obtain ⟨slash, hslash, hjoin, -⟩ := Disk.joinPath_of_properName (show "cache" ≠ "" by decide) hname
    have hsize : slash.utf8ByteSize ≤ 1 := by rcases hslash with rfl | rfl <;> decide
    have hdir : "cache".utf8ByteSize = 5 := by decide
    rw [hjoin, String.utf8ByteSize_append, String.utf8ByteSize_append, hdir, Disk.maxPath]
    rw [Disk.maxName] at hlong
    omega
  have htemporary : FileStore.temporaryPath bareDisk "cache" 2 = joinPath "cache" ".tmp1" := by decide +kernel
  have hmake := Disk.makeDirectories_of_directory place_bareDisk hdirectory
  have htmp : bareDisk.filePlace (FileStore.temporaryPath bareDisk "cache" 2) = .ok ["cache", ".tmp1"] :=
    htemporary ▸ hfilePlace ⟨by decide, by decide, by decide, by decide, by decide⟩ (by decide)
  have htarget := hfilePlace (properName_fileName hproper false) hfits
  exact FileStore.exists_save (hmake _) htmp (node?_bareDisk_cache _) htarget (by simp [node?_bareDisk_cache]) p

/-- A slot that shares the file of another one loads what was saved there. -/
theorem answers_of_shares {a b : Slot} (hproper : b.Proper)
    (hfits : (FileStore.fileName b false).utf8ByteSize ≤ Disk.maxName) (h : a.Shares b) (p : Progress) :
    (Storage.files bareDisk "cache").answers [.save b p, .load a] = some [.ok (some (p.stamp b))] := by
  obtain ⟨d, hsave⟩ := exists_save_bareDisk hproper hfits p
  obtain ⟨-, legacy, hname⟩ := h
  obtain ⟨made, q, hmade, htarget, hsame, hnode⟩ := FileStore.of_save hsave
  rw [Disk.makeDirectories_of_directory place_bareDisk rfl] at hmade
  cases hmade
  have hall : ∀ r content, d.node? r = some (.file content) → .file content = FileStore.file (p.stamp b) := by
    intro r content hr
    rw [hnode] at hr
    by_cases hq : r = q
    · rw [if_pos hq] at hr
      exact (Option.some.inj hr).symm
    · rw [if_neg hq] at hr
      exact absurd hr (node?_bareDisk r content)
  have hfile : d.isFile (FileStore.path "cache" a legacy) = true := by
    rw [FileStore.path_eq, hname, ← FileStore.path_eq]
    have hplace := (Disk.filePlace_eq_ok.1 (Disk.filePlace_of_sameDirectories hsame htarget)).2
    exact Disk.isFile_iff.2 ⟨q, _, hplace, by rw [hnode, if_pos rfl]; rfl⟩
  have hload := FileStore.load_of_all_files hall hfile
  simp only [answers, Storage.save, hsave, Storage.load, hload, Option.map_some]

theorem answers_memory_of_ne {a b : Slot} (h : a ≠ b) (p : Progress) :
    (Storage.memory .empty).answers [.save b p, .load a] = some [.ok none] := by
  have hload : (MemoryStore.empty.save b p).load a = none := by
    rw [MemoryStore.load_of_save, if_neg h]
    rfl
  simp only [answers, Storage.save, Storage.load, hload, Option.map_some]

/-! ### Agreement -/

/-- Whether requests about some slots get the same results from files in an empty directory as from memory, if no save
fails. -/
def Agree (K : Set Slot) : Prop :=
  ∀ (d : Disk) (dir : String), d.EmptyDirectory dir → ∀ requests : List Request, (∀ r ∈ requests, r.slot ∈ K) →
    ∀ results, (Storage.files d dir).answers requests = some results →
      (Storage.memory .empty).answers requests = some results

/-- Files agree with memory on some slots just when no two of the slots share a file. -/
theorem agree_iff_apart (K : Set Slot) (hproper : ∀ s ∈ K, s.Proper) : Agree K ↔ Slot.Apart K := by
  constructor
  · intro hagree a ha b hb hfits hshares
    have hfiles := answers_of_shares (hproper b hb) hfits hshares .blank
    have hmemory := hagree bareDisk "cache" emptyDirectory_bareDisk _ (by simp [Request.slot, ha, hb]) _ hfiles
    rw [answers_memory_of_ne hshares.1] at hmemory
    cases hmemory
  · rintro hapart d dir ⟨place, hplace, hdirectory, hempty⟩ requests hrequests results hresults
    have hmirrors : Mirrors K dir place d .empty :=
      ⟨hplace, hdirectory, fun s _ p hp => (by cases hp), fun name hname => absurd (hempty name) hname⟩
    exact hmirrors.answers_eq hproper hapart hrequests hresults

theorem agree_oneEnvironment : (∀ s ∈ ({⟨"devnet", "temp"⟩, ⟨"devnet", "drop"⟩} : Set Slot), s.Proper) ∧
    Slot.Apart {⟨"devnet", "temp"⟩, ⟨"devnet", "drop"⟩} ∧ Agree {⟨"devnet", "temp"⟩, ⟨"devnet", "drop"⟩} := by
  have hproper : ∀ s ∈ ({⟨"devnet", "temp"⟩, ⟨"devnet", "drop"⟩} : Set Slot), s.Proper := by
    rintro s (rfl | rfl) <;> decide
  have hapart : Slot.Apart {⟨"devnet", "temp"⟩, ⟨"devnet", "drop"⟩} := by
    rintro a (rfl | rfl) b (rfl | rfl) - ⟨hne, legacy, hname⟩ <;> revert hne hname <;> cases legacy <;> decide
  exact ⟨hproper, hapart, (agree_iff_apart _ hproper).2 hapart⟩

/-- The names of two slots run together to the same name of a file. -/
theorem other_slot_loaded : bareDisk.EmptyDirectory "cache" ∧
    (Storage.files bareDisk "cache").answers [.save ⟨"a-b", "c"⟩ .blank, .load ⟨"a", "b-c"⟩]
        = some [.ok (some (Progress.blank.stamp ⟨"a-b", "c"⟩))] ∧
      (Storage.memory .empty).answers [.save ⟨"a-b", "c"⟩ .blank, .load ⟨"a", "b-c"⟩] = some [.ok none] := by
  have hproper : Slot.Proper ⟨"a-b", "c"⟩ := by decide
  have hshares : Slot.Shares ⟨"a", "b-c"⟩ ⟨"a-b", "c"⟩ := ⟨by decide, false, by decide⟩
  exact ⟨emptyDirectory_bareDisk, answers_of_shares hproper (by decide) hshares .blank,
    answers_memory_of_ne hshares.1 .blank⟩

end Storage

end MintDrop
