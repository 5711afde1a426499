import Mathlib.Data.Set.Basic
import MintDrop.Cli.Run
import MintDrop.Proofs.Store.File

/-!
# What a save leaves of the files

A save makes directories, writes a temporary file and renames it, and may fail at each step.  `Disk.SameFiles` compares
the regular files of two trees.  `FileStore.save_atomic`: a save that fails leaves them as they were, wherever it
failed, and one that succeeds changes the file of its slot alone; a load leaves the whole tree as it was.
-/

namespace MintDrop

/-! ### Trees with more directories -/

namespace Disk

variable {d d' : Disk}

/-- Whether two trees have the same regular files, some places aside. -/
def SameFiles (d d' : Disk) (aside : Set Place) : Prop :=
  ∀ q ∉ aside, ∀ content, d'.node? q = some (.file content) ↔ d.node? q = some (.file content)

/-- Trees of which the second one has all objects of the first one and no other files. -/
structure MoreDirectories (d d' : Disk) : Prop where
  home : d'.home = d.home
  kept : ∀ q node, d.node? q = some node → d'.node? q = some node
  files : ∀ q content, d'.node? q = some (.file content) → d.node? q = some (.file content)

theorem moreDirectories_of_node?_eq (home : d'.home = d.home) (h : ∀ q, d'.node? q = d.node? q) :
    d.MoreDirectories d' where
  home := home
  kept q node hnode := by rw [h, hnode]
  files q content hnode := by rw [← h, hnode]

theorem MoreDirectories.trans {d'' : Disk} (h : d.MoreDirectories d') (h' : d'.MoreDirectories d'') :
    d.MoreDirectories d'' where
  home := h'.home.trans h.home
  kept q node hnode := h'.kept q node (h.kept q node hnode)
  files q content hnode := h.files q content (h'.files q content hnode)

theorem MoreDirectories.sameFiles (h : d.MoreDirectories d') (aside : Set Place) : d.SameFiles d' aside :=
  fun q _ content => ⟨h.files q content, h.kept q _⟩

theorem makeDirectory_eq_ok {path : String} : d.makeDirectory path = .ok d' ↔
    ∃ q, d.place path = .ok q ∧ d.node? q = none ∧ d' = d.setNode q (some .directory) := by
  unfold makeDirectory
  cases hplace : d.place path with
  | error fault => simp [bind, Except.bind]
  | ok q =>
      cases hnode : d.node? q with
      | none => simp [bind, Except.bind, hnode, pure, Except.pure, eq_comm]
      | some node => simp [bind, Except.bind, hnode, throw, throwThe, MonadExceptOf.throw]

theorem moreDirectories_makeDirectory {path : String} (h : d.makeDirectory path = .ok d') : d.MoreDirectories d' := by
  obtain ⟨place, -, hfree, rfl⟩ := makeDirectory_eq_ok.1 h
  have hnode := node?_setNode (ne_nil_of_free hfree) (some .directory) (d := d)
  refine ⟨rfl, fun q node hq => ?_, fun q content hq => ?_⟩
  · rw [hnode, if_neg, hq]
    rintro rfl
    rw [hfree] at hq
    cases hq
  · rw [hnode] at hq
    split_ifs at hq with hplace
    · cases hq
    · exact hq

/-- Directories that are made as far as that succeeds are more directories. -/
theorem moreDirectories_makeDirectories (steps : ℕ) (path : String) :
    d.MoreDirectories (d.makeDirectories steps path).2 := by
  have hsame (d : Disk) : d.MoreDirectories d := moreDirectories_of_node?_eq rfl fun _ => rfl
  fun_induction makeDirectories d steps path with
  | case1 | case2 | case4 | case8 => exact hsame _
  | case3 steps path hempty made hmake => exact moreDirectories_makeDirectory hmake
  | case5 steps path hempty hmake parent hparent fault made hmade ih
  | case7 steps path hempty hmake parent hparent made hmade fault hagain ih =>
      rw [hmade] at ih
      exact ih
  | case6 steps path hempty hmake parent hparent made hmade again hagain ih =>
      rw [hmade] at ih
      exact ih.trans (moreDirectories_makeDirectory hagain)

/-! ### Contents of files -/

/-- The content of the regular file that a path leads to. -/
def content? (d : Disk) (path : String) : Option Bytes := (d.read path).toOption

theorem content?_eq_some {path : String} {content : Bytes} :
    d.content? path = some content ↔ d.read path = .ok content := by
  unfold content?
  cases d.read path <;> simp [Except.toOption]

theorem isFile_eq_isSome (d : Disk) (path : String) : d.isFile path = (d.content? path).isSome := by
  rw [Bool.eq_iff_iff, isFile_iff, Option.isSome_iff_exists, exists_comm]
  simp only [content?_eq_some, read_eq_ok]

/-! ### Temporary files -/

/-- A file that was new and is removed again leaves all objects as they were. -/
theorem moreDirectories_unlink_create {path : String} {content : Bytes} (h : d.create path content = .ok d') :
    d.MoreDirectories (d'.unlink path) := by
  obtain ⟨place, hplace, hfree, rfl⟩ := create_eq_ok.1 h
  have hne := ne_nil_of_free hfree
  have hfound := (filePlace_eq_ok.1 (filePlace_of_sameDirectories (sameDirectories_create hfree content) hplace)).2
  have hfile : (d.setNode place (some (.file content))).node? place = some (.file content) := by
    rw [node?_setNode hne, if_pos rfl]
  simp only [unlink, hfound, hfile]
  refine moreDirectories_of_node?_eq rfl fun q => ?_
  rw [node?_setNode hne, node?_setNode hne]
  split_ifs with hq
  · rw [hq, hfree]
  · rfl

/-! ### Paths that lead to something -/

/-- Components that lead to an object lead there in every tree that has the same directories and more. -/
theorem walk_of_directories (h : ∀ q, d.node? q = some .directory → d'.node? q = some .directory)
    {current target : Place} {names : List String} (hthere : d.node? target ≠ none)
    (hwalk : d.walk current names = .ok target) : d'.walk current names = .ok target := by
  fun_induction walk d current names with
  | case1 current => exact hwalk
  | case2 current name rest hname ih =>
      rw [walk, if_pos hname]
      exact ih hwalk
  | case3 current rest hname ih =>
      rw [walk, if_neg hname, if_pos rfl]
      exact ih hwalk
  | case5 current name rest hname hup hlong hrest =>
      rw [walk, if_neg hname, if_neg hup, if_neg hlong, if_pos hrest, hwalk]
  | case6 current name rest hname hup hlong hrest hnode ih =>
      rw [walk, if_neg hname, if_neg hup, if_neg hlong, if_neg hrest, h _ hnode]
      exact ih hwalk
  | case8 current name rest hname hup hlong hrest hnode hall =>
      cases hwalk
      exact absurd hnode hthere
  | case4 | case7 | case9 => cases hwalk

theorem place_of_directories (home : d'.home = d.home)
    (h : ∀ q, d.node? q = some .directory → d'.node? q = some .directory) {path : String} {target : Place}
    (hthere : d.node? target ≠ none) (hplace : d.place path = .ok target) : d'.place path = .ok target := by
  obtain ⟨hpath, hwalk⟩ := place_eq_ok.1 hplace
  refine place_eq_ok.2 ⟨hpath, ?_⟩
  rw [home]
  exact walk_of_directories h hthere hwalk

/-! ### Paths with an extension -/

theorem startsWith_append {s : String} (h : s ≠ "") (more : String) (c : Char) :
    (s ++ more).startsWith c = s.startsWith c := by
  have hnil : s.toList ≠ [] := fun hnil => h (String.toList_inj.1 hnil)
  rw [String.startsWith_char_eq_head?, String.startsWith_char_eq_head?, String.toList_append,
    List.head?_append_of_ne_nil _ hnil]

/-- What is put behind a text without a separator is put behind its last part. -/
theorem exists_splitOn_append {a : Char} (cs : List Char) {more : List Char} (h : a ∉ more) :
    ∃ parts last, cs.splitOn a = parts ++ [last] ∧ (cs ++ more).splitOn a = parts ++ [last ++ more] := by
  induction cs with
  | nil => exact ⟨[], [], List.splitOn_nil _, List.splitOn_eq_singleton h⟩
  | cons c cs ih =>
      obtain ⟨parts, last, hparts, hmore⟩ := ih
      rw [List.cons_append, List.splitOn_cons_eq_if_modifyHead, List.splitOn_cons_eq_if_modifyHead, hparts, hmore]
      split_ifs
      · exact ⟨[] :: parts, last, rfl, rfl⟩
      · cases parts with
        | nil => exact ⟨[], c :: last, rfl, rfl⟩
        | cons first parts => exact ⟨(c :: first) :: parts, last, rfl, rfl⟩

theorem exists_components_append (path more : String) (h : '/' ∉ more.toList) :
    ∃ names last, components path = names ++ [last] ∧ components (path ++ more) = names ++ [last ++ more] := by
  obtain ⟨parts, last, hparts, hmore⟩ := exists_splitOn_append path.toList h
  refine ⟨parts.map String.ofList, String.ofList last, ?_, ?_⟩
  · rw [components, hparts, List.map_append, List.map_singleton]
  · rw [components, String.toList_append, hmore, List.map_append, List.map_singleton, String.ofList_append,
      String.ofList_toList]

theorem walk_last (current : Place) (name : String) : d.walk current [name] =
    if name.isEmpty || decide (name = ".") then .ok current
    else if name = ".." then .ok current.dropLast
    else if maxName < name.utf8ByteSize then .error .nameTooLong
    else .ok (current ++ [name]) := by
  rw [walk, walk, walk, if_pos (c := ([] : List String).isEmpty = true) rfl]

theorem walk_before {rest : List String} (hrest : rest ≠ []) (current : Place) (name : String) :
    d.walk current (name :: rest) =
      if name.isEmpty || decide (name = ".") then d.walk current rest
      else if name = ".." then d.walk current.dropLast rest
      else if maxName < name.utf8ByteSize then .error .nameTooLong
      else match d.node? (current ++ [name]) with
        | some .directory => d.walk (current ++ [name]) rest
        | some (.file _) => .error .notDirectory
        | none => if rest.all (·.isEmpty) then .ok (current ++ [name]) else .error .notFound := by
  have hmore : rest.isEmpty = false := List.isEmpty_eq_false_iff.2 hrest
  cases hnode : d.node? (current ++ [name]) with
  | none => simp only [walk, hmore, hnode, Bool.false_eq_true, if_false]
  | some node => cases node <;> simp only [walk, hmore, hnode, Bool.false_eq_true, if_false]

/-- What stands before a name that leads somewhere leads to one place, whatever name follows. -/
theorem exists_of_walk_concat {current q : Place} {names : List String} {name : String} (hname : name ≠ "")
    (h : d.walk current (names ++ [name]) = .ok q) :
    ∃ target, d.walk target [name] = .ok q ∧ ∀ other, d.walk current (names ++ [other]) = d.walk target [other] := by
  induction names generalizing current with
  | nil => exact ⟨current, h, fun _ => rfl⟩
  | cons first names ih =>
      have hall : (names ++ [name]).all (·.isEmpty) = false := by simp [hname]
      simp only [List.cons_append, walk_before (List.concat_ne_nil _ _)] at h ⊢
      rw [hall] at h
      by_cases hskip : (first.isEmpty || decide (first = ".")) = true
      · simp only [if_pos hskip] at h ⊢
        exact ih h
      by_cases hup : first = ".."
      · simp only [if_neg hskip, if_pos hup] at h ⊢
        exact ih h
      by_cases hlong : maxName < first.utf8ByteSize
      · rw [if_neg hskip, if_neg hup, if_pos hlong] at h
        cases h
      simp only [if_neg hskip, if_neg hup, if_neg hlong] at h ⊢
      cases hnode : d.node? (current ++ [first]) with
      | none =>
          rw [hnode] at h
          cases h
      | some node =>
          rw [hnode] at h
          cases node with
          | file content => cases h
          | directory => exact ih h

/-- A path with an extension leads elsewhere than the path. -/
theorem place_extension_ne {path : String} {q q' : Place} (h : d.place path = .ok q)
    (h' : d.place (path ++ ".json") = .ok q') : q ≠ q' := by
  obtain ⟨names, last, hpath, hextended⟩ := exists_components_append path ".json" (by decide)
  have hlength : (last ++ ".json").length = last.length + 5 := by
    rw [String.length_append]
    rfl
  have hne (name : String) (hshort : name.length < 5) : last ++ ".json" ≠ name := by
    rintro rfl
    omega
  obtain ⟨⟨-, hpathEmpty, -⟩, hwalk⟩ := place_eq_ok.1 h
  obtain ⟨-, hwalk'⟩ := place_eq_ok.1 h'
  rw [hextended, startsWith_append hpathEmpty] at hwalk'
  -- Both paths go through one directory, and only the longer name surely stays in it.
  obtain ⟨target, htarget, hany⟩ := exists_of_walk_concat (hne "" (by decide)) hwalk'
  rw [hpath, hany, walk_last] at hwalk
  have hq' : q' = target ++ [last ++ ".json"] := by
    rw [walk_last, if_neg (by simp [hne "" (by decide), hne "." (by decide)]),
      if_neg (hne ".." (by decide))] at htarget
    split_ifs at htarget
    exact (Except.ok.inj htarget).symm
  have hcount : q'.length = target.length + 1 := by rw [hq', List.length_append, List.length_singleton]
  rintro rfl
  split_ifs at hwalk with hskip hup hlong
  · obtain rfl := Except.ok.inj hwalk
    omega
  · obtain rfl := Except.ok.inj hwalk
    rw [List.length_dropLast] at hcount
    omega
  · have hlast : target ++ [last] = target ++ [last ++ ".json"] := (Except.ok.inj hwalk).trans hq'
    have hsame : last = last ++ ".json" := by simpa using hlast
    rw [← hsame] at hlength
    omega

end Disk

/-! ### Saves and loads -/

namespace FileStore

variable {d d' : Disk} {dir : String} {slot : Slot} {p : Progress} {device : Except StoreError Unit}

/-- A save that fails leaves all files, and at most more directories. -/
theorem moreDirectories_of_error {e : StoreError} (h : saveOn device d dir slot p = (.error e, d')) :
    d.MoreDirectories d' := by
  have hmade := Disk.moreDirectories_makeDirectories (d := d) (dir.length + 1) dir
  unfold saveOn at h
  split at h
  · rename_i fault made hmake
    rw [hmake] at hmade
    cases h
    exact hmade
  rename_i made hmake
  rw [hmake] at hmade
  dsimp only at hmade h
  split at h
  · cases h
    exact hmade
  rename_i written hcreate
  have hunlinked := hmade.trans (Disk.moreDirectories_unlink_create hcreate)
  split at h
  · cases h
    exact hunlinked
  split at h
  · cases h
    exact hunlinked
  · cases h

/-- A save that succeeds is one on a device that takes all content. -/
theorem save_of_ok (h : saveOn device d dir slot p = (.ok (), d')) : save d dir slot p = (.ok (), d') := by
  cases device with
  | ok u => exact h
  | error e =>
      unfold saveOn at h
      split at h
      · cases h
      dsimp only at h
      split at h <;> cases h

theorem path_modern (dir : String) (slot : Slot) : path dir slot false = path dir slot true ++ ".json" := by
  have hname : slot.env ++ "-" ++ slot.cacheName ≠ "" := by simp
  simp only [path, joinPath, Disk.startsWith_append hname, if_true, Bool.false_eq_true, if_false]
  split_ifs <;> simp only [String.append_assoc]

/-- The file without the extension stays as it was. -/
theorem read_legacy_of_save (h : save d dir slot p = (.ok (), d')) {content : Bytes}
    (hread : d.read (path dir slot true) = .ok content) : d'.read (path dir slot true) = .ok content := by
  obtain ⟨made, q, hmade, htarget, hsame, hnode⟩ := of_save h
  have hmore := Disk.moreDirectories_makeDirectories (d := d) (dir.length + 1) dir
  rw [hmade] at hmore
  obtain ⟨place, hplace, hcontent⟩ := Disk.read_eq_ok.1 hread
  have hthere : d.node? place ≠ none := by simp [hcontent]
  have hmadePlace := Disk.place_of_directories hmore.home (fun q => hmore.kept q _) hthere hplace
  have hmadeThere : made.node? place ≠ none := by simp [hmore.kept _ _ hcontent]
  have hplace' := Disk.place_of_directories hsame.home (fun q => (hsame.directory q).2) hmadeThere hmadePlace
  refine Disk.read_eq_ok.2 ⟨place, hplace', ?_⟩
  have hne : place ≠ q := by
    have hmodern := (Disk.filePlace_eq_ok.1 htarget).2
    rw [path_modern] at hmodern
    exact Disk.place_extension_ne hmadePlace hmodern
  rw [hnode, if_neg hne]
  exact hmore.kept _ _ hcontent

/-- A save that succeeds puts the whole text at the path of the slot and leaves all other files. -/
theorem exists_of_save (h : save d dir slot p = (.ok (), d')) :
    ∃ q, d'.place (path dir slot false) = .ok q ∧ d'.node? q = some (file (p.stamp slot)) ∧ d.SameFiles d' {q} := by
  obtain ⟨made, q, hmade, htarget, hsame, hnode⟩ := of_save h
  have hmore := Disk.moreDirectories_makeDirectories (d := d) (dir.length + 1) dir
  rw [hmade] at hmore
  have hplace := (Disk.filePlace_eq_ok.1 (Disk.filePlace_of_sameDirectories hsame htarget)).2
  refine ⟨q, hplace, by rw [hnode, if_pos rfl], fun r hr content => ?_⟩
  have hne : r ≠ q := hr
  rw [hnode, if_neg hne]
  exact hmore.sameFiles ∅ r (Set.notMem_empty r) content

theorem readFile_of_content {path : String} {content : Bytes} (h : d.content? path = some content) :
    readFile d path = ofContent path content := by
  rw [readFile, Disk.content?_eq_some.1 h]

/-- The file without the extension is looked at only if there is no other one. -/
theorem load_eq (d : Disk) (dir : String) (slot : Slot) : load d dir slot =
    match d.content? (path dir slot false), d.content? (path dir slot true) with
    | some content, _ => (ofContent (path dir slot false) content).map some
    | none, some content => (ofContent (path dir slot true) content).map some
    | none, none => .ok none := by
  unfold load
  rw [Disk.isFile_eq_isSome, Disk.isFile_eq_isSome]
  cases hmodern : d.content? (path dir slot false) with
  | some content => exact congrArg (Except.map some) (readFile_of_content hmodern)
  | none =>
      cases hlegacy : d.content? (path dir slot true) with
      | some content => exact congrArg (Except.map some) (readFile_of_content hlegacy)
      | none => rfl

/-- A save that fails leaves every file as it was and adds none, wherever it failed and also if the device did not take
the content.  A save that succeeds puts the whole text of the progress, under the name of its slot, at the path of the
slot; every other file stays as it was, that of an older tool included, and no temporary file is left.  So does each
save into a directory that takes a temporary file and has nothing but a file in the place of the slot.  A load leaves
the tree as it was, looks at the file of an older tool only if there is no other, and reports one that holds no
progress. -/
theorem save_atomic (device : Except StoreError Unit) (d : Disk) (dir : String) (slot : Slot) (p : Progress) :
    (match saveOn device d dir slot p with
      | (.error _, d') => d.SameFiles d' ∅
      | (.ok (), d') => ∃ q, d'.place (path dir slot false) = .ok q ∧
          d'.node? q = some (.file (Utf8.encode (p.stamp slot).toJson)) ∧ d.SameFiles d' {q} ∧
            ∀ content ∈ d.content? (path dir slot true), d'.content? (path dir slot true) = some content) ∧
    (∀ t q, d.makeDirectories (dir.length + 1) dir = (none, d) →
      d.filePlace (temporaryPath d dir (d.nodes.length + 1)) = .ok t → d.node? t = none →
      d.filePlace (path dir slot false) = .ok q → d.node? q ≠ some .directory →
        ∃ d', save d dir slot p = (.ok (), d')) ∧
    (Cli.answerOffline dir (.load slot) d).2 = d ∧
    (load d dir slot =
      match d.content? (path dir slot false), d.content? (path dir slot true) with
      | some content, _ => (ofContent (path dir slot false) content).map some
      | none, some content => (ofContent (path dir slot true) content).map some
      | none, none => .ok none) ∧
    ∀ content ∈ d.content? (path dir slot false), ∀ fault, Progress.ofJson content = .error fault →
      load d dir slot = .error (.corrupt (path dir slot false) fault) := by
  refine ⟨?_, fun t q hmake htemporary hfree htarget hq => exists_save hmake htemporary hfree htarget hq p, rfl,
    load_eq d dir slot, fun content hcontent fault hfault => ?_⟩
  · split
    · rename_i e d' hsave
      exact (moreDirectories_of_error hsave).sameFiles ∅
    · rename_i d' hsave
      have hsave := save_of_ok hsave
      obtain ⟨q, hplace, hnode, hsame⟩ := exists_of_save hsave
      refine ⟨q, hplace, hnode, hsame, fun content hcontent => ?_⟩
      exact Disk.content?_eq_some.2 (read_legacy_of_save hsave (Disk.content?_eq_some.1 hcontent))
  · rw [load_eq, Option.mem_def.1 hcontent]
    simp only [ofContent, hfault]
    rfl

/-- A tree with the file of an older tool. -/
def oneOlderFile : Disk := ⟨[(["cache"], .directory), (["cache", "devnet-drop"], .file [0x7b])], []⟩

/-- A tree with the file of an older tool and with a directory in the place of the other one. -/
def blockedFile : Disk :=
  ⟨[(["cache"], .directory), (["cache", "devnet-drop"], .file [0x7b]), (["cache", "devnet-drop.json"], .directory)], []⟩

theorem save_atomic_oneOlderFile :
    (∃ d' q, save oneOlderFile "cache" ⟨"devnet", "drop"⟩ .blank = (.ok (), d') ∧
      d'.node? q = some (.file (Utf8.encode (Progress.blank.stamp ⟨"devnet", "drop"⟩).toJson)) ∧
      oneOlderFile.SameFiles d' {q} ∧ d'.content? (path "cache" ⟨"devnet", "drop"⟩ true) = some [0x7b]) ∧
    ∃ e d', save blockedFile "cache" ⟨"devnet", "drop"⟩ .blank = (.error e, d') ∧ blockedFile.SameFiles d' ∅ := by
  constructor
  · obtain ⟨hsave, -⟩ := save_atomic (.ok ()) oneOlderFile "cache" ⟨"devnet", "drop"⟩ .blank
    have hok : (save oneOlderFile "cache" ⟨"devnet", "drop"⟩ .blank).1 = .ok () := eq_ok_of_isOk (by decide +kernel)
    have hpair : saveOn (.ok ()) oneOlderFile "cache" ⟨"devnet", "drop"⟩ .blank = (.ok (), _) := Prod.ext hok rfl
    rw [hpair] at hsave
    obtain ⟨q, -, hnode, hsame, hlegacy⟩ := hsave
    exact ⟨_, q, hpair, hnode, hsame, hlegacy [0x7b] (of_decide_eq_true (by decide +kernel))⟩
  · obtain ⟨hsave, -⟩ := save_atomic (.ok ()) blockedFile "cache" ⟨"devnet", "drop"⟩ .blank
    obtain ⟨e, he⟩ : ∃ e, (save blockedFile "cache" ⟨"devnet", "drop"⟩ .blank).1 = .error e :=
      exists_error_of_not_isOk (by decide +kernel)
    have hpair : saveOn (.ok ()) blockedFile "cache" ⟨"devnet", "drop"⟩ .blank = (.error e, _) := Prod.ext he rfl
    rw [hpair] at hsave
    exact ⟨e, _, hpair, hsave⟩

end FileStore

end MintDrop
