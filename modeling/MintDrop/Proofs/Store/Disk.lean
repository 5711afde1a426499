import MintDrop.Proofs.Except
import MintDrop.Entries
import MintDrop.Store.Disk

/-!
# What a tree looks like after a change

`node?_setNode` says what a change of one object does to the tree.  Where a path leads depends on the directories of the
tree only (`place_of_sameDirectories`), so that files can be written and moved without moving anything else.
`place_joinPath` finds a name in a directory.
-/

namespace MintDrop

/-! ### Components of a path -/

/-- A text whose last part is empty is empty or ends with the separator. -/
theorem getLast?_of_splitOn {a : Char} {cs : List Char} (h : (cs.splitOn a).getLast? = some []) :
    cs = [] ∨ cs.getLast? = some a := by
  induction hn : cs.length using Nat.strongRecOn generalizing cs with
  | ind n ih =>
      by_cases ha : a ∈ cs
      · obtain ⟨xs, as, rfl⟩ := List.append_of_mem ha
        obtain ⟨last, hlast⟩ : ∃ last, (as.splitOn a).getLast? = some last :=
          ⟨_, List.getLast?_eq_some_getLast (List.splitOn_ne_nil _ _)⟩
        rw [List.splitOn_append_cons_self, List.getLast?_append, hlast, Option.some_or] at h
        right
        rcases ih as.length (by simp only [← hn, List.length_append, List.length_cons]; omega) (hlast.trans h) rfl with
          rfl | has
        · rw [List.getLast?_append]
          rfl
        · rw [List.getLast?_append, List.getLast?_cons, has]
          rfl
      · rw [List.splitOn_eq_singleton ha] at h
        exact .inl (Option.some.inj h)

theorem getLast?_components {path : String} (hempty : path ≠ "") (hslash : path.endsWith '/' = false) :
    (components path).getLast? ≠ some "" := by
  intro h
  rw [components, List.getLast?_map, Option.map_eq_some_iff] at h
  obtain ⟨last, hlast, hnil⟩ := h
  obtain rfl : last = [] := by simpa using hnil
  rw [String.endsWith_char_eq_getLast?] at hslash
  rcases getLast?_of_splitOn hlast with hnil | hlast
  · exact hempty (String.toList_inj.1 hnil)
  · simp [hlast] at hslash

namespace Disk

/-! ### Objects after a change -/

variable {d d' : Disk} {place : Place}

theorem node?_of_ne_nil (d : Disk) (hplace : place ≠ []) : d.node? place = d.nodes.lookup place := by
  rw [node?, if_neg (by simpa using hplace)]

theorem node?_setNode (hplace : place ≠ []) (node : Option Node) (q : Place) :
    (d.setNode place node).node? q = if q = place then node else d.node? q := by
  by_cases hq : q = []
  · subst hq
    exact (if_neg (Ne.symm hplace)).symm
  · rw [node?_of_ne_nil _ hq, node?_of_ne_nil _ hq]
    cases node with
    | none => exact Entries.lookup_filter_ne place q d.nodes
    | some node => exact Entries.lookup_replace place q node d.nodes

/-- Trees with the same directories. -/
structure SameDirectories (d d' : Disk) : Prop where
  home : d'.home = d.home
  directory : ∀ q, d'.node? q = some .directory ↔ d.node? q = some .directory

theorem SameDirectories.symm (h : d.SameDirectories d') : d'.SameDirectories d :=
  ⟨h.home.symm, fun q => (h.directory q).symm⟩

/-- An object that is no directory may be replaced by a file or by nothing. -/
theorem sameDirectories_setNode (hplace : d.node? place ≠ some .directory) {node : Option Node}
    (hnode : node ≠ some .directory) : d.SameDirectories (d.setNode place node) := by
  have hne : place ≠ [] := by
    rintro rfl
    exact hplace rfl
  refine ⟨rfl, fun q => ?_⟩
  rw [node?_setNode hne]
  by_cases hq : q = place
  · rw [if_pos hq, hq]
    exact iff_of_false hnode hplace
  · rw [if_neg hq]

theorem ne_nil_of_free (h : d.node? place = none) : place ≠ [] := by
  rintro rfl
  cases h

/-- A file may be put where nothing is. -/
theorem sameDirectories_create (h : d.node? place = none) (content : Bytes) :
    d.SameDirectories (d.setNode place (some (.file content))) :=
  sameDirectories_setNode (by rw [h]; simp) (by simp)

/-! ### Where paths lead -/

theorem getLast?_tail {name : String} {rest : List String} (h : (name :: rest).getLast? ≠ some "") :
    rest.getLast? ≠ some "" := by
  intro hrest
  rw [List.getLast?_cons, hrest] at h
  exact h rfl

/-- Where components lead, if the last one has a name or leads to a directory. -/
theorem walk_of_sameDirectories (h : d.SameDirectories d') {current target : Place} {names : List String}
    (hend : names.getLast? ≠ some "" ∨ d.node? target = some .directory) (hwalk : d.walk current names = .ok target) :
    d'.walk current names = .ok target := by
  fun_induction walk d current names with
  | case1 current => exact hwalk
  | case2 current name rest hname ih =>
      rw [walk, if_pos hname]
      exact ih (hend.imp_left getLast?_tail) hwalk
  | case3 current rest hname ih =>
      rw [walk, if_neg hname, if_pos rfl]
      exact ih (hend.imp_left getLast?_tail) hwalk
  | case5 current name rest hname hup hlong hrest =>
      rw [walk, if_neg hname, if_neg hup, if_neg hlong, if_pos hrest, hwalk]
  | case6 current name rest hname hup hlong hrest hnode ih =>
      rw [walk, if_neg hname, if_neg hup, if_neg hlong, if_neg hrest, (h.directory _).2 hnode]
      exact ih (hend.imp_left getLast?_tail) hwalk
  | case8 current name rest hname hup hlong hrest hnode hall =>
      -- Only slashes follow, and they follow nothing.
      cases hwalk
      rcases hend with hend | hend
      · have hlast : rest.getLast? = some "" := by
          obtain ⟨last, hlast⟩ : ∃ last, rest.getLast? = some last :=
            ⟨_, List.getLast?_eq_some_getLast (by simpa using hrest)⟩
          have hempty : last = "" := by simpa using List.all_eq_true.1 hall last (List.mem_of_getLast? hlast)
          rw [hlast, hempty]
        exact absurd hlast (getLast?_tail hend)
      · rw [hnode] at hend
        cases hend
  | case4 | case7 | case9 => cases hwalk

theorem place_eq_ok {path : String} {target : Place} : d.place path = .ok target ↔
    ('\x00' ∉ path.toList ∧ path ≠ "" ∧ path.utf8ByteSize ≤ maxPath) ∧
      d.walk (if path.startsWith '/' then [] else d.home) (components path) = .ok target := by
  unfold place
  by_cases hnul : '\x00' ∈ path.toList
  · simp [hnul]
  by_cases hempty : path = ""
  · simp [hempty]
  by_cases hlong : maxPath < path.utf8ByteSize
  · simp [hnul, hempty, hlong, Nat.not_le.2 hlong]
  · simp [hnul, hempty, hlong, Nat.not_lt.1 hlong]

/-- Where a path leads that has a name at its end or leads to a directory. -/
theorem place_of_sameDirectories (h : d.SameDirectories d') {path : String} {target : Place}
    (hend : path.endsWith '/' = false ∨ d.node? target = some .directory) (hplace : d.place path = .ok target) :
    d'.place path = .ok target := by
  obtain ⟨hpath, hwalk⟩ := place_eq_ok.1 hplace
  refine place_eq_ok.2 ⟨hpath, ?_⟩
  rw [h.home]
  exact walk_of_sameDirectories h (hend.imp_left (getLast?_components hpath.2.1)) hwalk

theorem filePlace_eq_ok {path : String} {target : Place} :
    d.filePlace path = .ok target ↔ path.endsWith '/' = false ∧ d.place path = .ok target := by
  unfold filePlace
  cases path.endsWith '/' <;> simp

theorem filePlace_of_sameDirectories (h : d.SameDirectories d') {path : String} {target : Place}
    (hplace : d.filePlace path = .ok target) : d'.filePlace path = .ok target := by
  obtain ⟨hslash, hplace⟩ := filePlace_eq_ok.1 hplace
  exact filePlace_eq_ok.2 ⟨hslash, place_of_sameDirectories h (.inl hslash) hplace⟩

/-! ### Names in a directory -/

/-- Whether a text names one object in a directory. -/
structure ProperName (name : String) : Prop where
  ne_empty : name ≠ ""
  ne_dot : name ≠ "."
  ne_dots : name ≠ ".."
  slash : '/' ∉ name.toList
  nul : '\x00' ∉ name.toList

theorem components_slash (dir name : String) (hname : '/' ∉ name.toList) :
    components (dir ++ "/" ++ name) = components dir ++ [name] := by
  have hsplit : (dir ++ "/" ++ name).toList = dir.toList ++ '/' :: name.toList := by simp
  rw [components, hsplit, List.splitOn_append_cons_self, List.splitOn_eq_singleton hname, List.map_append, components]
  simp

variable {current target : Place} {names : List String} {name : String}

theorem walk_singleton (hname : ProperName name) (current : Place) :
    d.walk current [name] = if maxName < name.utf8ByteSize then .error .nameTooLong else .ok (current ++ [name]) := by
  have hskip : ¬ (name.isEmpty || decide (name = ".")) = true := by simp [hname.ne_empty, hname.ne_dot]
  rw [walk, if_neg hskip, if_neg hname.ne_dots]
  rfl

/-- A name behind components that lead to a directory. -/
theorem walk_concat (hwalk : d.walk current names = .ok target) (hdirectory : d.node? target = some .directory)
    (name : String) : d.walk current (names ++ [name]) = d.walk target [name] := by
  fun_induction walk d current names with
  | case1 current =>
      cases hwalk
      rfl
  | case2 current first rest hfirst ih =>
      rw [List.cons_append, walk, if_pos hfirst, ih hwalk]
  | case3 current rest hfirst ih =>
      rw [List.cons_append, walk, if_neg hfirst, if_pos rfl, ih hwalk]
  | case5 current first rest hfirst hup hshort hrest =>
      cases hwalk
      obtain rfl := List.isEmpty_iff.1 hrest
      rw [List.singleton_append, walk, if_neg hfirst, if_neg hup, if_neg hshort, if_neg (by simp), hdirectory]
  | case6 current first rest hfirst hup hshort hrest hnode ih =>
      rw [List.cons_append, walk, if_neg hfirst, if_neg hup, if_neg hshort, if_neg (by simp), hnode]
      exact ih hwalk
  | case8 current first rest hfirst hup hshort hrest hnode hall =>
      cases hwalk
      rw [hnode] at hdirectory
      cases hdirectory
  | case4 | case7 | case9 => cases hwalk

/-- A slash more before a name changes nothing. -/
theorem walk_empty_concat (hname : name ≠ "") (current : Place) (names : List String) :
    d.walk current (names ++ ["", name]) = d.walk current (names ++ [name]) := by
  have hempty : name.isEmpty = false := by simpa using hname
  induction names generalizing current with
  | nil => rw [List.nil_append, walk, if_pos (by rfl), List.nil_append]
  | cons first names ih =>
      have hall : (names ++ ["", name]).all (·.isEmpty) = (names ++ [name]).all (·.isEmpty) := by simp [hempty]
      have hnil : (names ++ ["", name]).isEmpty = (names ++ [name]).isEmpty := by
        cases names <;> rfl
      rw [List.cons_append, List.cons_append, walk, walk, ih, ih, ih, hall, hnil]

/-- A name is put behind a directory with one slash between them. -/
theorem joinPath_of_properName {dir : String} (hdir : dir ≠ "") (hname : ProperName name) :
    ∃ slash, (slash = "" ∨ slash = "/") ∧ joinPath dir name = dir ++ slash ++ name ∧
      ∀ d : Disk, ∀ current, d.walk current (components (joinPath dir name))
        = d.walk current (components dir ++ [name]) := by
  have hstart : name.startsWith '/' = false := by
    rw [String.startsWith_char_eq_head?]
    exact beq_eq_false_iff_ne.2 fun hhead => hname.slash (List.mem_of_head? hhead)
  have hempty : dir.isEmpty = false := by simpa using hdir
  cases hslash : dir.endsWith '/' with
  | true =>
      have hjoin : joinPath dir name = dir ++ name := by
        simp only [joinPath, hstart, hempty, hslash, Bool.or_self, Bool.false_eq_true, if_false, if_true]
      obtain ⟨outer, rfl⟩ := String.endsWith_char_iff_exists_append.1 hslash
      have hdirComponents : components (outer ++ "/") = components outer ++ [""] := by
        have hcomponents := components_slash outer "" (by simp)
        rwa [String.append_empty] at hcomponents
      refine ⟨"", .inl rfl, by rw [hjoin, String.append_empty], fun d current => ?_⟩
      have hname' : components (outer ++ "/" ++ name) = components outer ++ [name] :=
        components_slash outer name hname.slash
      change d.walk current (components (joinPath (outer ++ "/") name)) =
        d.walk current (components (outer ++ "/") ++ _)
      rw [hdirComponents, List.append_assoc]
      exact (congrArg _ (hjoin ▸ hname')).trans (walk_empty_concat hname.ne_empty current _).symm
  | false =>
      have hjoin : joinPath dir name = dir ++ "/" ++ name := by
        simp only [joinPath, hstart, hempty, hslash, Bool.or_self, Bool.false_eq_true, if_false]
      refine ⟨"/", .inr rfl, hjoin, fun d current => ?_⟩
      rw [hjoin, components_slash dir name hname.slash]

theorem endsWith_joinPath {dir : String} (hdir : dir ≠ "") (hname : ProperName name) :
    (joinPath dir name).endsWith '/' = false := by
  obtain ⟨slash, -, hjoin, -⟩ := joinPath_of_properName hdir hname
  have hnil : name.toList ≠ [] := fun h => hname.ne_empty (String.toList_inj.1 h)
  rw [hjoin, String.endsWith_char_eq_getLast?, String.toList_append, List.getLast?_append_of_ne_nil _ hnil]
  exact beq_eq_false_iff_ne.2 fun hlast => hname.slash (List.mem_of_getLast? hlast)

/-- A name in a directory is found there, unless it is too long. -/
theorem place_joinPath {dir : String} (hplace : d.place dir = .ok target)
    (hdirectory : d.node? target = some .directory) (hname : ProperName name) {q : Place} :
    d.place (joinPath dir name) = .ok q ↔
      name.utf8ByteSize ≤ maxName ∧ (joinPath dir name).utf8ByteSize ≤ maxPath ∧ q = target ++ [name] := by
  obtain ⟨⟨hnul, hempty, -⟩, hwalk⟩ := place_eq_ok.1 hplace
  obtain ⟨slash, hslash, hjoin, hcomponents⟩ := joinPath_of_properName hempty hname
  have hlist : (joinPath dir name).toList = dir.toList ++ (slash.toList ++ name.toList) := by
    rw [hjoin, String.toList_append, String.toList_append, List.append_assoc]
  have hdir : dir.toList ≠ [] := fun h => hempty (String.toList_inj.1 h)
  have hnul' : '\x00' ∉ (joinPath dir name).toList := by
    rw [hlist, List.mem_append, List.mem_append, not_or, not_or]
    refine ⟨hnul, ?_, hname.nul⟩
    rcases hslash with rfl | rfl <;> decide
  have hne : joinPath dir name ≠ "" := by
    intro h
    rw [h] at hlist
    simp [hdir] at hlist
  have hstarts : (joinPath dir name).startsWith '/' = dir.startsWith '/' := by
    rw [String.startsWith_char_eq_head?, String.startsWith_char_eq_head?, hlist, List.head?_append_of_ne_nil _ hdir]
  rw [place_eq_ok, hcomponents, hstarts, walk_concat hwalk hdirectory, walk_singleton hname]
  by_cases hlong : maxName < name.utf8ByteSize
  · rw [if_pos hlong]
    exact ⟨fun ⟨_, h⟩ => (by cases h), fun ⟨h, _⟩ => absurd hlong (Nat.not_lt.2 h)⟩
  · rw [if_neg hlong]
    constructor
    · rintro ⟨⟨-, -, hpath⟩, h⟩
      exact ⟨Nat.not_lt.1 hlong, hpath, (Except.ok.inj h).symm⟩
    · rintro ⟨-, hpath, rfl⟩
      exact ⟨⟨hnul', hne, hpath⟩, rfl⟩

/-! ### Operations that succeed -/

theorem makeDirectories_of_directory {path : String} (hplace : d.place path = .ok target)
    (hdirectory : d.node? target = some .directory) (steps : Nat) : d.makeDirectories (steps + 1) path = (none, d) := by
  have hempty : path.isEmpty = false := by simpa using (place_eq_ok.1 hplace).1.2.1
  have hmake : d.makeDirectory path = .error .exists := by
    simp only [makeDirectory, hplace, hdirectory, bind, Except.bind, Option.isSome_some, if_true]
    rfl
  have hthere : d.isDirectory path = true := by
    rw [isDirectory, lookup, hplace]
    exact decide_eq_true hdirectory
  simp only [makeDirectories, hempty, hmake, hthere, Bool.false_eq_true, if_false, if_true]

theorem read_eq_ok {path : String} {content : Bytes} :
    d.read path = .ok content ↔ ∃ q, d.place path = .ok q ∧ d.node? q = some (.file content) := by
  unfold read
  cases hplace : d.place path with
  | error fault => simp [bind, Except.bind]
  | ok q =>
      cases hnode : d.node? q with
      | none => simp [bind, Except.bind, hnode, throw, throwThe, MonadExceptOf.throw]
      | some node =>
          cases node <;>
            simp [bind, Except.bind, hnode, pure, Except.pure, throw, throwThe, MonadExceptOf.throw]

theorem isFile_iff {path : String} :
    d.isFile path = true ↔ ∃ q content, d.place path = .ok q ∧ d.node? q = some (.file content) := by
  unfold isFile lookup
  cases hplace : d.place path with
  | error fault => simp
  | ok q =>
      cases hnode : d.node? q with
      | none => simp [hnode]
      | some node => cases node <;> simp [hnode]

theorem create_eq_ok {path : String} {content : Bytes} :
    d.create path content = .ok d' ↔
      ∃ q, d.filePlace path = .ok q ∧ d.node? q = none ∧ d' = d.setNode q (some (.file content)) := by
  unfold create
  cases hplace : d.filePlace path with
  | error fault => simp [bind, Except.bind]
  | ok q =>
      cases hnode : d.node? q with
      | none => simp [bind, Except.bind, hnode, pure, Except.pure, eq_comm]
      | some node => simp [bind, Except.bind, hnode, throw, throwThe, MonadExceptOf.throw]

theorem rename_eq_ok {source path : String} :
    d.rename source path = .ok d' ↔
      ∃ p content q, d.place source = .ok p ∧ d.node? p = some (.file content) ∧ d.filePlace path = .ok q ∧
        d.node? q ≠ some .directory ∧ d' = (d.setNode p none).setNode q (some (.file content)) := by
  constructor
  · intro h
    obtain ⟨content, hread, h⟩ := exists_of_bind_eq_ok h
    obtain ⟨q, htarget, h⟩ := exists_of_bind_eq_ok h
    obtain ⟨p, hsource, hnode⟩ := read_eq_ok.1 hread
    rw [hsource] at h
    by_cases hq : d.node? q = some .directory
    · rw [hq] at h
      cases h
    · refine ⟨p, content, q, hsource, hnode, htarget, hq, ?_⟩
      split at h
      · contradiction
      · exact (Except.ok.inj h).symm
  · rintro ⟨p, content, q, hsource, hnode, htarget, hq, rfl⟩
    have hread : d.read source = .ok content := read_eq_ok.2 ⟨p, hsource, hnode⟩
    simp only [rename, hread, htarget, hsource, bind, Except.bind]
    rfl

end Disk

end MintDrop
