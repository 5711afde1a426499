import MintDrop.Proofs.Json.Number

/-!
# Reading written values

`ReadsBack reader levels written a` says that a reader reads the value `a` off what it was written as, whatever
follows it.  It holds of flags and texts, of objects by their members (`readsBack_fields`) and of objects with
numbered entries (`readsBack_numbered`).  How the members of an object fill it is the relation `Fills`, one step for
each member.
-/

namespace MintDrop.Json

variable {α σ : Type}

/-- A reader reads a value off its written form, whatever follows, if more than `levels` levels may be opened. -/
def ReadsBack (reader : Reader α) (levels : ℕ) (written : List Char) (a : α) : Prop :=
  ∀ (depth : ℕ) (rest : Bytes), levels < depth → reader depth (utf8 written ++ rest) = .ok (a, rest)

theorem ReadsBack.mono {reader : Reader α} {levels levels' : ℕ} {written : List Char} {a : α}
    (h : ReadsBack reader levels written a) (hle : levels ≤ levels') : ReadsBack reader levels' written a :=
  fun depth rest hdepth => h depth rest (Nat.lt_of_le_of_lt hle hdepth)

theorem document_of_readsBack {reader : Reader α} {levels : ℕ} {written : List Char} {a : α}
    (h : ReadsBack reader levels written a) (hlevels : levels < maxDepth) :
    document reader (utf8 written) = .ok a := by
  have hread := h maxDepth [] hlevels
  rw [List.append_nil] at hread
  simp only [document, hread, bind, Except.bind]
  rfl

/-! ### Flags and texts -/

theorem readsBack_boolean (b : Bool) : ReadsBack boolean 0 (writeBool b) b := by
  intro depth rest _
  cases b <;> rfl

theorem utf8_writeString (s : String) (rest : Bytes) :
    utf8 (writeString s) ++ rest = byte '"' :: (utf8 (s.toList.flatMap escapeChar) ++ byte '"' :: rest) := by
  rw [writeString, utf8_append, List.append_assoc, utf8_cons (by decide)]
  rfl

theorem readsBack_text (s : String) : ReadsBack text 0 (writeString s) s := by
  intro depth rest _
  rw [utf8_writeString]
  exact string_written s rest

theorem readsBack_optional (s : String) : ReadsBack (optional text) 0 (writeString s) (some s) := by
  intro depth rest _
  rw [utf8_writeString]
  change (string _).map _ = _
  rw [string_written]
  rfl

/-! ### Objects -/

/-- The written form of an object from the next member on. -/
def written (first : Bool) : List (String × List Char) → List Char
  | [] => ['\x7d']
  | (key, value) :: members =>
      (if first then [] else [',']) ++ (writeString key ++ ':' :: value) ++ written false members

theorem intercalate_written (head : List Char) (members : List (String × List Char)) :
    [','].intercalate (head :: members.map fun (key, value) => writeString key ++ ':' :: value) ++ ['\x7d']
      = head ++ written false members := by
  induction members generalizing head with
  | nil => simp [written, List.intercalate]
  | cons member members ih =>
      obtain ⟨key, value⟩ := member
      rw [List.map_cons, List.intercalate_cons_cons, List.append_assoc, ih]
      simp [written]

theorem writeObject_eq (members : List (String × List Char)) :
    writeObject members = '\x7b' :: written true members := by
  cases members with
  | nil => rfl
  | cons member members =>
      obtain ⟨key, value⟩ := member
      exact congrArg _ (intercalate_written (writeString key ++ ':' :: value) members)

variable {first : Bool} {key : String} {value : List Char} {members : List (String × List Char)} {rest : Bytes}

theorem colon_cons : colon (byte ':' :: rest) = .ok rest := rfl

theorem nextKey_nil : nextKey first (utf8 (written first []) ++ rest) = .ok (none, rest) := rfl

theorem utf8_member (key : String) (value : List Char) (rest : Bytes) : utf8 (writeString key ++ ':' :: value) ++ rest =
    byte '"' :: (utf8 (key.toList.flatMap escapeChar) ++ byte '"' :: byte ':' :: (utf8 value ++ rest)) := by
  rw [utf8_append, List.append_assoc, utf8_writeString, utf8_cons (by decide)]
  rfl

theorem nextKey_cons : nextKey first (utf8 (written first ((key, value) :: members)) ++ rest) =
    .ok (some (utf8 (key.toList.flatMap escapeChar) ++
      byte '"' :: byte ':' :: (utf8 value ++ (utf8 (written false members) ++ rest))), []) := by
  cases first with
  | true =>
      change nextKey true (utf8 ((writeString key ++ ':' :: value) ++ written false members) ++ rest) = _
      rw [utf8_append, List.append_assoc, utf8_member]
      rfl
  | false =>
      change nextKey false (utf8 (',' :: ((writeString key ++ ':' :: value) ++ written false members)) ++ rest) = _
      rw [utf8_cons (by decide), utf8_append, List.cons_append, List.append_assoc, utf8_member]
      rfl

theorem length_lt_written (first : Bool) (members : List (String × List Char)) :
    members.length < (utf8 (written first members)).length := by
  induction members generalizing first with
  | nil => exact Nat.one_pos
  | cons member members ih =>
      obtain ⟨key, value⟩ := member
      have hstep := ih false
      have hmember := congrArg List.length (utf8_member key value [])
      rw [List.append_nil, List.length_cons] at hmember
      rw [written, utf8_append, utf8_append, List.length_append, List.length_append, List.length_cons]
      omega

/-- There are more bytes than members, so that the steps of a reader, one for each byte, are enough. -/
theorem length_lt_steps (members : List (String × List Char)) (rest : Bytes) :
    members.length < (utf8 (written true members) ++ rest).length + 1 := by
  have hlt := length_lt_written true members
  rw [List.length_append]
  omega

/-! ### Objects of fields -/

theorem readsBack_field {reader : Reader α} {levels : ℕ} {a : α} (h : ReadsBack reader levels value a) (name : String)
    (presence : Presence) (set : σ → α → σ) (s : σ) :
    ReadsBack ((field name presence reader set).read s) levels value (set s a) := by
  intro depth rest hdepth
  change (reader depth (utf8 value ++ rest)).map _ = _
  rw [h depth rest hdepth]
  rfl

/-- Members of an object fill it, from some names that it has and a value on. -/
inductive Fills (fields : List (Field σ)) (levels : ℕ) :
    (seen : List String) → σ → List (String × List Char) → (seen' : List String) → σ → Prop
  | done (seen : List String) (s : σ) : Fills fields levels seen s [] seen s
  | member {seen seen' : List String} {s s' t : σ} {key : String} {value : List Char}
      {members : List (String × List Char)} {f : Field σ} (hfind : Field.find? fields key = some f)
      (hnew : f.name ∉ seen) (hread : ReadsBack (f.read s) levels value s')
      (hrest : Fills fields levels (f.name :: seen) s' members seen' t) :
      Fills fields levels seen s ((key, value) :: members) seen' t

theorem members_of_fills {fields : List (Field σ)} {levels : ℕ} {seen seen' : List String} {s t : σ}
    (h : Fills fields levels seen s members seen' t)
    (hrequired : ∀ f ∈ fields, f.presence = .required → f.name ∈ seen') {depth steps : ℕ} (hdepth : levels < depth)
    (hsteps : members.length < steps) (first : Bool) (rest : Bytes) :
    Json.members fields depth steps first seen s (utf8 (written first members) ++ rest) = .ok (t, rest) := by
  -- Each member takes one step, and the closing brace the last one.
  obtain ⟨steps, rfl⟩ : ∃ n, steps = n + 1 := ⟨steps - 1, by omega⟩
  induction h generalizing steps first with
  | done seen s =>
      have hall : fields.find? (fun f => f.presence = .required && !seen.contains f.name) = none := by
        rw [List.find?_eq_none]
        intro f hf
        by_cases hpresence : f.presence = .required
        · simp [hpresence, hrequired f hf hpresence]
        · simp [hpresence]
      simp only [Json.members, nextKey_nil, hall, bind, Except.bind, pure, Except.pure]
  | @member seen seen' s s' t key value members f hfind hnew hread hrest ih =>
      obtain ⟨steps, rfl⟩ : ∃ n, steps = n + 1 := ⟨steps - 1, by rw [List.length_cons] at hsteps; omega⟩
      have hcontains : seen.contains f.name = false := by simpa using hnew
      rw [Json.members, nextKey_cons]
      simp only [string_written, hfind, hcontains, colon_cons, hread depth _ hdepth, bind, Except.bind,
        Bool.false_eq_true, if_false]
      exact ih hrequired false steps (by simpa using hsteps)

theorem readsBack_fields {fields : List (Field σ)} {levels : ℕ} (seen : List String) {blank s : σ}
    (h : Fills fields levels [] blank members seen s)
    (hrequired : ∀ f ∈ fields, f.presence = .required → f.name ∈ seen) (title : String) :
    ReadsBack (Json.fields title fields blank) (levels + 1) (writeObject members) s := by
  intro depth rest hdepth
  have hdepth' : levels < depth - 1 := by omega
  have hread := members_of_fills h hrequired hdepth' (length_lt_steps members rest) true rest
  have hopen : ¬ depth ≤ 1 := by omega
  rw [writeObject_eq, utf8_cons (by decide), List.cons_append]
  simp only [Json.fields, skipBlanks_cons (b := byte '\x7b') (by decide), hopen, hread, if_false]
  rfl

/-! ### Objects with numbered entries -/

/-- The members of an object with numbered entries. -/
def numberedMembers (write : α → List Char) (entries : List (UInt32 × α)) : List (String × List Char) :=
  entries.map fun (i, a) => (toString i.toNat, write a)

theorem length_numberedMembers (write : α → List Char) (entries : List (UInt32 × α)) :
    (numberedMembers write entries).length = entries.length := List.length_map _

variable {reader : Reader α} {levels : ℕ} {write : α → List Char} {entries : List (UInt32 × α)}

theorem numberedEntries_written (h : ∀ e ∈ entries, ReadsBack reader levels (write e.2) e.2) {depth steps : ℕ}
    (hdepth : levels < depth) (hsteps : entries.length < steps) (first : Bool) (rest : Bytes) :
    numberedEntries reader depth steps first (utf8 (written first (numberedMembers write entries)) ++ rest)
      = .ok (entries, rest) := by
  obtain ⟨steps, rfl⟩ : ∃ n, steps = n + 1 := ⟨steps - 1, by omega⟩
  induction entries generalizing steps first with
  | nil => rfl
  | cons e entries ih =>
      obtain ⟨i, a⟩ := e
      obtain ⟨ha, hentries⟩ := List.forall_mem_cons.1 h
      obtain ⟨steps, rfl⟩ : ∃ n, steps = n + 1 := ⟨steps - 1, by rw [List.length_cons] at hsteps; omega⟩
      have hread := ha depth (utf8 (written false (numberedMembers write entries)) ++ rest) hdepth
      have htail := ih hentries false steps (by simpa using hsteps)
      have hkey := uint32_key i depth (byte ':' :: (utf8 (write a) ++
        (utf8 (written false (numberedMembers write entries)) ++ rest)))
      obtain ⟨b, bs, hbs, hb⟩ := exists_digit_key i.toNat
      change numberedEntries reader depth (steps + 1 + 1) first
        (utf8 (written first ((toString i.toNat, write a) :: numberedMembers write entries)) ++ rest) = _
      rw [numberedEntries, nextKey_cons, utf8_key]
      rw [hbs, List.cons_append] at hkey ⊢
      simp only [hb, hkey, colon_cons, hread, htail, bind, Except.bind, pure, Except.pure, Bool.or_true, Bool.not_true,
        Bool.false_eq_true, if_false, ne_eq, not_true_eq_false]

theorem readsBack_numbered (h : ∀ e ∈ entries, ReadsBack reader levels (write e.2) e.2) :
    ReadsBack (numbered reader) (levels + 1) (writeObject (numberedMembers write entries)) entries := by
  intro depth rest hdepth
  have hdepth' : levels < depth - 1 := by omega
  have hlong := length_lt_steps (numberedMembers write entries) rest
  rw [length_numberedMembers] at hlong
  have hread := numberedEntries_written h hdepth' hlong true rest
  have hopen : ¬ depth ≤ 1 := by omega
  rw [writeObject_eq, utf8_cons (by decide), List.cons_append]
  simp only [numbered, skipBlanks_cons (b := byte '\x7b') (by decide), hopen, hread, if_false, ne_eq,
    not_true_eq_false]

end MintDrop.Json
