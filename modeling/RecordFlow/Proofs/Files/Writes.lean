import RecordFlow.Files.Tree
import RecordFlow.Proofs.Utf8

/-!
# Writes — what a write leaves as it was

A path leads to a list of names, and a write puts a file at the end of them, where there is none yet
or another one.  No other file changes by that (`Files.bytes?_write_of_ne`), whichever path it is
looked up by, and no path leads anywhere else afterwards (`Files.resolve_write_iff`): a path only
goes on at directories and at links, and a write makes none of them and takes none away.

* `Node.Receives` says where a file can be put,
* `Node.passage?` is what a path finds on its way,
* `Files.write_cases` says all that a write does,
* `Files.Rewritten` is what any number of writes at given paths make of a tree.
-/

namespace RecordFlow
namespace Node

variable {tree child : Node} {entries : List (String × Node)} {access : Access}
  {name other : String} {names more rest : List String} {bytes : List UInt8}

/-! ## Looking up and putting -/

theorem at?_cons (tree : Node) (name : String) (rest : List String) :
    tree.at? (name :: rest) = (tree.entry? name).bind (at? rest) := rfl

theorem at?_append (tree : Node) (names more : List String) :
    tree.at? (names ++ more) = (tree.at? names).bind (at? more) := by
  induction names generalizing tree with
  | nil => rfl
  | cons name rest ih =>
    rw [List.cons_append, at?_cons, at?_cons]
    cases tree.entry? name with
    | none => rfl
    | some sub => exact ih sub

theorem entry?_setEntry (child : Node) (entries : List (String × Node)) (access : Access)
    (name other : String) :
    entry? other (.directory (setEntry name child entries) access) =
      if other = name then some child else entry? other (.directory entries access) := by
  induction entries with
  | nil =>
    by_cases h : other = name
    · simp [setEntry, entry?, h]
    · simp [setEntry, entry?, h, Ne.symm h]
  | cons entry rest ih =>
    rcases entry with ⟨first, old⟩
    unfold entry? at ih ⊢
    by_cases hfirst : first = name
    · by_cases hother : other = name
      · simp [setEntry, hfirst, hother]
      · simp [setEntry, hfirst, hother, Ne.symm hother]
    · by_cases hsame : first = other
      · have hother : other ≠ name := fun h => hfirst (hsame.trans h)
        simp [setEntry, hsame, hother]
      · simpa [setEntry, hfirst, hsame] using ih

/-- What stands behind a name in a directory, an empty directory where nothing does. -/
def branch (entries : List (String × Node)) (name : String) : Node :=
  ((entries.find? fun e => e.1 == name).map (·.2)).getD (.directory [])

theorem branch_of_entry? {sub : Node} (h : entry? name (.directory entries access) = some sub) :
    branch entries name = sub := by
  have hfound : (entries.find? fun e => e.1 == name).map (·.2) = some sub := h
  rw [branch, hfound, Option.getD_some]

/-- Below a directory a put changes what stands behind the first of its names. -/
theorem at?_put (entries : List (String × Node)) (access : Access) (name : String)
    (rest : List String) (child : Node) (other : String) (more : List String) :
    ((Node.directory entries access).put (name :: rest) child).at? (other :: more) =
      if other = name then ((branch entries name).put rest child).at? more
      else (Node.directory entries access).at? (other :: more) := by
  have hput : (Node.directory entries access).put (name :: rest) child =
      .directory (setEntry name ((branch entries name).put rest child) entries) access := rfl
  rw [hput, at?_cons, entry?_setEntry]
  by_cases h : other = name
  · rw [if_pos h, if_pos h, Option.bind_some]
  · rw [if_neg h, if_neg h, at?_cons]

/-! ## Kinds of nodes -/

/-- What a node is, but for what lies in a directory. -/
inductive Kind where
  | file (bytes : List UInt8) (access : Access)
  | directory (access : Access)
  | link (absolute : Bool) (target : List String)
  | further (place : List String)
deriving DecidableEq

def kind : Node → Kind
  | .file bytes access => .file bytes access
  | .directory _ access => .directory access
  | .link absolute target => .link absolute target
  | .further place => .further place

/-- What stands at the end of some names. -/
def kindAt? (tree : Node) (names : List String) : Option Kind := (tree.at? names).map kind

/-- What a path can go on with at the end of some names: no file, and no name that is not there. -/
def passage? (tree : Node) (names : List String) : Option Kind :=
  match tree.kindAt? names with
  | some (.file ..) => none
  | kind? => kind?

/-- Whether a directory stands at the end of some names. -/
def HasDirectory (tree : Node) (names : List String) : Prop :=
  ∃ entries access, tree.at? names = some (.directory entries access)

theorem kindAt?_eq_file_iff {tree : Node} {names : List String} {bytes : List UInt8}
    {access : Access} :
    tree.kindAt? names = some (.file bytes access) ↔
      tree.at? names = some (.file bytes access) := by
  unfold kindAt?
  cases tree.at? names with
  | none => simp
  | some node => cases node <;> simp [kind]

theorem hasDirectory_of_passage? (h : tree.passage? names = some (.directory access)) :
    tree.HasDirectory names := by
  unfold passage? kindAt? at h
  cases hat : tree.at? names with
  | none => simp [hat] at h
  | some node =>
    cases node with
    | directory entries access => exact ⟨entries, access, hat⟩
    | _ => simp [hat, kind] at h

/-! ## Places for files -/

/-- Whether a file can be put at the end of some names: there are directories all the way, and at
the end there is none. -/
inductive Receives : Node → List String → Prop where
  | here {entries : List (String × Node)} {access : Access} {name : String} :
      ¬ (Node.directory entries access).HasDirectory [name] →
      Receives (.directory entries access) [name]
  | inside {entries : List (String × Node)} {access : Access} {name : String} {sub : Node}
      {rest : List String} :
      entry? name (.directory entries access) = some sub → Receives sub rest →
      Receives (.directory entries access) (name :: rest)

/-- Whatever stands behind some names stands in a directory. -/
theorem hasDirectory_of_at?_append {node : Node}
    (h : tree.at? (names ++ name :: more) = some node) : tree.HasDirectory names := by
  rw [at?_append] at h
  rcases Option.bind_eq_some_iff.1 h with ⟨above, habove, hbelow⟩
  cases above with
  | directory entries access => exact ⟨entries, access, habove⟩
  | _ => cases hbelow

theorem receives_of_hasDirectory (hparent : tree.HasDirectory names)
    (hleaf : ¬ tree.HasDirectory (names ++ [name])) : tree.Receives (names ++ [name]) := by
  induction names generalizing tree with
  | nil =>
    rcases hparent with ⟨entries, access, h⟩
    cases h
    exact .here hleaf
  | cons first rest ih =>
    rcases hparent with ⟨entries, access, h⟩
    -- the first name leads into a directory, and the others into one below it
    rcases Option.bind_eq_some_iff.1 h with ⟨sub, hsub, hrest⟩
    cases tree with
    | directory above =>
      apply Receives.inside hsub
      apply ih ⟨entries, access, hrest⟩
      rintro ⟨below, allowed, hbelow⟩
      apply hleaf
      exact ⟨below, allowed, by rw [List.cons_append, at?_cons, hsub, Option.bind_some, hbelow]⟩
    | _ => cases hsub

/-- A place receives a file if there is no directory, but one above. -/
theorem receives_of_dropLast (hparent : tree.HasDirectory names.dropLast)
    (hleaf : ¬ tree.HasDirectory names) : tree.Receives names := by
  rcases List.eq_nil_or_concat names with rfl | ⟨parent, name, rfl⟩
  · exact absurd hparent hleaf
  · rw [List.concat_eq_append] at hparent hleaf ⊢
    rw [List.dropLast_concat] at hparent
    exact receives_of_hasDirectory hparent hleaf

theorem not_hasDirectory {found : Option Node} (hat : tree.at? names = found)
    (hother : ∀ entries access, found ≠ some (.directory entries access)) :
    ¬ tree.HasDirectory names := by
  rintro ⟨entries, access, hdirectory⟩
  exact hother entries access (hat.symm.trans hdirectory)

/-- Putting a file changes what stands at its place, and nothing else. -/
theorem Receives.kindAt?_put (h : tree.Receives names) (bytes : List UInt8) (given : Access)
    (place : List String) :
    (tree.put names (.file bytes given)).kindAt? place =
      if place = names then some (.file bytes given) else tree.kindAt? place := by
  induction h generalizing place with
  | @here entries access name hleaf =>
    cases place with
    | nil => rfl
    | cons other more =>
      unfold kindAt?
      rw [at?_put]
      by_cases hother : other = name
      · subst hother
        rw [if_pos rfl]
        cases more with
        | nil => rw [if_pos rfl]; rfl
        | cons next more =>
          -- what stood further on would have stood in a directory
          have hnothing : (Node.directory entries access).at? (other :: next :: more) = none := by
            cases hat : (Node.directory entries access).at? (other :: next :: more) with
            | none => rfl
            | some node =>
              have hbelow : (Node.directory entries access).at? ([other] ++ next :: more) =
                  some node := hat
              exact absurd (hasDirectory_of_at?_append hbelow) hleaf
          rw [if_neg (by simp), hnothing]
          rfl
      · rw [if_neg hother, if_neg (fun h => hother (List.cons.inj h).1)]
  | @inside entries access name sub rest hsub _ ih =>
    cases place with
    | nil => rfl
    | cons other more =>
      unfold kindAt? at ih ⊢
      rw [at?_put]
      by_cases hother : other = name
      · subst hother
        rw [if_pos rfl, branch_of_entry? hsub, ih more, at?_cons, hsub, Option.bind_some]
        simp
      · rw [if_neg hother, if_neg (fun h => hother (List.cons.inj h).1)]

/-- No path finds another way when a file is put. -/
theorem Receives.passage?_put (h : tree.Receives names) (bytes : List UInt8) (given : Access)
    (hleaf : tree.passage? names = none) (place : List String) :
    (tree.put names (.file bytes given)).passage? place = tree.passage? place := by
  unfold passage? at hleaf ⊢
  rw [h.kindAt?_put]
  by_cases hplace : place = names
  · subst hplace
    rw [if_pos rfl, hleaf]
  · rw [if_neg hplace]

end Node

namespace Files

open Node (HasDirectory Receives)

variable {files after : Files} {p q : Path} {bytes content : List UInt8}

/-! ## Following paths -/

/-- A path can be followed through directories and along links, and nothing else of a tree matters
for it. -/
theorem walkTo_cons_eq_ok_iff
    (follow : List String → List String → Except SystemError (List String)) (root : Node)
    (here : List String) (name : String) (rest names : List String) :
    walkTo follow root here (name :: rest) = .ok names ↔
      ∃ access, root.passage? here = some (.directory access) ∧ access.search = true ∧
        if name = ".." then walkTo follow root here.dropLast rest = .ok names
        else name.utf8ByteSize ≤ nameLimit ∧
          match root.passage? (here ++ [name]) with
          | some (.link absolute target) =>
            follow (if absolute then [] else here) (target ++ rest) = .ok names
          | some (.further place) => rest = [] ∧ place = names
          | _ => walkTo follow root (here ++ [name]) rest = .ok names := by
  unfold Node.passage? Node.kindAt?
  cases hhere : root.at? here with
  | none => simp [walkTo, hhere]
  | some node =>
    cases node with
    | file | link | further => simp [walkTo, hhere, Node.kind]
    | directory entries access =>
      cases hsearch : access.search with
      | false => simp [walkTo, hhere, hsearch, Node.kind]
      | true =>
        by_cases hup : name = ".."
        · simp [walkTo, hhere, hsearch, hup, Node.kind]
        · by_cases hlong : nameLimit < name.utf8ByteSize
          · simp [walkTo, hhere, hsearch, hup, hlong, Nat.not_le.2 hlong, Node.kind]
          · have hshort : name.utf8ByteSize ≤ nameLimit := Nat.not_lt.1 hlong
            -- what is not there cannot be followed further, whenever that is noticed
            cases hnext : root.at? (here ++ [name]) with
            | none =>
              cases rest with
              | nil => simp [walkTo, hhere, hsearch, hup, hlong, hshort, hnext, Node.kind]
              | cons next rest =>
                simp [walkTo, hhere, hsearch, hup, hlong, hshort, hnext, Node.kind]
            | some below =>
              cases below with
              | file | directory | link =>
                simp [walkTo, hhere, hsearch, hup, hlong, hshort, hnext, Node.kind]
              | further place =>
                cases rest <;>
                  simp [walkTo, hhere, hsearch, hup, hlong, hshort, hnext, Node.kind]

section Alike

variable {root root' : Node} (halike : ∀ place, root'.passage? place = root.passage? place)

include halike

theorem walkTo_congr
    {follow follow' : List String → List String → Except SystemError (List String)}
    (hfollow : ∀ here components names,
      follow' here components = .ok names ↔ follow here components = .ok names)
    (here components names : List String) :
    walkTo follow' root' here components = .ok names ↔
      walkTo follow root here components = .ok names := by
  induction components generalizing here with
  | nil => rfl
  | cons name rest ih =>
    simp only [walkTo_cons_eq_ok_iff, halike, hfollow, ih]

theorem walk_congr (links : Nat) (here components names : List String) :
    walk root' links here components = .ok names ↔ walk root links here components = .ok names := by
  induction links generalizing here components names with
  | zero => exact walkTo_congr halike (fun _ _ _ => Iff.rfl) here components names
  | succ links ih => exact walkTo_congr halike ih here components names

end Alike

/-- A path without components ends in a slash or a point. -/
theorem wantsDirectory_of_components_eq_nil (h : p.components = []) : wantsDirectory p = true := by
  have hempty : ∀ piece ∈ p.pieces, piece = [] ∨ piece = ['.'] := by
    intro piece hpiece
    have hdropped : piece ∉ p.pieces.filter fun piece => piece ≠ [] ∧ piece ≠ ['.'] := by
      rw [List.map_eq_nil_iff.1 h]
      exact List.not_mem_nil
    by_cases hnil : piece = []
    · exact .inl hnil
    · by_cases hpoint : piece = ['.']
      · exact .inr hpoint
      · exact absurd (List.mem_filter.2 ⟨hpiece, by simp [hnil, hpoint]⟩) hdropped
  unfold wantsDirectory
  cases hlast : p.pieces.getLast? with
  | none => exact absurd (List.getLast?_eq_none_iff.1 hlast) (List.splitOn_ne_nil _ _)
  | some piece =>
    rcases hempty piece (List.mem_of_getLast? hlast) with rfl | rfl
    · rfl
    · rfl

/-- A path with components starts at a directory. -/
theorem hasDirectory_root_of_resolve {names : List String} (h : files.resolve p = .ok names)
    (hwants : wantsDirectory p = false) : files.root.HasDirectory [] := by
  have hwalk : walk files.root linkLimit (files.origin p) p.components = .ok names := by
    unfold resolve at h
    cases hrefuse : refuse? p with
    | some e => simp [hrefuse] at h
    | none => simpa [hrefuse] using h
  cases hcomponents : p.components with
  | nil =>
    rw [wantsDirectory_of_components_eq_nil hcomponents] at hwants
    cases hwants
  | cons name rest =>
    rw [hcomponents] at hwalk
    rcases (walkTo_cons_eq_ok_iff _ _ _ _ _ _).1 hwalk with ⟨access, hhere, _⟩
    rcases Node.hasDirectory_of_passage? hhere with ⟨entries, access, hat⟩
    -- a directory anywhere stands below the root, or is the root itself
    cases horigin : files.origin p with
    | nil => exact ⟨entries, access, by rwa [horigin] at hat⟩
    | cons first names =>
      have hbelow : files.root.at? ([] ++ first :: names) = some (.directory entries access) := by
        rwa [horigin] at hat
      exact Node.hasDirectory_of_at?_append hbelow

/-! ## Reading and writing -/

/-- What is found at a path is a directory or a file. -/
theorem lookup_cases {node : Node} (h : files.lookup p = .ok node) :
    (∃ entries access, node = .directory entries access) ∨
      ∃ bytes access, node = .file bytes access := by
  cases node with
  | directory entries access => exact .inl ⟨entries, access, rfl⟩
  | file bytes access => exact .inr ⟨bytes, access, rfl⟩
  | link | further =>
    unfold lookup at h
    cases hresolve : files.resolve p with
    | error e => simp [hresolve, bind, Except.bind] at h
    | ok names =>
      cases hat : files.root.at? names with
      | none => simp [hresolve, hat, bind, Except.bind, throw, throwThe, MonadExceptOf.throw] at h
      | some found =>
        cases found <;> cases hwants : wantsDirectory p <;>
          simp [hresolve, hat, hwants, bind, Except.bind, pure, Except.pure, throw, throwThe,
            MonadExceptOf.throw] at h

theorem bytes?_eq_some_iff (files : Files) (p : Path) (bytes : List UInt8) :
    files.bytes? p = some bytes ↔ wantsDirectory p = false ∧
      ∃ names access, files.resolve p = .ok names ∧
        files.root.kindAt? names = some (.file bytes access) := by
  simp only [Node.kindAt?_eq_file_iff]
  unfold bytes? lookup
  cases hresolve : files.resolve p with
  | error e => simp [bind, Except.bind]
  | ok names =>
    cases hat : files.root.at? names with
    | none => simp [bind, Except.bind, hat, throw, throwThe, MonadExceptOf.throw]
    | some node =>
      cases node with
      | directory | link | further =>
        simp [bind, Except.bind, hat, pure, Except.pure, throw, throwThe, MonadExceptOf.throw]
      | file content access =>
        cases hwants : wantsDirectory p <;>
          simp [bind, Except.bind, hat, pure, Except.pure, throw, throwThe, MonadExceptOf.throw]

/-- The bytes of a file are read, or may not be. -/
theorem read_of_bytes? (h : files.bytes? p = some bytes) :
    files.read p = .ok bytes ∨ files.read p = .error .denied := by
  unfold bytes? at h
  unfold read
  cases hlookup : files.lookup p with
  | error e => simp [hlookup] at h
  | ok node =>
    cases node with
    | directory | link | further => simp [hlookup] at h
    | file content access =>
      have hbytes : content = bytes := by simpa [hlookup] using h
      subst hbytes
      cases hread : access.read with
      | true => exact .inl (by simp [bind, Except.bind, pure, Except.pure, hread])
      | false =>
        exact .inr (by
          simp [bind, Except.bind, throw, throwThe, MonadExceptOf.throw, hread])

/-- A path that asks for a directory is refused, whatever is there. -/
theorem wantsDirectory_of_write (h : files.write p bytes = .ok after) :
    wantsDirectory p = false := by
  cases hwants : wantsDirectory p with
  | false => rfl
  | true =>
    unfold write at h
    cases hresolve : files.resolve p with
    | error e => simp [hresolve, bind, Except.bind] at h
    | ok names =>
      by_cases hpoint : p.pieces.getLast? = some ['.']
      · cases hlookup : files.lookup p <;>
          simp [hresolve, hwants, hpoint, hlookup, bind, Except.bind, throw, throwThe,
            MonadExceptOf.throw] at h
      · simp [hresolve, hwants, hpoint, bind, Except.bind, throw, throwThe, MonadExceptOf.throw]
          at h

/-- Only a file is written over. -/
theorem exists_file_of_write {names : List String} {node : Node}
    (h : files.write p bytes = .ok after) (hresolve : files.resolve p = .ok names)
    (hat : files.root.at? names = some node) :
    ∃ content access, node = .file content access ∧
      after = { files with root := files.root.put names (.file bytes access) } := by
  have hwants := wantsDirectory_of_write h
  unfold write at h
  simp only [hresolve, hwants, hat, bind, Except.bind, Bool.false_eq_true, if_false] at h
  cases node with
  | directory | link | further => simp [throw, throwThe, MonadExceptOf.throw] at h
  | file content access =>
    cases hwrite : access.write with
    | false => simp [hwrite, throw, throwThe, MonadExceptOf.throw] at h
    | true =>
      have hafter : { files with root := files.root.put names (.file bytes access) } = after := by
        simpa [hwrite, pure, Except.pure] using h
      exact ⟨content, access, rfl, hafter.symm⟩

/-- A file that is new has a directory above it. -/
theorem exists_directory_of_write {names : List String} (h : files.write p bytes = .ok after)
    (hresolve : files.resolve p = .ok names) (hat : files.root.at? names = none) :
    files.root.HasDirectory names.dropLast ∧
      after = { files with root := files.root.put names (.file bytes .full) } := by
  have hwants := wantsDirectory_of_write h
  unfold write at h
  simp only [hresolve, hwants, hat, bind, Except.bind, Bool.false_eq_true, if_false] at h
  cases habove : files.root.at? names.dropLast with
  | none => simp [habove, throw, throwThe, MonadExceptOf.throw] at h
  | some node =>
    cases node with
    | file | link | further => simp [habove, throw, throwThe, MonadExceptOf.throw] at h
    | directory entries access =>
      cases hwrite : access.write with
      | false => simp [habove, hwrite, throw, throwThe, MonadExceptOf.throw] at h
      | true =>
        have hafter : { files with root := files.root.put names (.file bytes .full) } = after := by
          simpa [habove, hwrite, pure, Except.pure] using h
        exact ⟨⟨entries, access, habove⟩, hafter.symm⟩

/-- A write puts the file where its path leads, and does nothing else. -/
theorem write_cases (h : files.write p bytes = .ok after) :
    ∃ names access, files.resolve p = .ok names ∧ files.root.Receives names ∧
      files.root.passage? names = none ∧
      after = { files with root := files.root.put names (.file bytes access) } := by
  cases hresolve : files.resolve p with
  | error e =>
    unfold write at h
    simp [hresolve, bind, Except.bind] at h
  | ok names =>
    cases hat : files.root.at? names with
    | some node =>
      rcases exists_file_of_write h hresolve hat with ⟨content, access, rfl, hafter⟩
      have hparent : files.root.HasDirectory names.dropLast := by
        rcases List.eq_nil_or_concat names with rfl | ⟨parent, name, rfl⟩
        · exact hasDirectory_root_of_resolve hresolve (wantsDirectory_of_write h)
        · rw [List.concat_eq_append] at hat ⊢
          rw [List.dropLast_concat]
          exact Node.hasDirectory_of_at?_append hat
      have hleaf := Node.not_hasDirectory hat (by simp)
      exact ⟨names, access, rfl, Node.receives_of_dropLast hparent hleaf,
        by simp [Node.passage?, Node.kindAt?, hat, Node.kind], hafter⟩
    | none =>
      rcases exists_directory_of_write h hresolve hat with ⟨hparent, hafter⟩
      have hleaf := Node.not_hasDirectory hat (by simp)
      exact ⟨names, .full, rfl, Node.receives_of_dropLast hparent hleaf,
        by simp [Node.passage?, Node.kindAt?, hat], hafter⟩

/-- After a write every path leads where it led before. -/
theorem resolve_write_iff (h : files.write q bytes = .ok after) (p : Path) (names : List String) :
    after.resolve p = .ok names ↔ files.resolve p = .ok names := by
  rcases write_cases h with ⟨place, access, _, hreceives, hleaf, rfl⟩
  unfold resolve
  cases refuse? p with
  | some e => rfl
  | none => exact walk_congr (hreceives.passage?_put bytes access hleaf) _ _ _ _

/-- A write changes no file but the one that its path leads to. -/
theorem bytes?_write_of_ne (h : files.write q bytes = .ok after)
    (hbytes : files.bytes? p = some content) (hne : files.resolve q ≠ files.resolve p) :
    after.bytes? p = some content := by
  rcases (bytes?_eq_some_iff files p content).1 hbytes with ⟨hwants, names, access, hnames, hfile⟩
  apply (bytes?_eq_some_iff after p content).2
  refine ⟨hwants, names, access, (resolve_write_iff h p names).2 hnames, ?_⟩
  rcases write_cases h with ⟨place, _, hplace, hreceives, _, rfl⟩
  rw [hreceives.kindAt?_put, if_neg, hfile]
  rintro rfl
  exact hne (hplace.trans hnames.symm)

/-- What was written is what the file holds. -/
theorem bytes?_write_self (h : files.write p bytes = .ok after) : after.bytes? p = some bytes := by
  apply (bytes?_eq_some_iff after p bytes).2
  refine ⟨wantsDirectory_of_write h, ?_⟩
  rcases write_cases h with ⟨names, access, hnames, hreceives, _, hafter⟩
  refine ⟨names, access, (resolve_write_iff h p names).2 hnames, ?_⟩
  rw [hafter, hreceives.kindAt?_put, if_pos rfl]

/-- A text that was written is read, if the file may be read. -/
theorem readText_write_self {text : String}
    (h : files.write p (Utf8.encode text) = .ok after) :
    after.readText p = .ok text ∨ after.readText p = .error .denied := by
  rcases read_of_bytes? (bytes?_write_self h) with hread | hdenied
  · left
    simp only [readText, hread, Utf8.decode_encode, bind, Except.bind, pure, Except.pure]
  · right
    simp only [readText, hdenied, bind, Except.bind]

/-! ## Any number of writes -/

/-- What some writes make of a tree, each of them at one of the given paths. -/
inductive Rewritten (paths : List Path) (files : Files) : Files → Prop where
  | refl : Rewritten paths files files
  | write {before after : Files} {q : Path} {bytes : List UInt8} :
      Rewritten paths files before → q ∈ paths → before.write q bytes = .ok after →
      Rewritten paths files after

/-- Whether none of some paths leads to the file that a path leads to. -/
def Spares (files : Files) (paths : List Path) (p : Path) : Prop :=
  ∀ q ∈ paths, files.resolve q ≠ files.resolve p

theorem Rewritten.resolve_iff {paths : List Path} (h : Rewritten paths files after) (p : Path)
    (names : List String) : after.resolve p = .ok names ↔ files.resolve p = .ok names := by
  induction h with
  | refl => rfl
  | write _ _ hwrite ih => exact (resolve_write_iff hwrite p names).trans ih

/-- A file to which none of the paths leads is what it was. -/
theorem Rewritten.bytes?_of_spares {paths : List Path} (h : Rewritten paths files after)
    (hspares : files.Spares paths p) (hbytes : files.bytes? p = some content) :
    after.bytes? p = some content := by
  induction h with
  | refl => exact hbytes
  | @write before after q bytes hbefore hq hwrite ih =>
    apply bytes?_write_of_ne hwrite ih
    rcases (bytes?_eq_some_iff files p content).1 hbytes with ⟨_, names, _, hnames, _⟩
    intro hsame
    -- the paths met here before the first write as well
    have hq' : before.resolve q = .ok names :=
      hsame.trans ((hbefore.resolve_iff p names).2 hnames)
    exact hspares q hq (((hbefore.resolve_iff q names).1 hq').trans hnames.symm)

end Files
end RecordFlow
