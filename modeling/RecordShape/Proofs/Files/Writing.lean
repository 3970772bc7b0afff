import RecordShape.FileTree
import RecordShape.Proofs.Schema.Keys
import RecordShape.Proofs.Text.Splitting

/-!
# What is written can be read

Writing puts a file at a place in the tree. Whatever was found there before is still found, folders
as folders, so that the path leads to the new file by the same steps as it led to its place.
-/

namespace RecordShape

theorem bind_eq_ok_iff {ε α β : Type} {x : Except ε α} {f : α → Except ε β} {b : β} :
    (x >>= f) = .ok b ↔ ∃ a, x = .ok a ∧ f a = .ok b := by
  constructor
  · intro h
    cases x with
    | error e => cases h
    | ok a => exact ⟨a, rfl, h⟩
  · rintro ⟨a, rfl, h⟩
    exact h

theorem FilePath.exists_last_name {path : String} (hne : path ≠ "")
    (hslash : path.endsWith "/" = false) :
    ∃ names name, FilePath.names path = names ++ [name] ∧ name ≠ "" := by
  rw [String.endsWith_eq_endsWith_toSlice, String.Slice.endsWith_string_eq_false_iff,
    String.copy_toSlice] at hslash
  by_cases hcut : '/' ∈ path.toList
  · obtain ⟨before, after, hlist, hafter⟩ := exists_last_cut hcut
    refine ⟨(before.splitOn '/').map String.ofList, String.ofList after, ?_, fun hempty => ?_⟩
    · rw [names, hlist, splitOn_last_cut hafter, List.map_append, List.map_singleton]
    · obtain rfl : after = [] := by simpa using hempty
      exact hslash ⟨before, hlist.symm⟩
  · refine ⟨[], path, ?_, hne⟩
    rw [names, List.splitOn_eq_singleton hcut, List.map_singleton, String.ofList_toList,
      List.nil_append]

namespace FileTree

variable {root root' node : FileTree} {place last names above : List String} {name path : String}
  {entries : List (String × FileTree)}

theorem nodeAt?_cons (entries : List (String × FileTree)) (name : String) (names : List String) :
    (folder entries).nodeAt? (name :: names) =
      (KeyMap.find? name entries).bind fun node => node.nodeAt? names := rfl

theorem nodeAt?_append (root : FileTree) (place names : List String) :
    root.nodeAt? (place ++ names) = (root.nodeAt? place).bind fun node => node.nodeAt? names := by
  induction place generalizing root with
  | nil => rfl
  | cons name place ih =>
    cases root with
    | folder entries =>
      rw [List.cons_append, nodeAt?_cons, nodeAt?_cons, Option.bind_assoc]
      exact Option.bind_congr fun node _ => ih node
    | file text => rfl
    | unreadable error => rfl

theorem nodeAt?_entry (h : root.nodeAt? place = some (.folder entries)) (name : String) :
    root.nodeAt? (place ++ [name]) = KeyMap.find? name entries := by
  rw [nodeAt?_append, h, Option.bind_some, nodeAt?_cons]
  exact Option.bind_fun_some _

def IsFolder : FileTree → Prop
  | folder _ => True
  | _ => False

theorem exists_of_isFolder (h : root.IsFolder) : ∃ entries, root = folder entries := by
  cases root with
  | folder entries => exact ⟨entries, rfl⟩
  | file text => cases h
  | unreadable error => cases h

theorem nodeAt?_cons_of_not_isFolder (h : ¬root.IsFolder) (name : String) (names : List String) :
    root.nodeAt? (name :: names) = none := by
  cases root with
  | folder entries => exact absurd trivial h
  | file text => rfl
  | unreadable error => rfl

/-! ## Putting a node at a place -/

/-- Something is found wherever something was found, and folders where there were folders. -/
def Keeps (root root' : FileTree) : Prop :=
  ∀ place node, root.nodeAt? place = some node →
    ∃ node', root'.nodeAt? place = some node' ∧ (node.IsFolder → node'.IsFolder)

theorem nodeAt?_put (node root : FileTree) (place : List String) :
    (put node root place).nodeAt? place = some node := by
  induction place generalizing root with
  | nil => rfl
  | cons name place ih =>
    cases root with
    | folder entries =>
      rw [put, nodeAt?_cons, KeyMap.find?_insert_self, Option.bind_some, ih]
    | file text => simp [put, nodeAt?_cons, KeyMap.find?, ih]
    | unreadable error => simp [put, nodeAt?_cons, KeyMap.find?, ih]

theorem keeps_put (node : FileTree)
    (h : ∀ old, root.nodeAt? place = some old → ¬old.IsFolder) :
    Keeps root (put node root place) := by
  induction place generalizing root with
  | nil =>
    have hroot : ¬root.IsFolder := h root rfl
    intro place' found hfound
    cases place' with
    | nil =>
      obtain rfl : root = found := Option.some.inj hfound
      exact ⟨node, rfl, fun hfolder => absurd hfolder hroot⟩
    | cons name names =>
      rw [nodeAt?_cons_of_not_isFolder hroot] at hfound
      cases hfound
  | cons name place ih =>
    intro place' found hfound
    by_cases hroot : root.IsFolder
    · obtain ⟨entries, rfl⟩ := exists_of_isFolder hroot
      cases place' with
      | nil => exact ⟨_, rfl, fun _ => trivial⟩
      | cons first names =>
        rw [nodeAt?_cons, Option.bind_eq_some_iff] at hfound
        obtain ⟨inner, hinner, hfound⟩ := hfound
        rw [put, nodeAt?_cons]
        by_cases hname : first = name
        · subst hname
          rw [KeyMap.find?_insert_self, Option.bind_some, hinner, Option.getD_some]
          refine ih (fun old hold => h old ?_) names found hfound
          rw [nodeAt?_cons, hinner, Option.bind_some, hold]
        · rw [KeyMap.find?_insert_of_ne hname, hinner, Option.bind_some]
          exact ⟨found, hfound, id⟩
    · cases place' with
      | nil =>
        obtain rfl : root = found := Option.some.inj hfound
        exact ⟨_, rfl, fun hfolder => absurd hfolder hroot⟩
      | cons first names =>
        rw [nodeAt?_cons_of_not_isFolder hroot] at hfound
        cases hfound

/-! ## Walking to a place -/

def IsFolderAt (root : FileTree) (place : List String) : Prop :=
  ∃ entries, root.nodeAt? place = some (.folder entries)

/-- What a name does to a place: it stays there, goes up or enters. -/
inductive Step (root : FileTree) (place : List String) : String → List String → Prop where
  | stay {name : String} (hfolder : root.IsFolderAt place) (hname : name = "" ∨ name = ".") :
      Step root place name place
  | up (hfolder : root.IsFolderAt place) : Step root place ".." place.dropLast
  | enter {name : String} (hfolder : root.IsFolderAt place) (hname : ¬(name = "" ∨ name = "."))
      (hup : name ≠ "..") (hentry : (root.nodeAt? (place ++ [name])).isSome) :
      Step root place name (place ++ [name])

theorem walk_cons_iff : root.walk place (name :: names) = .ok last ↔
    ∃ next, Step root place name next ∧ root.walk next names = .ok last := by
  constructor
  · intro h
    rw [walk] at h
    split at h
    · rename_i entries hentries
      have hfolder : root.IsFolderAt place := ⟨entries, hentries⟩
      split_ifs at h with hname hup hentry
      · exact ⟨place, .stay hfolder hname, h⟩
      · subst hup
        exact ⟨_, .up hfolder, h⟩
      · exact ⟨_, .enter hfolder hname hup (by rwa [nodeAt?_entry hentries]), h⟩
    · cases h
  · rintro ⟨next, hstep, h⟩
    rw [walk]
    cases hstep with
    | stay hfolder hname =>
      obtain ⟨entries, hentries⟩ := hfolder
      rw [hentries]
      simpa only [hname, if_true] using h
    | up hfolder =>
      obtain ⟨entries, hentries⟩ := hfolder
      rw [hentries]
      simpa using h
    | enter hfolder hname hup hentry =>
      obtain ⟨entries, hentries⟩ := hfolder
      rw [nodeAt?_entry hentries] at hentry
      rw [hentries]
      simpa only [hname, hup, hentry, if_true, if_false] using h

theorem Keeps.isFolderAt (hkeeps : Keeps root root') (h : root.IsFolderAt place) :
    root'.IsFolderAt place := by
  obtain ⟨entries, hentries⟩ := h
  obtain ⟨node', hnode', hfolder⟩ := hkeeps place _ hentries
  obtain ⟨entries', rfl⟩ := exists_of_isFolder (hfolder trivial)
  exact ⟨entries', hnode'⟩

theorem Step.keeps {next : List String} (hkeeps : Keeps root root')
    (h : Step root place name next) : Step root' place name next := by
  cases h with
  | stay hfolder hname => exact .stay (hkeeps.isFolderAt hfolder) hname
  | up hfolder => exact .up (hkeeps.isFolderAt hfolder)
  | enter hfolder hname hup hentry =>
    obtain ⟨found, hfound⟩ := Option.isSome_iff_exists.mp hentry
    obtain ⟨node', hnode', -⟩ := hkeeps _ found hfound
    exact .enter (hkeeps.isFolderAt hfolder) hname hup (by rw [hnode', Option.isSome_some])

theorem walk_of_keeps (hkeeps : Keeps root root') (h : root.walk place names = .ok last) :
    root'.walk place names = .ok last := by
  induction names generalizing place with
  | nil => exact h
  | cons name names ih =>
    obtain ⟨next, hstep, hwalk⟩ := walk_cons_iff.mp h
    exact walk_cons_iff.mpr ⟨next, hstep.keeps hkeeps, ih hwalk⟩

theorem walk_append {middle rest : List String} (h : root.walk place names = .ok middle)
    (hrest : root.walk middle rest = .ok last) : root.walk place (names ++ rest) = .ok last := by
  induction names generalizing place with
  | nil =>
    obtain rfl : place = middle := Except.ok.inj h
    exact hrest
  | cons name names ih =>
    obtain ⟨next, hstep, hwalk⟩ := walk_cons_iff.mp h
    exact walk_cons_iff.mpr ⟨next, hstep, ih hwalk⟩

theorem Step.isFolderAt {next : List String} (h : Step root place name next) :
    root.IsFolderAt place := by
  cases h <;> assumption

theorem isFolderAt_of_walk (h : root.walk place names = .ok last) (hlast : root.IsFolderAt last) :
    root.IsFolderAt place := by
  cases names with
  | nil =>
    obtain rfl : place = last := Except.ok.inj h
    exact hlast
  | cons name names =>
    obtain ⟨next, hstep, -⟩ := walk_cons_iff.mp h
    exact hstep.isFolderAt

theorem walk_of_filter (hlast : root.IsFolderAt last)
    (h : root.walk place (names.filter (· ≠ "")) = .ok last) :
    root.walk place names = .ok last := by
  induction names generalizing place with
  | nil => exact h
  | cons name names ih =>
    by_cases hname : name = ""
    · rw [List.filter_cons_of_neg (by simpa using hname)] at h
      exact walk_cons_iff.mpr ⟨place, .stay (isFolderAt_of_walk h hlast) (.inl hname), ih h⟩
    · rw [List.filter_cons_of_pos (by simpa using hname)] at h
      obtain ⟨next, hstep, hwalk⟩ := walk_cons_iff.mp h
      exact walk_cons_iff.mpr ⟨next, hstep, ih hwalk⟩

end FileTree

/-! ## Writing a file -/

namespace FileSystem
open FileTree

variable {system written : FileSystem} {place : List String} {name path text : String}

/-- A file can be written at a path: all but the last name lead to a folder, in which the last one
is not that of a folder. -/
structure WritesAt (system : FileSystem) (path : String) (place : List String) (name : String) :
    Prop where
  above : ∃ above, (FilePath.names path).filter (· ≠ "") = above ++ [name] ∧
    system.root.walk (system.start path) above = .ok place
  isFolderAt : system.root.IsFolderAt place
  plain : path.endsWith "/" = false ∧ name ≠ "." ∧ name ≠ ".."
  free : ∀ old, system.root.nodeAt? (place ++ [name]) = some old → ¬old.IsFolder

theorem write_eq_ok_iff : system.write path text = .ok written ↔
    ∃ place name, WritesAt system path place name ∧
      written = { system with root := put (file text) system.root (place ++ [name]) } := by
  constructor
  · intro h
    unfold write at h
    split at h
    · cases h
    · rename_i name above hnames
      obtain ⟨place, hplace, h⟩ := bind_eq_ok_iff.mp h
      split at h
      · rename_i entries hentries
        split_ifs at h with hplain
        simp only [Bool.or_eq_true, decide_eq_true_eq, not_or, Bool.not_eq_true] at hplain
        have hfree : ∀ old, system.root.nodeAt? (place ++ [name]) = some old → ¬old.IsFolder := by
          intro old hold hfolder
          obtain ⟨inner, rfl⟩ := exists_of_isFolder hfolder
          rw [← nodeAt?_entry hentries, hold] at h
          cases h
        refine ⟨place, name, ⟨⟨above.reverse, ?_, hplace⟩, ⟨entries, hentries⟩,
          ⟨hplain.1.1, hplain.1.2, hplain.2⟩, hfree⟩, ?_⟩
        · exact List.reverse_eq_cons_iff.mp hnames
        · split at h
          · cases h
          · exact (Except.ok.inj h).symm
      · cases h
  · rintro ⟨place, name, hwrites, rfl⟩
    obtain ⟨above, hnames, hplace⟩ := hwrites.above
    obtain ⟨entries, hentries⟩ := hwrites.isFolderAt
    have hfree := hwrites.free
    rw [nodeAt?_entry hentries] at hfree
    unfold write
    rw [hnames, List.reverse_append, List.reverse_singleton, List.singleton_append]
    simp only [List.reverse_reverse]
    refine bind_eq_ok_iff.mpr ⟨place, hplace, ?_⟩
    simp only [hentries, hwrites.plain.1, decide_eq_false hwrites.plain.2.1,
      decide_eq_false hwrites.plain.2.2, Bool.or_self, Bool.false_eq_true, if_false]
    split
    · rename_i inner hinner
      exact absurd trivial (hfree _ hinner)
    · rfl

theorem read_of_write (h : system.write path text = .ok written) :
    written.read path = .ok text := by
  obtain ⟨place, name, hwrites, rfl⟩ := write_eq_ok_iff.mp h
  obtain ⟨above, hnames, hplace⟩ := hwrites.above
  have hpath : path ≠ "" := by
    rintro rfl
    exact List.append_ne_nil_of_right_ne_nil above (List.cons_ne_nil name []) hnames.symm
  -- The last name of the path is that of the file, and empty names stand only before it.
  obtain ⟨names, last, hlast, hne⟩ := FilePath.exists_last_name hpath hwrites.plain.1
  rw [hlast, List.filter_append, List.filter_cons_of_pos (by simpa using hne),
    List.filter_nil] at hnames
  obtain ⟨hfilter, hname⟩ := List.append_inj' hnames rfl
  obtain rfl : last = name := List.head_eq_of_cons_eq hname
  let root := put (file text) system.root (place ++ [last])
  have hkeeps : Keeps system.root root := keeps_put (file text) hwrites.free
  have hfound : root.nodeAt? (place ++ [last]) = some (file text) := nodeAt?_put _ _ _
  have hstep : FileTree.Step root place last (place ++ [last]) :=
    .enter (hkeeps.isFolderAt hwrites.isFolderAt) (by simp [hne, hwrites.plain.2.1])
      hwrites.plain.2.2 (by rw [hfound, Option.isSome_some])
  have hwalk : root.walk (system.start path) (FilePath.names path) = .ok (place ++ [last]) := by
    rw [hlast]
    refine walk_append (walk_of_keeps hkeeps (walk_of_filter hwrites.isFolderAt ?_))
      (walk_cons_iff.mpr ⟨_, hstep, rfl⟩)
    rwa [hfilter]
  have hlook : look { system with root } path = .ok (file text) := by
    unfold look
    rw [if_neg (by simp [hpath])]
    exact bind_eq_ok_iff.mpr ⟨_, hwalk, by rw [hfound]⟩
  exact bind_eq_ok_iff.mpr ⟨_, hlook, rfl⟩

/-- Whether a file can be written does not depend on its text. -/
theorem exists_write (h : system.write path text = .ok written) (text' : String) :
    ∃ written', system.write path text' = .ok written' := by
  obtain ⟨place, name, hwrites, -⟩ := write_eq_ok_iff.mp h
  exact ⟨_, write_eq_ok_iff.mpr ⟨place, name, hwrites, rfl⟩⟩

end FileSystem
end RecordShape
