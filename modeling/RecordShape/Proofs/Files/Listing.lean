import Mathlib.Data.List.Nodup
import Mathlib.Data.List.Perm.Subperm
import Mathlib.Data.String.Basic
import RecordShape.CommandLine.Check
import RecordShape.Proofs.Text.Splitting

/-!
# The files below a folder

A file is below a folder if names lead to it from folder to folder. Listing a folder finds these
files and no others, and an argument on the command line stands for those of them that are named
like JSON files, in the order of their paths.
-/

namespace RecordShape

namespace FileTree

/-- The names lead to the file. -/
inductive HasFile : FileTree → List String → FileTree → Prop where
  | file (text : String) : HasFile (.file text) [] (.file text)
  | unreadable (error : FileError) : HasFile (.unreadable error) [] (.unreadable error)
  | folder {entries : List (String × FileTree)} {name : String} {names : List String}
      {node f : FileTree} (hentry : (name, node) ∈ entries) (hf : HasFile node names f) :
      HasFile (.folder entries) (name :: names) f

/-- No folder has two entries of one name. -/
inductive IsTidy : FileTree → Prop where
  | file (text : String) : IsTidy (.file text)
  | unreadable (error : FileError) : IsTidy (.unreadable error)
  | folder {entries : List (String × FileTree)} (hnames : (entries.map Prod.fst).Nodup)
      (hentries : ∀ name node, (name, node) ∈ entries → IsTidy node) : IsTidy (.folder entries)

theorem files_folder (entries : List (String × FileTree)) :
    (folder entries).files =
      entries.flatMap fun e => e.2.files.map fun f => (e.1 :: f.1, f.2) := by
  rw [files]
  induction entries with
  | nil => rfl
  | cons entry rest ih =>
    obtain ⟨name, node⟩ := entry
    rw [entryFiles, ih, List.flatMap_cons]

theorem mem_files_folder {entries : List (String × FileTree)} {names : List String}
    {f : FileTree} : (names, f) ∈ (folder entries).files ↔
      ∃ name node rest, names = name :: rest ∧ (name, node) ∈ entries ∧ (rest, f) ∈ node.files := by
  simp only [files_folder, List.mem_flatMap, List.mem_map, Prod.exists, Prod.mk.injEq]
  constructor
  · rintro ⟨name, node, hentry, rest, f, hf, rfl, rfl⟩
    exact ⟨name, node, rest, rfl, hentry, hf⟩
  · rintro ⟨name, node, rest, rfl, hentry, hf⟩
    exact ⟨name, node, hentry, rest, f, hf, rfl, rfl⟩

/-- The files that are listed are those that names lead to. -/
theorem mem_files_iff {node f : FileTree} {names : List String} :
    (names, f) ∈ node.files ↔ HasFile node names f := by
  constructor
  · intro h
    induction names generalizing node with
    | nil =>
      cases node with
      | file text =>
        obtain ⟨-, rfl⟩ := Prod.mk.inj (List.mem_singleton.mp h)
        exact .file text
      | unreadable error =>
        obtain ⟨-, rfl⟩ := Prod.mk.inj (List.mem_singleton.mp h)
        exact .unreadable error
      | folder entries =>
        obtain ⟨_, _, _, hnames, -⟩ := mem_files_folder.mp h
        cases hnames
    | cons name names ih =>
      cases node with
      | file text => cases (Prod.mk.inj (List.mem_singleton.mp h)).1
      | unreadable error => cases (Prod.mk.inj (List.mem_singleton.mp h)).1
      | folder entries =>
        obtain ⟨_, node, _, hnames, hentry, hf⟩ := mem_files_folder.mp h
        cases hnames
        exact .folder hentry (ih hf)
  · intro h
    induction h with
    | file text => exact List.mem_singleton_self _
    | unreadable error => exact List.mem_singleton_self _
    | folder hentry _ ih => exact mem_files_folder.mpr ⟨_, _, _, rfl, hentry, ih⟩

theorem IsTidy.nodup_files {node : FileTree} (h : node.IsTidy) :
    (node.files.map Prod.fst).Nodup := by
  induction h with
  | file text => exact List.nodup_singleton _
  | unreadable error => exact List.nodup_singleton _
  | @folder entries hnames _ ih =>
    rw [files_folder, List.map_flatMap, List.nodup_flatMap]
    constructor
    · intro entry hentry
      have hnode := (ih entry.1 entry.2 hentry).map (List.cons_injective (a := entry.1))
      simpa only [List.map_map, Function.comp_def] using hnode
    · -- The first name tells the entry.
      have hfirst (entry : String × FileTree) : ∀ names ∈
          (entry.2.files.map fun f => (entry.1 :: f.1, f.2)).map Prod.fst,
          names.head? = some entry.1 := by
        intro names hmem
        simp only [List.map_map, List.mem_map, Function.comp_apply] at hmem
        obtain ⟨f, -, rfl⟩ := hmem
        rfl
      refine (List.pairwise_map.mp hnames).imp fun hne names hmem hmem' => hne ?_
      exact Option.some.inj ((hfirst _ names hmem).symm.trans (hfirst _ names hmem'))

end FileTree

namespace FilePath

theorem extension?_eq_none {name : String} (h : '.' ∉ name.toList) : extension? name = none := by
  rw [extension?, List.splitOn_eq_singleton h]
  rfl

theorem extension?_append (stem : String) {ending : String} (h : '.' ∉ ending.toList) :
    extension? (stem ++ "." ++ ending) = if stem = "" then none else some ending := by
  have hlist : (stem ++ "." ++ ending).toList = stem.toList ++ '.' :: ending.toList := by simp
  -- Nothing stands before the dot if that is all there is to split.
  have hparts : (stem.toList.splitOn '.').reverse = [[]] ↔ stem = "" := by
    refine ⟨fun hsplit => ?_, fun hstem => by rw [hstem]; rfl⟩
    have hjoined : ['.'].intercalate (stem.toList.splitOn '.') = stem.toList :=
      List.intercalate_splitOn '.'
    rw [List.reverse_eq_iff.mp hsplit] at hjoined
    exact String.toList_eq_nil_iff.mp hjoined.symm
  rw [extension?, hlist, splitOn_last_cut h, List.reverse_append, List.reverse_singleton,
    List.singleton_append]
  cases hsplit : (stem.toList.splitOn '.').reverse with
  | nil => exact absurd (List.reverse_eq_nil_iff.mp hsplit) (List.splitOn_ne_nil _ _)
  | cons part rest =>
    have hempty : (part.isEmpty && rest.isEmpty) = true ↔ stem = "" := by
      rw [← hparts, hsplit]
      simp
    simp only [hempty, String.ofList_toList]

/-- What comes after the last dot of a name is its extension, unless nothing comes before it. -/
theorem extension?_eq_some_iff {name ending : String} (hending : '.' ∉ ending.toList) :
    extension? name = some ending ↔ ∃ stem, stem ≠ "" ∧ name = stem ++ "." ++ ending := by
  constructor
  · intro h
    by_cases hdot : '.' ∈ name.toList
    · obtain ⟨before, after, hlist, hafter⟩ := exists_last_cut hdot
      have hname : name = String.ofList before ++ "." ++ String.ofList after := by
        rw [← String.toList_inj, hlist]
        simp
      rw [hname, extension?_append _ (by simpa using hafter)] at h
      split_ifs at h with hstem
      exact ⟨_, hstem, by rw [hname, Option.some.inj h]⟩
    · rw [extension?_eq_none hdot] at h
      cases h
  · intro h
    obtain ⟨stem, hstem, rfl⟩ := h
    rw [extension?_append stem hending, if_neg hstem]

theorem extension?_json_iff {name : String} :
    extension? name = some "json" ↔ ∃ stem, stem ≠ "" ∧ name = stem ++ ".json" := by
  simp only [@extension?_eq_some_iff name "json" (by decide), String.append_assoc]
  rfl

theorem isUpTo_iff {a b : List String} : isUpTo a b = true ↔ a = b ∨ List.Lex (· < ·) a b := by
  induction a generalizing b with
  | nil => cases b <;> simp [isUpTo]
  | cons name a ih =>
    cases b with
    | nil => simp [isUpTo]
    | cons name' b =>
      simp only [isUpTo, Bool.or_eq_true, Bool.and_eq_true, decide_eq_true_eq, ih, List.cons.injEq,
        List.cons_lex_cons_iff]
      tauto

theorem isUpTo_trans (a b c : List String) (hab : isUpTo a b = true) (hbc : isUpTo b c = true) :
    isUpTo a c = true := by
  rw [isUpTo_iff] at hab hbc ⊢
  rcases hab with rfl | hab
  · exact hbc
  · rcases hbc with rfl | hbc
    · exact .inr hab
    · exact .inr (List.lex_trans String.lt_trans hab hbc)

theorem isUpTo_total (a b : List String) : (isUpTo a b || isUpTo b a) = true := by
  induction a generalizing b with
  | nil => simp [isUpTo]
  | cons name a ih =>
    cases b with
    | nil => simp [isUpTo]
    | cons name' b =>
      rcases lt_trichotomy name name' with hlt | rfl | hlt
      · simp [isUpTo, hlt]
      · simpa [isUpTo] using ih b
      · simp [isUpTo, hlt]

end FilePath

/-- The JSON files below a folder, in the order of their paths. -/
structure IsListing (entries : List (String × FileTree)) (found : List (List String × FileTree)) :
    Prop where
  mem_iff : ∀ names f, (names, f) ∈ found ↔ (FileTree.folder entries).HasFile names f ∧
    ∃ stem, stem ≠ "" ∧ names.getLast? = some (stem ++ ".json")
  sorted : found.Pairwise fun a b => a.1 = b.1 ∨ List.Lex (· < ·) a.1 b.1
  once : (FileTree.folder entries).IsTidy → (found.map Prod.fst).Nodup

theorem IsListing.length_le {entries : List (String × FileTree)}
    {found : List (List String × FileTree)} (h : IsListing entries found)
    (htidy : (FileTree.folder entries).IsTidy) :
    found.length ≤ (FileTree.folder entries).files.length := by
  have honce : found.Nodup := List.Nodup.of_map Prod.fst (h.once htidy)
  refine (List.subperm_of_subset honce fun f hf => ?_).length_le
  exact FileTree.mem_files_iff.mpr ((h.mem_iff f.1 f.2).mp hf).1

theorem FilePath.join_eq (folder inner : String) :
    join folder inner = folder ++ (if folder.endsWith "/" then "" else "/") ++ inner := by
  unfold join
  split_ifs
  · rw [String.append_empty]
  · rfl

/-- What arguments stand for, each file with its path and with its text or why there is none. The
path of a file below a folder goes on with the names that lead to it. -/
inductive StandFor (look : Look) :
    List String → List (String × Except FileError String) → Prop where
  | nil : StandFor look [] []
  | file {input text : String} {inputs : List String}
      {files : List (String × Except FileError String)} (h : look input = .ok (.file text))
      (hrest : StandFor look inputs files) :
      StandFor look (input :: inputs) ((input, .ok text) :: files)
  | unreadable {input : String} {error : FileError} {inputs : List String}
      {files : List (String × Except FileError String)}
      (h : look input = .ok (.unreadable error) ∨ look input = .error error)
      (hrest : StandFor look inputs files) :
      StandFor look (input :: inputs) ((input, .error error) :: files)
  | folder {input : String} {entries : List (String × FileTree)}
      {found : List (List String × FileTree)} {inputs : List String}
      {files : List (String × Except FileError String)} (h : look input = .ok (.folder entries))
      (hfound : IsListing entries found) (hrest : StandFor look inputs files) :
      StandFor look (input :: inputs)
        (found.map (fun f => (input ++ (if input.endsWith "/" then "" else "/") ++
          "/".intercalate f.1, f.2.text)) ++ files)

/-- Every JSON file below a folder that is asked for is among the files. -/
theorem StandFor.mem_of_hasFile {look : Look} {inputs : List String}
    {files : List (String × Except FileError String)} {input stem : String}
    {entries : List (String × FileTree)} {names : List String} {f : FileTree}
    (h : StandFor look inputs files) (hinput : input ∈ inputs)
    (hlook : look input = .ok (.folder entries)) (hf : (FileTree.folder entries).HasFile names f)
    (hstem : stem ≠ "") (hlast : names.getLast? = some (stem ++ ".json")) :
    (input ++ (if input.endsWith "/" then "" else "/") ++ "/".intercalate names, f.text) ∈
      files := by
  induction h with
  | nil => cases hinput
  | file hfile _ ih =>
    rcases List.mem_cons.mp hinput with rfl | hinput
    · rw [hlook] at hfile
      cases hfile
    · exact List.mem_cons_of_mem _ (ih hinput)
  | unreadable herror _ ih =>
    rcases List.mem_cons.mp hinput with rfl | hinput
    · rw [hlook] at herror
      rcases herror with herror | herror <;> cases herror
    · exact List.mem_cons_of_mem _ (ih hinput)
  | folder hfolder hfound _ ih =>
    rcases List.mem_cons.mp hinput with rfl | hinput
    · rw [hlook] at hfolder
      cases hfolder
      have hmem := (hfound.mem_iff names f).mpr ⟨hf, stem, hstem, hlast⟩
      exact List.mem_append_left _ (List.mem_map.mpr ⟨_, hmem, rfl⟩)
    · exact List.mem_append_right _ (ih hinput)

theorem isListing_found (entries : List (String × FileTree)) :
    IsListing entries
      (((FileTree.folder entries).files.filter fun f =>
        f.1.getLast?.bind FilePath.extension? = some "json").mergeSort
          fun a b => FilePath.isUpTo a.1 b.1) where
  mem_iff names f := by
    simp only [List.mem_mergeSort, List.mem_filter, decide_eq_true_eq, FileTree.mem_files_iff,
      Option.bind_eq_some_iff, FilePath.extension?_json_iff]
    refine and_congr_right fun _ => ⟨?_, ?_⟩
    · rintro ⟨name, hlast, stem, hstem, rfl⟩
      exact ⟨stem, hstem, hlast⟩
    · rintro ⟨stem, hstem, hlast⟩
      exact ⟨_, hlast, stem, hstem, rfl⟩
  sorted := by
    have hsorted := List.pairwise_mergeSort (fun a b c : List String × FileTree =>
      FilePath.isUpTo_trans a.1 b.1 c.1) (fun a b => FilePath.isUpTo_total a.1 b.1)
    exact (hsorted _).imp fun hle => FilePath.isUpTo_iff.mp hle
  once htidy := by
    have hsublist : (((FileTree.folder entries).files.filter fun f =>
        f.1.getLast?.bind FilePath.extension? = some "json").map Prod.fst).Nodup :=
      htidy.nodup_files.sublist (List.filter_sublist.map _)
    exact ((List.mergeSort_perm _ _).map Prod.fst).nodup_iff.mpr hsublist

theorem standFor_dataFiles (look : Look) (inputs : List String) :
    StandFor look inputs (inputs.flatMap (dataFiles look)) := by
  induction inputs with
  | nil => exact .nil
  | cons input inputs ih =>
    rw [List.flatMap_cons, dataFiles]
    cases hlook : look input with
    | error error => exact .unreadable (.inr hlook) ih
    | ok node =>
      cases node with
      | file text => exact .file hlook ih
      | unreadable error => exact .unreadable (.inl hlook) ih
      | folder entries =>
        simp only [FilePath.join_eq]
        exact .folder hlook (isListing_found entries) ih

end RecordShape
