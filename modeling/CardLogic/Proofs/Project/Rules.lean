import CardLogic.Project.Rules
import CardLogic.Proofs.FileTree.Walk
import Mathlib.Data.List.Basic

/-!
The rule files of a project, and the rows that include them.

`ruleTails` lists the files by the names that lead to them from the project's folder, in the order
of these names (`pairwise_ruleTails`).  The row of each file names a path that leads right there
(`filterMap_moduleRow?`, `walk_ruleTails`): a file's name begins with the name of what it belongs
to, and the row takes off just that.
-/

namespace CardLogic.Project

open FileTree Entries

/-- The names in the folder at a location. -/
def namesIn (t : FileTree) (loc : Location) : List String :=
  match t.find loc with
  | some (.folder es) => es.map Prod.fst
  | _ => []

def ruleNamesIn (t : FileTree) (loc : Location) : List String := (namesIn t loc).filter isRuleName

def ownRules : Location := [resourcesFolder, ownFolder, rulesFolder]

def modulesTail : Location := [resourcesFolder, modulesFolder]

/-- The rule files of a project, as the names that lead to them from the project's folder:
its own first, then those of its modules, everything in the order of the names. -/
def ruleTails (t : FileTree) (home : Location) : List Location :=
  (ruleNamesIn t (home ++ ownRules)).map (fun n => ownRules ++ [n]) ++
    (namesIn t (home ++ modulesTail)).flatMap fun m =>
      (ruleNamesIn t (home ++ modulesTail ++ [m, rulesFolder])).map fun n =>
        modulesTail ++ [m, rulesFolder] ++ [n]

/-! ## The locations -/

theorem mem_namesIn {t : FileTree} {loc : Location} {n : String} :
    n ∈ namesIn t loc ↔ t.shapeAt (loc ++ [n]) ≠ none := by
  unfold namesIn
  cases hfind : t.find loc with
  | none =>
    have hnone : t.shapeAt (loc ++ [n]) = none :=
      shapeAt_of_above_eq_none (shapeAt_eq_none.mpr hfind) [n]
    simp [hnone]
  | some d =>
    cases d with
    | file c =>
      have hnone : t.shapeAt (loc ++ [n]) = none :=
        shapeAt_of_above_eq_file (shapeAt_eq_file.mpr hfind) (List.cons_ne_nil n [])
      simp [hnone]
    | folder es =>
      have hes : Node.OrderedEntries es := ordered_of_find t.ordered hfind
      rw [FileTree.shapeAt_append hfind, shapeAt_singleton, Ne, Option.map_eq_none_iff]
      dsimp only
      rw [List.mem_map]
      constructor
      · intro h
        obtain ⟨⟨m, d⟩, hm, rfl⟩ := h
        rw [get?_of_mem hes hm]
        simp
      · intro hne
        cases hget : get? es n with
        | none => exact absurd hget hne
        | some d => exact ⟨(n, d), mem_of_get? hget, rfl⟩

/-- Names come in their order, each once. -/
theorem pairwise_namesIn (t : FileTree) (loc : Location) :
    (namesIn t loc).Pairwise fun m n => m < n := by
  unfold namesIn
  cases hfind : t.find loc with
  | none => exact List.Pairwise.nil
  | some d =>
    cases d with
    | file c => exact List.Pairwise.nil
    | folder es =>
      have hes : Node.OrderedEntries es := ordered_of_find t.ordered hfind
      dsimp only
      clear hfind
      induction es with
      | nil => exact List.Pairwise.nil
      | cons e es ih =>
        obtain ⟨n, d⟩ := e
        obtain ⟨hlt, -, hrest⟩ := hes
        rw [List.map_cons, List.pairwise_cons]
        refine ⟨fun m hm => ?_, ih hrest⟩
        obtain ⟨e, he, rfl⟩ := List.mem_map.mp hm
        exact hlt e he

theorem mem_ruleTails {t : FileTree} {home tail : Location} :
    tail ∈ ruleTails t home ↔ t.shapeAt (home ++ tail) ≠ none ∧ ∃ n, isRuleName n = true ∧
      (tail = ownRules ++ [n] ∨ ∃ m, tail = modulesTail ++ [m, rulesFolder, n]) := by
  unfold ruleTails ruleNamesIn
  simp only [List.mem_append, List.mem_map, List.mem_filter, List.mem_flatMap, mem_namesIn]
  constructor
  · intro h
    rcases h with ⟨n, ⟨hshape, hn⟩, rfl⟩ | ⟨m, -, n, ⟨hshape, hn⟩, rfl⟩
    · rw [List.append_assoc] at hshape
      exact ⟨hshape, n, hn, Or.inl rfl⟩
    · refine ⟨?_, n, hn, Or.inr ⟨m, by simp⟩⟩
      simpa using hshape
  · intro h
    obtain ⟨hshape, n, hn, rfl | ⟨m, rfl⟩⟩ := h
    · left
      exact ⟨n, ⟨by rw [List.append_assoc]; exact hshape, hn⟩, rfl⟩
    · right
      have hsplit : home ++ (modulesTail ++ [m, rulesFolder, n]) =
          home ++ modulesTail ++ [m] ++ [rulesFolder, n] := by simp
      refine ⟨m, ?_, n, ⟨?_, hn⟩, by simp⟩
      · rw [hsplit] at hshape
        rw [shapeAt_above (by simp) hshape]
        simp
      · simpa using hshape

/-- The names that lead to rule files come in their order, each once. -/
theorem pairwise_ruleTails (t : FileTree) (home : Location) :
    (ruleTails t home).Pairwise fun a b => a < b := by
  have hnames : ∀ loc, (ruleNamesIn t loc).Pairwise fun m n => m < n :=
    fun loc => (pairwise_namesIn t loc).filter isRuleName
  have hlast : ∀ (tail : Location) {m n : String}, m < n → tail ++ [m] < tail ++ [n] :=
    fun tail _ _ hlt => List.append_left_lt (List.cons_lt_cons_iff.mpr (Or.inl hlt))
  unfold ruleTails
  refine List.pairwise_append.mpr ⟨?_, List.pairwise_flatMap.mpr ⟨fun m _ => ?_, ?_⟩, ?_⟩
  · exact List.pairwise_map.mpr ((hnames _).imp (hlast ownRules))
  · exact List.pairwise_map.mpr ((hnames _).imp (hlast (modulesTail ++ [m, rulesFolder])))
  · refine (pairwise_namesIn t _).imp fun {m m'} hlt a ha b hb => ?_
    obtain ⟨n, -, rfl⟩ := List.mem_map.mp ha
    obtain ⟨n', -, rfl⟩ := List.mem_map.mp hb
    rw [List.append_assoc, List.append_assoc]
    exact List.append_left_lt (List.cons_lt_cons_iff.mpr (Or.inl hlt))
  · intro a ha b hb
    obtain ⟨n, -, rfl⟩ := List.mem_map.mp ha
    obtain ⟨m, -, hb⟩ := List.mem_flatMap.mp hb
    obtain ⟨n', -, rfl⟩ := List.mem_map.mp hb
    -- The folder of the project's own comes before that of the modules.
    have hlt : ownFolder < modulesFolder := by decide
    exact List.cons_lt_cons_iff.mpr (Or.inr ⟨rfl, List.cons_lt_cons_iff.mpr (Or.inl hlt)⟩)

/-- Where there is an entry, the names on the way lead to it. -/
theorem walk_of_shapeAt {t : FileTree} (hnames : t.LegalNames) {here : Location}
    {names : List String} (h : t.shapeAt (here ++ names) ≠ none) :
    t.walk here names = .ok (here ++ names) := by
  induction names generalizing here with
  | nil => rw [walk_nil, List.append_nil]
  | cons n rest ih =>
    have hassoc : here ++ n :: rest = here ++ [n] ++ rest := by simp
    have hfolder : t.shapeAt here = some .folder := shapeAt_above (by simp) h
    have hn : t.shapeAt (here ++ [n]) ≠ none := by
      rw [hassoc] at h
      by_cases hrest : rest = []
      · subst hrest
        rwa [List.append_nil] at h
      · rw [shapeAt_above hrest h]
        simp
    have hlegal := hnames here n hn
    have hshort := hlegal.short
    rw [walk_cons_of_folder hfolder, if_neg hlegal.ne_up, if_neg (by omega), hassoc]
    exact ih (by rw [← hassoc]; exact h)

theorem walk_ruleTails {t : FileTree} {p : Path} {home tail : Location} (hnames : t.LegalNames)
    (hbase : FolderAt t p home) (htail : tail ∈ ruleTails t home) :
    t.walk [] (p.below tail).segments = .ok (home ++ tail) := by
  have hwalk := walk_append_of_ok (resolve_eq_ok.mp hbase.resolve).2 tail
  exact hwalk.trans (walk_of_shapeAt hnames (mem_ruleTails.mp htail).1)

/-! ## The rows -/

theorem afterLastSlash_append {owner name : String} (h : '/' ∉ name.toList) :
    ProgramFile.afterLastSlash (owner ++ "/" ++ name).toList = name.toList := by
  have hall : ∀ c ∈ name.toList.reverse, (decide (c ≠ '/')) = true := by
    intro c hc
    rw [List.mem_reverse] at hc
    exact decide_eq_true fun he => h (he ▸ hc)
  unfold ProgramFile.afterLastSlash
  rw [String.toList_append, String.toList_append, List.reverse_append, List.reverse_append,
    List.takeWhile_append_of_pos hall]
  simp

theorem moduleRow?_of_legal {owner name : String} {folder : Path} (hname : LegalName name) :
    ProgramFile.moduleRow? ⟨owner ++ "/" ++ name, some folder⟩ =
      some (ProgramFile.includeRow (folder.child name).toString) := by
  unfold ProgramFile.moduleRow?
  rw [Option.map_some, afterLastSlash_append hname.no_slash, String.ofList_toList,
    Path.join_eq_child folder hname.ne_empty hname.ne_here hname.no_slash]

/-- The rows for the files in one folder. -/
theorem filterMap_ruleFilesAt {t : FileTree} (hnames : t.LegalNames) (owner : String)
    (folder : Path) (loc : Location) :
    (ruleFilesAt owner folder (t.find loc)).filterMap ProgramFile.moduleRow? =
      (ruleNamesIn t loc).map fun n => ProgramFile.includeRow (folder.child n).toString := by
  unfold ruleNamesIn namesIn
  cases hfind : t.find loc with
  | none => rfl
  | some d =>
    cases d with
    | file c => rfl
    | folder es =>
      have hlegal : ∀ e ∈ es, LegalName e.1 := by
        intro e he
        refine hnames loc e.1 ?_
        have hmem : e.1 ∈ namesIn t loc := by
          unfold namesIn
          rw [hfind]
          exact List.mem_map_of_mem he
        exact mem_namesIn.mp hmem
      unfold ruleFilesAt ruleFilesIn
      dsimp only
      clear hfind
      induction es with
      | nil => rfl
      | cons e es ih =>
        have hrest := ih fun e' he' => hlegal e' (List.mem_cons_of_mem _ he')
        rw [List.map_cons]
        by_cases hrule : isRuleName e.1 = true
        · rw [List.filter_cons_of_pos (by exact hrule), List.filter_cons_of_pos (by exact hrule),
            List.map_cons, List.map_cons,
            List.filterMap_cons_some (moduleRow?_of_legal (hlegal e List.mem_cons_self)), hrest]
        · rw [List.filter_cons_of_neg (by exact hrule), List.filter_cons_of_neg (by exact hrule)]
          exact hrest

theorem legalName_ownRules : ∀ n ∈ ownRules, LegalName n := by
  intro n hn
  have hcases : n = resourcesFolder ∨ n = ownFolder ∨ n = rulesFolder := by
    simpa [ownRules] using hn
  rcases hcases with rfl | rfl | rfl <;> constructor <;> decide

theorem legalName_modulesTail : ∀ n ∈ modulesTail, LegalName n := by
  intro n hn
  have hcases : n = resourcesFolder ∨ n = modulesFolder := by simpa [modulesTail] using hn
  rcases hcases with rfl | rfl <;> constructor <;> decide

/-- What the reading of rule files comes to, once the paths can be asked about. -/
theorem ruleFiles_ok {p : Project} {t : FileTree} {home : Location} (hbase : FolderAt t p.base home)
    {files : List RuleFile} (h : p.ruleFiles t = .ok files) :
    files = ruleFilesAt ownFolder (p.base.below ownRules) (t.find (home ++ ownRules)) ++
      match t.find (home ++ modulesTail) with
      | some (.folder es) => es.flatMap fun e => moduleFiles (p.base.below modulesTail) e.1 e.2
      | _ => [] := by
  have hown := entry?_below hbase legalName_ownRules
  have hmodules := entry?_below hbase legalName_modulesTail
  have hown' : ((p.base.child resourcesFolder).child ownFolder).child rulesFolder =
      p.base.below ownRules := by
    simp [Path.child, Path.below, ownRules]
  have hmodules' : (p.base.child resourcesFolder).child modulesFolder =
      p.base.below modulesTail := by
    simp [Path.child, Path.below, modulesTail]
  unfold ruleFiles at h
  simp only [hown', hmodules', hown, hmodules] at h
  by_cases hlong : pathLimit < (p.base.below ownRules).toString.utf8ByteSize
  · rw [if_pos hlong] at h
    exact absurd h (by simp)
  · by_cases hlong' : pathLimit < (p.base.below modulesTail).toString.utf8ByteSize
    · rw [if_neg hlong, if_pos hlong'] at h
      exact absurd h (by simp)
    · rw [if_neg hlong, if_neg hlong'] at h
      cases hfind : t.find (home ++ modulesTail) with
      | none => rw [hfind] at h; cases h; simp
      | some d => rw [hfind] at h; cases d <;> cases h <;> simp

/-- What stands where a module has its rules. -/
theorem find_moduleRules {t : FileTree} {home : Location} {es : Entries}
    (hes : Node.OrderedEntries es) (hfind : t.find (home ++ modulesTail) = some (.folder es))
    {m : String} {d : Node} (hm : (m, d) ∈ es) :
    t.find (home ++ modulesTail ++ [m, rulesFolder]) =
      match d with
      | .file _ => none
      | .folder sub => get? sub rulesFolder := by
  unfold FileTree.find at hfind ⊢
  rw [find_append, hfind]
  dsimp only
  rw [Entries.find, get?_of_mem hes hm]
  cases d with
  | file c => simp
  | folder sub =>
    dsimp only
    rw [Entries.find]
    cases get? sub rulesFolder with
    | none => rfl
    | some d' => cases d' <;> simp [Entries.find]

/-- The rows of the rule files, each with the path of the file. -/
theorem filterMap_moduleRow? {p : Project} {t : FileTree} (hnames : t.LegalNames)
    {home : Location} (hbase : FolderAt t p.base home) {files : List RuleFile}
    (h : p.ruleFiles t = .ok files) :
    files.filterMap ProgramFile.moduleRow? =
      (ruleTails t home).map fun tail => ProgramFile.includeRow (p.base.below tail).toString := by
  rw [ruleFiles_ok hbase h, List.filterMap_append, filterMap_ruleFilesAt hnames]
  unfold ruleTails
  rw [List.map_append, List.map_map]
  congr 1
  · refine List.map_congr_left fun n _ => ?_
    simp [Path.below, Path.child]
  · have hmodules : namesIn t (home ++ modulesTail) =
        match t.find (home ++ modulesTail) with
        | some (.folder es) => es.map Prod.fst
        | _ => [] := rfl
    rw [hmodules]
    cases hfind : t.find (home ++ modulesTail) with
    | none => rfl
    | some d =>
      cases d with
      | file c => rfl
      | folder es =>
        have hes : Node.OrderedEntries es := ordered_of_find t.ordered hfind
        dsimp only
        rw [List.filterMap_flatMap, List.flatMap_map, List.map_flatMap]
        refine List.flatMap_congr fun e he => ?_
        obtain ⟨m, d⟩ := e
        have hfolder : ((p.base.below modulesTail).child m).child rulesFolder =
            p.base.below (modulesTail ++ [m, rulesFolder]) := by
          simp [Path.below, Path.child]
        have hrow := filterMap_ruleFilesAt hnames m (p.base.below (modulesTail ++ [m, rulesFolder]))
          (home ++ modulesTail ++ [m, rulesFolder])
        rw [List.map_map]
        refine Eq.trans ?_ (hrow.trans (List.map_congr_left fun n _ => ?_))
        · rw [find_moduleRules hes hfind he]
          cases d with
          | file c => rfl
          | folder sub =>
            unfold moduleFiles
            rw [hfolder]
        · simp [Path.below, Path.child]

/-! ## Other trees -/

theorem ruleTails_congr {t t' : FileTree} {home : Location}
    (h : ∀ rest, t'.shapeAt (home ++ resourcesFolder :: rest) =
      t.shapeAt (home ++ resourcesFolder :: rest)) : ruleTails t' home = ruleTails t home := by
  have hfind : ∀ tail, t'.find (home ++ resourcesFolder :: tail) =
      t.find (home ++ resourcesFolder :: tail) := by
    intro tail
    refine find_eq_of_shapeAt fun rest => ?_
    rw [List.append_assoc]
    exact h (tail ++ rest)
  have hnames : ∀ tail, namesIn t' (home ++ resourcesFolder :: tail) =
      namesIn t (home ++ resourcesFolder :: tail) := by
    intro tail
    unfold namesIn
    rw [hfind]
  unfold ruleTails ruleNamesIn ownRules modulesTail
  simp only [List.append_assoc, List.cons_append, List.nil_append, hnames]

theorem ruleFiles_congr {p : Project} {t t' : FileTree} {home : Location}
    (hbase : FolderAt t p.base home) (hbase' : FolderAt t' p.base home)
    (h : ∀ rest, t'.shapeAt (home ++ resourcesFolder :: rest) =
      t.shapeAt (home ++ resourcesFolder :: rest)) : p.ruleFiles t' = p.ruleFiles t := by
  have hfind : ∀ tail, t'.find (home ++ resourcesFolder :: tail) =
      t.find (home ++ resourcesFolder :: tail) := by
    intro tail
    refine find_eq_of_shapeAt fun rest => ?_
    rw [List.append_assoc]
    exact h (tail ++ rest)
  have hown : t'.entry? (((p.base.child resourcesFolder).child ownFolder).child rulesFolder) =
      t.entry? (((p.base.child resourcesFolder).child ownFolder).child rulesFolder) := by
    have hbelow : ((p.base.child resourcesFolder).child ownFolder).child rulesFolder =
        p.base.below ownRules := by
      simp [Path.child, Path.below, ownRules]
    rw [hbelow, entry?_below hbase legalName_ownRules, entry?_below hbase' legalName_ownRules]
    unfold ownRules
    rw [hfind]
  have hmodules : t'.entry? ((p.base.child resourcesFolder).child modulesFolder) =
      t.entry? ((p.base.child resourcesFolder).child modulesFolder) := by
    have hbelow : (p.base.child resourcesFolder).child modulesFolder =
        p.base.below modulesTail := by
      simp [Path.child, Path.below, modulesTail]
    rw [hbelow, entry?_below hbase legalName_modulesTail, entry?_below hbase' legalName_modulesTail]
    unfold modulesTail
    rw [hfind]
  unfold ruleFiles
  simp only [hown, hmodules]

end CardLogic.Project
