import CardLogic.Proofs.Project.Slices

/-!
Which folder a look-up takes when several have one name.

The folders are gone over in the order of their files of fields (`pairwise_cardFoldersIn`), and the
first one of a name is taken.  For two folders that lie apart this is the order of the folders
themselves, but of a folder and one inside it either may come first: the one inside does if it
lies below an entry whose name comes before that of the file.  So what is found lies in the folder
with the first file, and this is the first folder just if all that has its name inside the first
folder lies below entries that come after the file (`found_in_first_file`).
-/

namespace CardLogic.Project

open Entries

/-- A look-up goes over the folder at a location, and it has the key for its name. -/
def FolderOf (p : Project) (t : FileTree) (key : String) (loc : Location) : Prop :=
  p.Searched t loc ∧ (p.cardRoot.below loc).name = key

/-- Of the folders of a key, the one whose place comes first in the order of paths: segment by
segment, and a folder before everything inside it. -/
structure FirstBy (place : Path → Path) (p : Project) (t : FileTree) (key : String)
    (loc : Location) : Prop where
  folder : p.FolderOf t key loc
  first : ∀ other, p.FolderOf t key other → other ≠ loc →
    (place (p.cardRoot.below loc)).segments < (place (p.cardRoot.below other)).segments

/-- The first folder of a key. -/
def FirstFolder (p : Project) (t : FileTree) (key : String) (loc : Location) : Prop :=
  FirstBy id p t key loc

/-- The folder of a key with the first file of fields. -/
def FirstFile (p : Project) (t : FileTree) (key : String) (loc : Location) : Prop :=
  FirstBy (·.child metadataName) p t key loc

variable {p : Project} {t : FileTree} {key : String} {keys : List String} {es : Entries}
  {a b loc : Location}

/-! ## Orders of places -/

theorem append_lt_append_iff (above : Location) : above ++ a < above ++ b ↔ a < b := by
  induction above with
  | nil => rfl
  | cons n above ih =>
    rw [List.cons_append, List.cons_append, List.cons_lt_cons_iff, ih]
    simp only [String.lt_irrefl, true_and, false_or]

theorem nil_lt_concat (loc : Location) (n : String) : [] < loc ++ [n] := by
  cases loc with
  | nil => exact List.nil_lt_cons n []
  | cons m loc => exact List.nil_lt_cons m (loc ++ [n])

/-- What comes first with a name behind it comes first without, except that it may lie inside the
other one below an entry with a smaller name. -/
theorem lt_or_inside_of_concat_lt {x : String} (h : a ++ [x] < b ++ [x]) :
    a < b ∨ ∃ n rest, a = b ++ n :: rest ∧ n < x := by
  induction a generalizing b with
  | nil =>
    cases b with
    | nil => exact absurd h (List.lt_irrefl [x])
    | cons m b => exact Or.inl (List.nil_lt_cons m b)
  | cons n a ih =>
    rw [List.cons_append] at h
    cases b with
    | nil =>
      rcases List.cons_lt_cons_iff.mp h with hlt | ⟨-, hlt⟩
      · exact Or.inr ⟨n, a, rfl, hlt⟩
      · exact absurd hlt (List.not_lt_nil _)
    | cons m b =>
      rcases List.cons_lt_cons_iff.mp h with hlt | ⟨rfl, hlt⟩
      · exact Or.inl (List.cons_lt_cons_iff.mpr (Or.inl hlt))
      · rcases ih hlt with hlt | ⟨k, rest, rfl, hk⟩
        · exact Or.inl (List.cons_lt_cons_iff.mpr (Or.inr ⟨rfl, hlt⟩))
        · exact Or.inr ⟨k, rest, rfl, hk⟩

/-- A file comes before another one inside its folder if the entry on the way comes no earlier. -/
theorem concat_lt_inside_iff {x n : String} {rest : Location} :
    a ++ [x] < a ++ n :: rest ++ [x] ↔ x < n ∨ x = n := by
  rw [List.append_assoc, append_lt_append_iff, List.cons_append, List.cons_lt_cons_iff,
    and_iff_left (nil_lt_concat rest x)]

theorem segments_file (root : Path) (loc : Location) :
    ((root.below loc).child metadataName).segments = root.segments ++ (loc ++ [metadataName]) := by
  simp [Path.below, Path.child]

theorem lt_of_beginning (h : a <+: b) (hne : b ≠ a) : a < b := by
  obtain ⟨rest, rfl⟩ := h
  cases rest with
  | nil => exact absurd (List.append_nil a) hne
  | cons n rest =>
    have hinside : a ++ [] < a ++ n :: rest := List.append_left_lt (List.nil_lt_cons n rest)
    rwa [List.append_nil] at hinside

/-- Of the beginnings of a location with some property, one is a beginning of all. -/
theorem exists_shortest {P : Location → Prop} (h : P loc) :
    ∃ a, a <+: loc ∧ P a ∧ ∀ b, b <+: loc → P b → a <+: b := by
  classical
  have hex : ∃ k, P (loc.take k) := ⟨loc.length, by rwa [List.take_length]⟩
  refine ⟨loc.take (Nat.find hex), List.take_prefix _ _, Nat.find_spec hex, fun b hb hPb => ?_⟩
  have htake : b = loc.take b.length := List.prefix_iff_eq_take.mp hb
  have hle : Nat.find hex ≤ b.length := Nat.find_min' hex (htake ▸ hPb)
  refine List.prefix_of_prefix_length_le (List.take_prefix _ _) hb ?_
  rw [List.length_take]
  omega

/-! ## The order in which folders are gone over -/

/-- The file of a folder comes before that of another one. -/
def FileBefore (f g : Path × Node) : Prop :=
  (f.1.child metadataName).segments < (g.1.child metadataName).segments

theorem ordered_of_mem (hes : Node.OrderedEntries es) {n : String} {d : Node} (hn : (n, d) ∈ es) :
    d.Ordered := by
  cases d with
  | file c => trivial
  | folder sub => exact ordered_of_get? hes (get?_of_mem hes hn)

/-- Where the files lie that are met below one entry of a folder. -/
theorem segments_of_mem_entry {path : Path} {n : String} {d : Node} (hd : d.Ordered)
    {f : Path × Node} (hf : f ∈ cardFolders (path.child n) d) :
    ∃ loc, (f.1.child metadataName).segments = path.segments ++ n :: (loc ++ [metadataName]) := by
  cases d with
  | file c => exact absurd hf (by simp [cardFolders])
  | folder sub =>
    obtain ⟨loc, hloc, -⟩ := (mem_cardFolders hd).mp hf
    refine ⟨loc, ?_⟩
    rw [hloc, ← Path.below_cons, segments_file, List.cons_append]

theorem segments_of_mem_cardFoldersIn {path : Path} {whole : Node}
    (hes : Node.OrderedEntries es) {f : Path × Node} (hf : f ∈ cardFoldersIn path whole es) :
    ∃ e ∈ es, ∃ rest, (f.1.child metadataName).segments = path.segments ++ e.1 :: rest := by
  rcases mem_cardFoldersIn.mp hf with ⟨⟨d, hd⟩, rfl⟩ | ⟨n, d, hn, hsub⟩
  · exact ⟨(metadataName, d), hd, [], rfl⟩
  · obtain ⟨loc, hloc⟩ := segments_of_mem_entry (ordered_of_mem hes hn) hsub
    exact ⟨(n, d), hn, loc ++ [metadataName], hloc⟩

/-- A look-up goes over the folders in the order of their files. -/
theorem pairwise_cardFoldersIn {path : Path} {whole : Node} : ∀ {es : Entries},
    Node.OrderedEntries es → (cardFoldersIn path whole es).Pairwise FileBefore
  | [], _ => List.Pairwise.nil
  | (n, d) :: es, ⟨hlt, hd, hrest⟩ => by
    rw [cardFoldersIn, List.pairwise_append, List.pairwise_append]
    refine ⟨⟨?own, ?below, ?ownBelow⟩, pairwise_cardFoldersIn hrest, ?later⟩
    case own =>
      split
      · exact List.pairwise_singleton _ _
      · exact List.Pairwise.nil
    case below =>
      cases d with
      | file c => exact List.Pairwise.nil
      | folder sub => exact pairwise_cardFoldersIn hd
    case ownBelow =>
      intro f hf g hg
      split at hf
      · next hn =>
        subst hn
        obtain rfl := List.mem_singleton.mp hf
        obtain ⟨loc, hloc⟩ := segments_of_mem_entry hd hg
        have hinside : [metadataName] < metadataName :: (loc ++ [metadataName]) :=
          List.cons_lt_cons_iff.mpr (Or.inr ⟨rfl, nil_lt_concat loc metadataName⟩)
        unfold FileBefore
        rw [hloc]
        exact List.append_left_lt hinside
      · exact absurd hf List.not_mem_nil
    case later =>
      intro f hf g hg
      have hone : Node.OrderedEntries [(n, d)] := ⟨by simp, hd, trivial⟩
      have hf' : f ∈ cardFoldersIn path whole [(n, d)] := by
        rw [cardFoldersIn, cardFoldersIn, List.append_nil]
        exact hf
      obtain ⟨e, he, a, ha⟩ := segments_of_mem_cardFoldersIn hone hf'
      obtain rfl := List.mem_singleton.mp he
      obtain ⟨e', he', b, hb⟩ := segments_of_mem_cardFoldersIn hrest hg
      unfold FileBefore
      rw [ha, hb]
      exact List.append_left_lt (List.cons_lt_cons_iff.mpr (Or.inl (hlt e' he')))
termination_by es => sizeOf es

/-! ## The folder that is found -/

theorem searched_iff_mem (hentry : t.entry? p.cardRoot = .ok (some (.folder es))) :
    p.Searched t loc ↔
      p.cardRoot.below loc ∈ (cardFolders p.cardRoot (.folder es)).map Prod.fst := by
  obtain ⟨_, -, hroot⟩ := FileTree.entry?_eq_some hentry
  have hes : Node.OrderedEntries es := ordered_of_find t.ordered hroot
  constructor
  · rintro ⟨es', hentry', hindex⟩
    cases hentry.symm.trans hentry'
    obtain ⟨d, hd⟩ : ∃ d, (p.cardRoot.below loc, d) ∈ cardFolders p.cardRoot (.folder es) :=
      exists_mem_cardFolders hes hindex
    exact List.mem_map_of_mem hd
  · intro hmem
    obtain ⟨⟨q, d⟩, hd, hq⟩ := List.mem_map.mp hmem
    obtain ⟨loc', hloc', -, hindex⟩ := (mem_cardFolders hes).mp hd
    cases Path.below_inj (hq.symm.trans hloc')
    exact ⟨es, hentry, hindex⟩

theorem HasFolder.exists_root (h : p.HasFolder t key) : ∃ es,
    t.entry? p.cardRoot = .ok (some (.folder es)) ∧ Node.OrderedEntries es := by
  obtain ⟨loc, ⟨es, hentry, -⟩, -⟩ := h
  obtain ⟨_, -, hroot⟩ := FileTree.entry?_eq_some hentry
  exact ⟨es, hentry, ordered_of_find t.ordered hroot⟩

/-- The first folder of a name among those gone over is the one with the first file. -/
theorem firstFile_of_find? (hentry : t.entry? p.cardRoot = .ok (some (.folder es)))
    (hes : Node.OrderedEntries es) {path : Path} {d : Node}
    (hfind : (cardFolders p.cardRoot (.folder es)).find? (fun f => f.1.name = key) =
      some (path, d)) :
    ∃ loc, path = p.cardRoot.below loc ∧ p.FirstFile t key loc := by
  obtain ⟨hname, before, behind, hsplit, hbefore⟩ := List.find?_eq_some_iff_append.mp hfind
  obtain ⟨loc, rfl, -, hindex⟩ := (mem_cardFolders hes).mp (List.mem_of_find?_eq_some hfind)
  refine ⟨loc, rfl, ⟨⟨es, hentry, hindex⟩, by simpa using hname⟩, fun other hother hne => ?_⟩
  obtain ⟨⟨_, d'⟩, hmem, rfl⟩ := List.mem_map.mp ((searched_iff_mem hentry).mp hother.1)
  have hsorted : (cardFolders p.cardRoot (.folder es)).Pairwise FileBefore :=
    pairwise_cardFoldersIn hes
  rw [hsplit] at hmem hsorted
  rcases List.mem_append.mp hmem with hmem | hmem
  · have hno := hbefore _ hmem
    rw [hother.2] at hno
    exact absurd hno (by simp)
  · rcases List.mem_cons.mp hmem with heq | hmem
    · exact absurd (Path.below_inj (congrArg Prod.fst heq)) hne
    · have hlater := (List.pairwise_append.mp hsorted).2.1
      exact (List.pairwise_cons.mp hlater).1 _ hmem

theorem card_path_of_readCard {path : Path} {d : Node} {tree : CardTree}
    (h : readCard path d = .ok tree) : tree.card.path = path := by
  cases d with
  | file c => exact absurd h (by simp [readCard])
  | folder sub =>
    obtain ⟨content, fields, children, -, -, -, rfl⟩ := readCard_eq_ok.mp h
    rfl

/-- For a key that some folder has for its name, a look-up finds a card in the folder with the
first file. -/
theorem AllReadable.exists_firstFile (h : p.AllReadable t) (hkey : key ∈ keys) (hne : key ≠ "")
    (hfolder : p.HasFolder t key) :
    ∃ found tree loc, p.findCards keys t = .ok found ∧ found.lookup key = some tree ∧
      tree.card.path = p.cardRoot.below loc ∧ p.FirstFile t key loc := by
  obtain ⟨es, hentry, hes⟩ := hfolder.exists_root
  have hwanted : key ∈ wanted keys := mem_wanted.mpr ⟨hkey, hne⟩
  have hreads : p.findCards keys t =
      readFound (cardFolders p.cardRoot (.folder es)) (wanted keys) := by
    unfold findCards
    rw [if_neg (List.ne_nil_of_mem hwanted), hentry]
  obtain ⟨found, hfound⟩ : ∃ found,
      readFound (cardFolders p.cardRoot (.folder es)) (wanted keys) = .ok found :=
    readFound_ok fun _ _ path d hfind =>
      h.readCard_of_mem_cardFolders hentry (List.mem_of_find?_eq_some hfind)
  have hsome : (cardFolders p.cardRoot (.folder es)).find? (fun f => f.1.name = key) ≠ none := by
    obtain ⟨loc, hloc, rfl⟩ := hfolder
    exact find?_cardFolders_of_searched hloc hentry
  obtain ⟨⟨path, d⟩, hfind⟩ := Option.ne_none_iff_exists'.mp hsome
  obtain ⟨tree, hread, hlookup⟩ := (lookup_readFound hfound).1 path d hwanted hfind
  obtain ⟨loc, rfl, hfirst⟩ := firstFile_of_find? hentry hes hfind
  exact ⟨found, tree, loc, hreads.trans hfound, hlookup, card_path_of_readCard hread, hfirst⟩

/-! ## The first file and the first folder -/

theorem FirstBy.unique {place : Path → Path} (h : FirstBy place p t key a)
    (h' : FirstBy place p t key b) : a = b := by
  by_contra hne
  exact List.lt_asymm (h.first b h'.folder (Ne.symm hne)) (h'.first a h.folder hne)

theorem FirstFile.concat_lt (h : p.FirstFile t key loc) {other : Location}
    (hother : p.FolderOf t key other) (hne : other ≠ loc) :
    loc ++ [metadataName] < other ++ [metadataName] := by
  have hlt : ((p.cardRoot.below loc).child metadataName).segments <
      ((p.cardRoot.below other).child metadataName).segments := h.first other hother hne
  rwa [segments_file, segments_file, append_lt_append_iff] at hlt

/-- The first folder lies at or above the one with the first file. -/
theorem FirstFile.exists_firstFolder (h : p.FirstFile t key loc) :
    ∃ first, first <+: loc ∧ p.FirstFolder t key first := by
  obtain ⟨first, hbegin, hfolder, hshortest⟩ := exists_shortest h.folder
  refine ⟨first, hbegin, hfolder, fun other hother hne => ?_⟩
  have hlt : first < other := by
    by_cases hsame : other = loc
    · subst hsame
      exact lt_of_beginning hbegin hne
    · rcases lt_or_inside_of_concat_lt (h.concat_lt hother hsame) with hlt | ⟨n, rest, rfl, -⟩
      · by_cases hfirst : loc = first
        · exact hfirst ▸ hlt
        · exact List.lt_trans (lt_of_beginning hbegin hfirst) hlt
      · exact lt_of_beginning (hshortest other (List.prefix_append _ _) hother) hne
  exact (append_lt_append_iff p.cardRoot.segments).mpr hlt

/-- Nothing lies below a file of fields. -/
theorem AllReadable.ne_metadataName (h : p.AllReadable t) (hloc : p.Searched t loc) {n : String}
    {rest : Location} (hinside : p.Searched t (loc ++ n :: rest)) : n ≠ metadataName := by
  rintro rfl
  obtain ⟨es, hentry, hindex⟩ := hloc
  obtain ⟨es', hentry', hindex'⟩ := hinside
  cases hentry.symm.trans hentry'
  obtain ⟨_, -, hroot⟩ := FileTree.entry?_eq_some hentry
  have hes : Node.OrderedEntries es := ordered_of_find t.ordered hroot
  obtain ⟨content, fields, hcontent, -⟩ := h es hentry loc hindex
  have hsame : loc ++ metadataName :: rest ++ [metadataName] =
      loc ++ [metadataName] ++ (rest ++ [metadataName]) := by simp
  rw [hsame] at hindex'
  exact hindex' (FileTree.shapeAt_of_above_eq_file (t := ⟨es, hes⟩) hcontent (by simp))

/-- If several folders have the name of a key, what is found lies in the one with the first file.
This is the first folder of the key just if all the others inside it lie below entries that come
after the file. -/
theorem found_in_first_file (h : p.AllReadable t) (hkey : key ∈ keys) (hne : key ≠ "")
    (hfolder : p.HasFolder t key) :
    ∃ found tree loc, p.findCards keys t = .ok found ∧ found.lookup key = some tree ∧
      tree.card.path = p.cardRoot.below loc ∧ p.FirstFile t key loc ∧
      ∃ first, p.FirstFolder t key first ∧
        (loc = first ↔ ∀ n rest, p.FolderOf t key (first ++ n :: rest) → metadataName < n) := by
  obtain ⟨found, tree, loc, hfound, hlookup, hpath, hloc⟩ := h.exists_firstFile hkey hne hfolder
  obtain ⟨first, hbegin, hfirst⟩ := hloc.exists_firstFolder
  refine ⟨found, tree, loc, hfound, hlookup, hpath, hloc, first, hfirst, ?_, ?_⟩
  · rintro rfl n rest hinside
    have hother : loc ++ n :: rest ≠ loc := by simp
    rcases concat_lt_inside_iff.mp (hloc.concat_lt hinside hother) with hlt | heq
    · exact hlt
    · exact absurd heq.symm (h.ne_metadataName hloc.folder.1 hinside.1)
  · intro hlater
    obtain ⟨inside, rfl⟩ := hbegin
    cases inside with
    | nil => rw [List.append_nil]
    | cons n rest =>
      have hbefore : first ++ [metadataName] < first ++ n :: rest ++ [metadataName] :=
        concat_lt_inside_iff.mpr (Or.inl (hlater n rest hloc.folder))
      have hafter := hloc.concat_lt hfirst.folder (by simp)
      exact absurd hafter (List.lt_asymm hbefore)

/-- Two keys with a folder each and a second one inside it: before the file, and after it. -/
def repeatedCards : Entries :=
  [("a", .folder [("c", .folder [("a", .folder [("index.json", .file (bytesOf "{}"))])]),
    ("index.json", .file (bytesOf "{}"))]),
    ("b", .folder [("index.json", .file (bytesOf "{}")),
      ("x", .folder [("b", .folder [("index.json", .file (bytesOf "{}"))])])])]

def repeatedStore : FileTree :=
  ⟨[("p", .folder [("cardroot", .folder repeatedCards)])],
    by simp only [repeatedCards, Node.OrderedEntries, Node.Ordered]; decide⟩

def repeatedProject : Project := ⟨Path.ofString "/p"⟩

theorem allReadable_repeated : repeatedProject.AllReadable repeatedStore :=
  allReadable_of_isReadable rfl (by decide +kernel)

/-- The folders that a look-up goes over. -/
def repeatedFolders : List Location := [["a", "c", "a"], ["a"], ["b"], ["b", "x", "b"]]

theorem searched_repeated_iff :
    repeatedProject.Searched repeatedStore loc ↔ loc ∈ repeatedFolders := by
  have hpaths : (cardFolders repeatedProject.cardRoot (.folder repeatedCards)).map Prod.fst =
      repeatedFolders.map repeatedProject.cardRoot.below := by decide +kernel
  rw [searched_iff_mem rfl, hpaths, List.mem_map_of_injective fun _ _ => Path.below_inj]

theorem firstBy_repeated {place : Path → Path} (hloc : loc ∈ repeatedFolders)
    (hname : (repeatedProject.cardRoot.below loc).name = key)
    (hfirst : ∀ other ∈ repeatedFolders, (repeatedProject.cardRoot.below other).name = key →
      other ≠ loc → (place (repeatedProject.cardRoot.below loc)).segments <
        (place (repeatedProject.cardRoot.below other)).segments) :
    FirstBy place repeatedProject repeatedStore key loc :=
  ⟨⟨searched_repeated_iff.mpr hloc, hname⟩, fun other hother =>
    hfirst other (searched_repeated_iff.mp hother.1) hother.2⟩

/-- The second folder of this key lies below an entry behind the file, so the first one is found. -/
theorem found_in_first_file_behind :
    repeatedProject.AllReadable repeatedStore ∧
      repeatedProject.FirstFolder repeatedStore "b" ["b"] ∧
      repeatedProject.FolderOf repeatedStore "b" ["b", "x", "b"] ∧
      ∃ found tree, repeatedProject.findCards ["a", "b"] repeatedStore = .ok found ∧
        found.lookup "b" = some tree ∧ tree.card.path = Path.ofString "/p/cardroot/b" := by
  have hb : repeatedProject.FirstFolder repeatedStore "b" ["b"] :=
    firstBy_repeated (by decide) (by decide) (by decide)
  have hinside : repeatedProject.FolderOf repeatedStore "b" ["b", "x", "b"] :=
    ⟨searched_repeated_iff.mpr (by decide), by decide⟩
  obtain ⟨found, tree, loc, hfound, hlookup, hpath, -, first, hfirst, hiff⟩ :=
    @found_in_first_file repeatedProject repeatedStore "b" ["a", "b"] allReadable_repeated
      (by decide) (by decide) ⟨["b"], hb.folder⟩
  cases hfirst.unique hb
  have hloc : loc = ["b"] := by
    refine hiff.mpr fun n rest hother => ?_
    obtain ⟨rfl, -⟩ : n = "x" ∧ rest = ["b"] := by
      simpa [repeatedFolders] using searched_repeated_iff.mp hother.1
    decide
  refine ⟨allReadable_repeated, hb, hinside, found, tree, hfound, hlookup, ?_⟩
  rw [hpath, hloc]
  decide

/-- The second folder of this key lies below an entry before the file, so it is found in place of
the first one. -/
theorem found_inside_first_folder :
    repeatedProject.AllReadable repeatedStore ∧
      repeatedProject.FirstFolder repeatedStore "a" ["a"] ∧
      ∃ found tree, repeatedProject.findCards ["a"] repeatedStore = .ok found ∧
        found.lookup "a" = some tree ∧ tree.card.path = Path.ofString "/p/cardroot/a/c/a" ∧
        tree.card.path ≠ repeatedProject.cardRoot.below ["a"] := by
  have ha : repeatedProject.FirstFolder repeatedStore "a" ["a"] :=
    firstBy_repeated (by decide) (by decide) (by decide)
  have hfile : repeatedProject.FirstFile repeatedStore "a" ["a", "c", "a"] :=
    firstBy_repeated (by decide) (by decide) (by decide)
  have hkey : "a" ∈ ["a"] := by decide
  obtain ⟨found, tree, loc, hfound, hlookup, hpath, hloc⟩ :=
    allReadable_repeated.exists_firstFile hkey (by decide) ⟨["a"], ha.folder⟩
  cases hloc.unique hfile
  refine ⟨allReadable_repeated, ha, found, tree, hfound, hlookup, ?_, ?_⟩
  · rw [hpath]
    decide
  · rw [hpath]
    decide

end CardLogic.Project
