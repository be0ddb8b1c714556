import CardLogic.Proofs.Project.Known
import CardLogic.Proofs.Project.Reading

/-!
Where the listing and the look-up agree.

In a store whose files of fields can all be read, both come to their end.  The listing has a card
for each folder that it reaches going down from card to card; the look-up finds a card for each
name that some folder with a file of fields has, wherever the folder lies
(`AllReadable.exists_findCard?`).  So what is listed is found, and the two agree just if every
such folder has the name of a card that is listed (`AllReadable.agree_iff`).  A folder that a
card has besides those of the cards below it breaks this.
-/

namespace CardLogic.Project

open Entries

/-- Every entry of the name of a file of fields is one, and its fields can be read. -/
def AllReadableIn (path : Path) (es : Entries) : Prop :=
  ∀ loc, shapeAt es (loc ++ [metadataName]) ≠ none →
    ∃ content fields, shapeAt es (loc ++ [metadataName]) = some (.file content) ∧
      readFields ((path.below loc).child metadataName) content = .ok fields

/-- The same for everything in the folder of all cards. -/
def AllReadable (p : Project) (t : FileTree) : Prop :=
  ∀ es, t.entry? p.cardRoot = .ok (some (.folder es)) → AllReadableIn p.cardRoot es

namespace AllReadableIn

variable {path : Path} {es : Entries}

theorem below (h : AllReadableIn path es) {loc : Location} {sub : Entries}
    (hsub : find es loc = some (.folder sub)) : AllReadableIn (path.below loc) sub := by
  intro rest hindex
  have hsame : shapeAt sub (rest ++ [metadataName]) =
      shapeAt es (loc ++ rest ++ [metadataName]) := by
    rw [List.append_assoc, shapeAt_append hsub]
  rw [hsame] at hindex ⊢
  rw [← Path.below_append]
  exact h (loc ++ rest) hindex

theorem children (h : AllReadableIn path es) :
    AllReadableIn (path.child childrenFolder) (childEntries es) := by
  intro loc hindex
  have hsame : shapeAt (childEntries es) (loc ++ [metadataName]) =
      shapeAt es (childrenFolder :: loc ++ [metadataName]) :=
    shapeAt_childEntries es (by simp)
  rw [hsame] at hindex ⊢
  rw [← Path.below_cons]
  exact h (childrenFolder :: loc) hindex

theorem readEach_ok (h : AllReadableIn path es) (hes : Node.OrderedEntries es) :
    ∃ ts, readEach path es = .ok ts := by
  refine (readEach_ok_iff hes).mpr fun loc _ e hunreadable => ?_
  obtain ⟨content, hcontent, herror⟩ := hunreadable
  obtain ⟨content', fields, hcontent', hfields⟩ := h loc (by rw [hcontent]; simp)
  cases hcontent.symm.trans hcontent'
  rw [hfields] at herror
  exact absurd herror (by simp)

/-- A folder with a file of fields can be read as a card. -/
theorem readCard_ok (h : AllReadableIn path es) (hes : Node.OrderedEntries es)
    (hindex : shapeAt es [metadataName] ≠ none) :
    ∃ tree, readCard path (.folder es) = .ok tree := by
  obtain ⟨content, fields, hcontent, hfields⟩ := h [] hindex
  rw [Path.below_nil] at hfields
  have hget : get? es metadataName = some (.file content) := by
    rw [List.nil_append, shapeAt_singleton] at hcontent
    cases hd : get? es metadataName with
    | none => rw [hd] at hcontent; exact absurd hcontent (by simp)
    | some d => rw [hd] at hcontent; cases d <;> simp_all [Node.shape]
  obtain ⟨children, hchildren⟩ := h.children.readEach_ok (ordered_childEntries hes)
  exact ⟨_, readCard_eq_ok.mpr ⟨content, fields, children, hget, hfields, hchildren, rfl⟩⟩

end AllReadableIn

/-! ## Both come to their end -/

variable {p : Project} {t : FileTree} {o : Option Node} {key : String} {cards : List Card}

/-- Some folder that a look-up goes over has the key for its name. -/
def HasFolder (p : Project) (t : FileTree) (key : String) : Prop :=
  ∃ loc, p.Searched t loc ∧ (p.cardRoot.below loc).name = key

theorem hasFolder_of_mem_cards (hcards : p.cards t = .ok cards)
    (hmem : key ∈ cards.map Card.key) : p.HasFolder t key := by
  obtain ⟨card, hcard, rfl⟩ := List.mem_map.mp hmem
  obtain ⟨loc, hloc, hkey⟩ := searched_of_mem_cards hcards hcard
  exact ⟨loc, hloc, hkey.symm⟩

/-- All cards that a project gives have keys that are names of such folders. -/
theorem allKeys_hasFolder (p : Project) (t : FileTree) : p.AllKeys (p.HasFolder t) t := by
  refine ⟨fun cards hcards card hcard =>
    hasFolder_of_mem_cards hcards (List.mem_map_of_mem hcard), fun _ _ hfound x hx card hcard => ?_⟩
  obtain ⟨loc, hloc, hkey⟩ := searched_of_found hfound hx hcard
  exact ⟨loc, hloc, hkey.symm⟩

theorem HasFolder.legalName (h : p.HasFolder t key) (hnames : t.LegalNames) : LegalName key := by
  obtain ⟨loc, hloc, rfl⟩ := h
  obtain ⟨above, hthere⟩ := shapeAt_of_searched hloc
  exact hnames above _ hthere

theorem HasFolder.exists_lookup {keys : List String} {found : List (String × CardTree)}
    (h : p.HasFolder t key) (hne : key ≠ "") (hkey : key ∈ keys)
    (hfound : p.findCards keys t = .ok found) : ∃ tree, found.lookup key = some tree := by
  obtain ⟨loc, hloc, rfl⟩ := h
  obtain ⟨es, hentry, -⟩ := id hloc
  exact exists_lookup_of_find? hentry (find?_cardFolders_of_searched hloc hentry) hne hkey hfound

theorem AllReadable.exists_cards (h : p.AllReadable t) (hentry : t.entry? p.cardRoot = .ok o) :
    ∃ cards, p.cards t = .ok cards := by
  unfold Project.cards trees
  rw [hentry]
  rcases o with _ | c | es
  · exact ⟨_, rfl⟩
  · exact ⟨_, rfl⟩
  · obtain ⟨_, -, hfind⟩ := FileTree.entry?_eq_some hentry
    obtain ⟨ts, hts⟩ := (h es hentry).readEach_ok (ordered_of_find t.ordered hfind)
    simp only [readLevel, hts]
    exact ⟨_, rfl⟩

/-- Every folder that a look-up goes over can be read as a card. -/
theorem AllReadable.readCard_of_mem_cardFolders (h : p.AllReadable t) {d sub : Node}
    (hentry : t.entry? p.cardRoot = .ok (some d)) {path : Path}
    (hmem : (path, sub) ∈ cardFolders p.cardRoot d) : ∃ tree, readCard path sub = .ok tree := by
  cases d with
  | file c => exact absurd hmem (by simp [cardFolders])
  | folder es =>
    obtain ⟨_, -, hroot⟩ := FileTree.entry?_eq_some hentry
    have hes : Node.OrderedEntries es := ordered_of_find t.ordered hroot
    obtain ⟨loc, rfl, hd, hindex⟩ := (mem_cardFolders hes).mp hmem
    obtain ⟨inner, hinner⟩ : ∃ inner, find es loc = some (.folder inner) :=
      (FileTree.shapeAt_eq_folder (t := ⟨es, hes⟩)).mp
        (FileTree.shapeAt_above (List.cons_ne_nil metadataName []) hindex)
    cases hd.symm.trans hinner
    rw [shapeAt_append hinner] at hindex
    exact ((h es hentry).below hinner).readCard_ok (ordered_of_find hes hinner) hindex

/-- A look-up finds no card just if there is no folder of the name. -/
theorem AllReadable.exists_findCard? (h : p.AllReadable t) (hentry : t.entry? p.cardRoot = .ok o)
    (hne : key ≠ "") :
    ∃ found, p.findCard? key t = .ok found ∧ (found = none ↔ ¬ p.HasFolder t key) := by
  have hnot : (∀ es, o ≠ some (.folder es)) → ¬ p.HasFolder t key := by
    rintro hno ⟨loc, ⟨es, hes, -⟩, -⟩
    exact hno es (Except.ok.inj (hentry.symm.trans hes))
  unfold findCard? findCards
  rw [wanted_singleton hne, if_neg (by simp), hentry]
  rcases o with _ | c | es
  · exact ⟨none, rfl, fun _ => hnot (by simp), fun _ => rfl⟩
  · exact ⟨none, rfl, fun _ => hnot (by simp), fun _ => rfl⟩
  · obtain ⟨_, -, hroot⟩ := FileTree.entry?_eq_some hentry
    have hes : Node.OrderedEntries es := ordered_of_find t.ordered hroot
    dsimp only
    cases hfind : (cardFolders p.cardRoot (.folder es)).find? (fun f => f.1.name = key) with
    | none =>
      refine ⟨none, by simp only [readFound, hfind]; rfl, fun _ hfolder => ?_, fun _ => rfl⟩
      obtain ⟨loc, hloc, rfl⟩ := hfolder
      exact find?_cardFolders_of_searched hloc hentry hfind
    | some f =>
      obtain ⟨path, d⟩ := f
      have hmem := List.mem_of_find?_eq_some hfind
      obtain ⟨tree, hread⟩ := h.readCard_of_mem_cardFolders hentry hmem
      obtain ⟨loc, rfl, -, hindex⟩ := (mem_cardFolders hes).mp hmem
      have hfolder : p.HasFolder t key :=
        ⟨loc, ⟨es, hentry, hindex⟩, by simpa using List.find?_some hfind⟩
      refine ⟨some tree, ?_, fun hnone => absurd hnone (by simp), fun hno => absurd hfolder hno⟩
      simp only [readFound, hfind, hread]
      exact congrArg Except.ok List.lookup_cons_self

theorem AllReadable.findCard?_eq_none_iff (h : p.AllReadable t)
    (hentry : t.entry? p.cardRoot = .ok o) (hne : key ≠ "") :
    p.findCard? key t = .ok none ↔ ¬ p.HasFolder t key := by
  obtain ⟨found, hfind, hiff⟩ := h.exists_findCard? hentry hne
  rw [← hiff, hfind, Except.ok.injEq]

/-! ## Where they agree -/

/-- The two agree just if every folder that a look-up goes over has the name of a card that is
listed. -/
theorem AllReadable.agree_iff (h : p.AllReadable t) (hentry : t.entry? p.cardRoot = .ok o)
    (hcards : p.cards t = .ok cards) :
    (∀ key, key ≠ "" → (p.findCard? key t = .ok none ↔ key ∉ cards.map Card.key)) ↔
      ∀ key, key ≠ "" → p.HasFolder t key → key ∈ cards.map Card.key := by
  constructor
  · intro hagree key hne hfolder
    by_contra hnot
    exact (h.findCard?_eq_none_iff hentry hne).mp ((hagree key hne).mpr hnot) hfolder
  · intro hlisted key hne
    rw [h.findCard?_eq_none_iff hentry hne, not_iff_not]
    exact ⟨hlisted key hne, hasFolder_of_mem_cards hcards⟩

/-! ## Checking -/

/-- Whether all fields can be read, in the folders that a look-up goes over. -/
def isReadable (f : Path × Node) : Bool :=
  match f.2 with
  | .file _ => false
  | .folder sub =>
    match readMetadata f.1 sub with
    | .ok _ => true
    | .error _ => false

theorem allReadable_of_isReadable {es : Entries}
    (hentry : t.entry? p.cardRoot = .ok (some (.folder es)))
    (h : (cardFolders p.cardRoot (.folder es)).all isReadable = true) : p.AllReadable t := by
  intro es' hes' loc hindex
  cases hentry.symm.trans hes'
  obtain ⟨_, -, hroot⟩ := FileTree.entry?_eq_some hentry
  have hes : Node.OrderedEntries es := ordered_of_find t.ordered hroot
  obtain ⟨d, hd⟩ : ∃ d, (p.cardRoot.below loc, d) ∈ cardFolders p.cardRoot (.folder es) :=
    exists_mem_cardFolders hes hindex
  have hreadable := List.all_eq_true.mp h _ hd
  obtain ⟨loc', hsame, hfind, -⟩ := (mem_cardFolders hes).mp hd
  cases Path.below_inj hsame
  cases d with
  | file c => exact absurd hreadable Bool.false_ne_true
  | folder sub =>
    rw [shapeAt_append hfind, shapeAt_singleton]
    unfold isReadable readMetadata at hreadable
    dsimp only at hreadable
    cases hget : get? sub metadataName with
    | none => rw [hget] at hreadable; exact absurd hreadable Bool.false_ne_true
    | some file =>
      rw [hget] at hreadable
      cases file with
      | folder inner => exact absurd hreadable Bool.false_ne_true
      | file content =>
        dsimp only at hreadable
        cases hfields : readFields ((p.cardRoot.below loc).child metadataName) content with
        | error e => rw [hfields] at hreadable; exact absurd hreadable Bool.false_ne_true
        | ok fields => exact ⟨content, fields, rfl, hfields⟩

end CardLogic.Project
