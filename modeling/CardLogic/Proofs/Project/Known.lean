import CardLogic.Proofs.Project.Lookup

/-!
Which keys a project knows, in any store.

Nothing is asked of the store: keys may be repeated and files of fields may lie anywhere.  A
card that is listed or found lies in one of the folders a look-up goes over, and the name of
this folder is its key (`searched_of_mem_cards`, `searched_of_found`).  So if a look-up finds
nothing for a key, then no card of that key comes along with another one
(`Lacks.ne_of_searched`), and a look-up that comes to its end finds every key that is known
(`Knows.exists_lookup`).
-/

namespace CardLogic

theorem FileTree.entry?_eq_some {t : FileTree} {p : Path} {d : Node}
    (h : t.entry? p = .ok (some d)) : ∃ loc, t.resolve p = .ok loc ∧ t.find loc = some d := by
  unfold entry? at h
  cases hr : t.resolve p with
  | error f => rw [hr] at h; cases f <;> exact absurd h (by simp)
  | ok loc => rw [hr] at h; exact ⟨loc, rfl, Except.ok.inj h⟩

namespace Project

open Entries

/-- The project has a card of this key: it is listed, or a look-up finds it. -/
def Knows (p : Project) (t : FileTree) (key : String) : Prop :=
  (∃ cards, p.cards t = .ok cards ∧ key ∈ cards.map Card.key) ∨
    ∃ tree, p.findCard? key t = .ok (some tree)

/-- No card of this key is listed, and a look-up finds none. -/
structure Lacks (p : Project) (t : FileTree) (key : String) : Prop where
  listed : ∀ cards, p.cards t = .ok cards → key ∉ cards.map Card.key
  found : p.findCard? key t = .ok none

/-- Every card that a project gives has a key of some kind, be it listed or looked for. -/
structure AllKeys (p : Project) (P : String → Prop) (t : FileTree) : Prop where
  listed : ∀ cards, p.cards t = .ok cards → ∀ card ∈ cards, P card.key
  found : ∀ keys found, p.findCards keys t = .ok found →
    ∀ x ∈ found, ∀ card ∈ x.2.cards, P card.key

variable {p : Project} {t : FileTree} {key : String} {keys : List String}
  {found : List (String × CardTree)}

/-! ## Folders -/

/-- What is found for a key was read from the first folder of its name. -/
theorem find?_of_mem_readFound {folders : List (Path × Node)}
    (h : readFound folders keys = .ok found) {x : String × CardTree} (hx : x ∈ found) :
    ∃ path d, folders.find? (fun f => f.1.name = x.1) = some (path, d) ∧
      readCard path d = .ok x.2 := by
  induction keys generalizing found with
  | nil =>
    cases h
    exact absurd hx List.not_mem_nil
  | cons key keys ih =>
    rw [readFound] at h
    cases hfind : folders.find? (fun f => f.1.name = key) with
    | none => rw [hfind] at h; exact ih h hx
    | some f =>
      obtain ⟨path, d⟩ := f
      rw [hfind] at h
      dsimp only at h
      obtain ⟨tree, hread, h⟩ := ok_of_bind h
      obtain ⟨rest, hrest, h⟩ := ok_of_bind h
      cases h
      rcases List.mem_cons.mp hx with rfl | hx
      · exact ⟨path, d, hfind, hread⟩
      · exact ih hrest hx

theorem mem_readFound {folders : List (Path × Node)} (h : readFound folders keys = .ok found)
    {x : String × CardTree} (hx : x ∈ found) :
    ∃ path d, (path, d) ∈ folders ∧ readCard path d = .ok x.2 := by
  obtain ⟨path, d, hfind, hread⟩ := find?_of_mem_readFound h hx
  exact ⟨path, d, List.mem_of_find?_eq_some hfind, hread⟩

/-- A look-up goes over the folder at a location below the folder of all cards. -/
def Searched (p : Project) (t : FileTree) (loc : Location) : Prop :=
  ∃ es, t.entry? p.cardRoot = .ok (some (.folder es)) ∧ shapeAt es (loc ++ [metadataName]) ≠ none

theorem exists_mem_cardFolders {path : Path} {es : Entries} (hes : Node.OrderedEntries es)
    {loc : Location} (h : shapeAt es (loc ++ [metadataName]) ≠ none) :
    ∃ d, (path.below loc, d) ∈ cardFolders path (.folder es) := by
  cases hfind : find es loc with
  | none =>
    refine absurd ?_ h
    unfold shapeAt
    rw [find_append, hfind]
    rfl
  | some d => exact ⟨d, (mem_cardFolders hes).mpr ⟨loc, rfl, hfind, h⟩⟩

/-- The cards at and below a card lie in folders with an entry of the name of a field file. -/
theorem exists_location_of_readCard {path : Path} {es : Entries} (hes : Node.OrderedEntries es)
    {tree : CardTree} (h : readCard path (.folder es) = .ok tree) {card : Card}
    (hcard : card ∈ tree.cards) :
    ∃ loc, card.key = (path.below loc).name ∧ shapeAt es (loc ++ [metadataName]) ≠ none := by
  obtain ⟨content, fields, children, hcontent, -, hchildren, rfl⟩ := readCard_eq_ok.mp h
  rw [CardTree.cards] at hcard
  rcases List.mem_cons.mp hcard with rfl | hcard
  · refine ⟨[], by rw [Path.below_nil], ?_⟩
    rw [List.nil_append, shapeAt_singleton, hcontent]
    simp
  · obtain ⟨loc, hloc⟩ := (mem_listing_readEach (ordered_childEntries hes) hchildren).mp hcard
    obtain ⟨inner, hinner⟩ := hloc.reached.holdsFields
    refine ⟨childrenFolder :: loc, by rw [Path.below_cons, hloc.key], ?_⟩
    rw [shapeAt_childEntries es (by simp)] at hinner
    rw [List.cons_append, hinner]
    simp

theorem searched_of_mem_cards {cs : List Card} (h : p.cards t = .ok cs) {card : Card}
    (hcard : card ∈ cs) : ∃ loc, p.Searched t loc ∧ card.key = (p.cardRoot.below loc).name := by
  unfold cards trees at h
  cases hentry : t.entry? p.cardRoot with
  | error e => rw [hentry] at h; exact absurd h (by simp [Except.map])
  | ok o =>
    rw [hentry] at h
    rcases o with _ | c | es
    · cases h
      exact absurd hcard (by simp [CardTree.listing])
    · cases h
      exact absurd hcard (by simp [CardTree.listing])
    · obtain ⟨loc₀, -, hfind⟩ := FileTree.entry?_eq_some hentry
      cases hts : readEach p.cardRoot es with
      | error e => simp only [readLevel, hts] at h; exact absurd h (by simp [Except.map])
      | ok ts =>
        simp only [readLevel, hts] at h
        cases h
        have hes : Node.OrderedEntries es := ordered_of_find t.ordered hfind
        obtain ⟨loc, hloc⟩ := (mem_listing_readEach hes hts).mp hcard
        obtain ⟨content, hcontent⟩ := hloc.reached.holdsFields
        exact ⟨loc, ⟨es, hentry, by rw [hcontent]; simp⟩, hloc.key⟩

/-- What a look-up read if it looked for anything and there is a folder of all cards. -/
theorem ok_of_findCards (h : p.findCards keys t = .ok found) :
    found = [] ∨ ∃ d, t.entry? p.cardRoot = .ok (some d) ∧
      readFound (cardFolders p.cardRoot d) (wanted keys) = .ok found := by
  unfold findCards at h
  by_cases hwanted : wanted keys = []
  · rw [if_pos hwanted] at h
    exact Or.inl (Except.ok.inj h).symm
  · rw [if_neg hwanted] at h
    cases hentry : t.entry? p.cardRoot with
    | error e => rw [hentry] at h; exact absurd h (by simp)
    | ok o =>
      rw [hentry] at h
      cases o with
      | none => exact Or.inl (Except.ok.inj h).symm
      | some d => exact Or.inr ⟨d, rfl, h⟩

theorem searched_of_found (h : p.findCards keys t = .ok found) {x : String × CardTree}
    (hx : x ∈ found) {card : Card} (hcard : card ∈ x.2.cards) :
    ∃ loc, p.Searched t loc ∧ card.key = (p.cardRoot.below loc).name := by
  rcases ok_of_findCards h with rfl | ⟨d, hentry, hread⟩
  · exact absurd hx (by simp)
  obtain ⟨path, d', hmem, hcardRead⟩ := mem_readFound hread hx
  rcases d with c | es
  · exact absurd hmem (by simp [cardFolders])
  obtain ⟨loc₀, -, hroot⟩ := FileTree.entry?_eq_some hentry
  have hes : Node.OrderedEntries es := ordered_of_find t.ordered hroot
  obtain ⟨loc, rfl, hfind, -⟩ := (mem_cardFolders hes).mp hmem
  rcases d' with c | sub
  · exact absurd hcardRead (by simp [readCard])
  obtain ⟨rest, hkey, hindex⟩ :=
    exists_location_of_readCard (ordered_of_find hes hfind) hcardRead hcard
  refine ⟨loc ++ rest, ⟨es, hentry, ?_⟩, by rw [hkey, Path.below_append]⟩
  rw [List.append_assoc, shapeAt_append hfind]
  exact hindex

/-! ## Keys -/

theorem find?_cardFolders_of_searched {loc : Location} {d : Node} (h : p.Searched t loc)
    (hentry : t.entry? p.cardRoot = .ok (some d)) :
    (cardFolders p.cardRoot d).find? (fun f => f.1.name = (p.cardRoot.below loc).name) ≠ none := by
  obtain ⟨es, hentry', hindex⟩ := h
  cases hentry.symm.trans hentry'
  obtain ⟨loc₀, -, hroot⟩ := FileTree.entry?_eq_some hentry
  have hes : Node.OrderedEntries es := ordered_of_find t.ordered hroot
  obtain ⟨d', hmem⟩ : ∃ d', (p.cardRoot.below loc, d') ∈ cardFolders p.cardRoot (.folder es) :=
    exists_mem_cardFolders hes hindex
  intro hnone
  have hno := List.find?_eq_none.mp hnone _ hmem
  simp at hno

/-- A look-up for a key that some folder has for its name finds it, if it comes to its end. -/
theorem exists_lookup_of_find? {d : Node} (hentry : t.entry? p.cardRoot = .ok (some d))
    (hfind : (cardFolders p.cardRoot d).find? (fun f => f.1.name = key) ≠ none) (hne : key ≠ "")
    (hkey : key ∈ keys) (hfound : p.findCards keys t = .ok found) :
    ∃ tree, found.lookup key = some tree := by
  have hwanted : key ∈ wanted keys := mem_wanted.mpr ⟨hkey, hne⟩
  unfold findCards at hfound
  rw [if_neg (List.ne_nil_of_mem hwanted), hentry] at hfound
  obtain ⟨⟨path, d'⟩, hfirst⟩ := Option.ne_none_iff_exists'.mp hfind
  obtain ⟨tree, -, hlookup⟩ := (lookup_readFound hfound).1 path d' hwanted hfirst
  exact ⟨tree, hlookup⟩

theorem ok_of_findCard? {o : Option CardTree} (h : p.findCard? key t = .ok o) :
    ∃ found, p.findCards [key] t = .ok found ∧ found.lookup key = o := by
  unfold findCard? at h
  cases hfound : p.findCards [key] t with
  | error e => rw [hfound] at h; exact absurd h (by simp [Except.map])
  | ok found => rw [hfound] at h; exact ⟨found, rfl, Except.ok.inj h⟩

/-- Every key that is known is found by a look-up that comes to its end. -/
theorem Knows.exists_lookup (h : p.Knows t key) (hne : key ≠ "") (hkey : key ∈ keys)
    (hfound : p.findCards keys t = .ok found) : ∃ tree, found.lookup key = some tree := by
  rcases h with ⟨cards, hcards, hmem⟩ | ⟨tree, htree⟩
  · obtain ⟨card, hcard, rfl⟩ := List.mem_map.mp hmem
    obtain ⟨loc, hloc, hname⟩ := searched_of_mem_cards hcards hcard
    obtain ⟨es, hentry, -⟩ := id hloc
    refine exists_lookup_of_find? hentry ?_ hne hkey hfound
    rw [hname]
    exact find?_cardFolders_of_searched hloc hentry
  · obtain ⟨found', hfound', hlookup⟩ := ok_of_findCard? htree
    rcases ok_of_findCards hfound' with rfl | ⟨d, hentry, hread⟩
    · exact absurd hlookup (by simp)
    · refine exists_lookup_of_find? hentry (fun hnone => ?_) hne hkey hfound
      rw [(lookup_readFound hread).2 hnone] at hlookup
      exact absurd hlookup (by simp)

/-- No folder that a look-up goes over is that of a card of a key that is not there. -/
theorem Lacks.ne_of_searched (h : p.Lacks t key) (hne : key ≠ "") {loc : Location}
    (hloc : p.Searched t loc) : (p.cardRoot.below loc).name ≠ key := by
  rintro rfl
  obtain ⟨es, hentry, -⟩ := id hloc
  obtain ⟨found, hfound, hnone⟩ := ok_of_findCard? h.found
  obtain ⟨tree, hlookup⟩ := exists_lookup_of_find? hentry
    (find?_cardFolders_of_searched hloc hentry) hne List.mem_cons_self hfound
  rw [hnone] at hlookup
  exact absurd hlookup (by simp)

/-- A look-up goes over folders that are entries of the tree. -/
theorem shapeAt_of_searched {loc : Location} (h : p.Searched t loc) :
    ∃ above, t.shapeAt (above ++ [(p.cardRoot.below loc).name]) ≠ none := by
  obtain ⟨es, hentry, hindex⟩ := h
  obtain ⟨root, hr, hfind⟩ := FileTree.entry?_eq_some hentry
  obtain ⟨above, -, -, rfl⟩ := FileTree.FolderAt.of_resolve_child (by decide) hr
  have hthere : ∀ rest, rest <+: loc → t.shapeAt (above ++ [Card.rootFolder] ++ rest) ≠ none := by
    intro rest hrest hnone
    obtain ⟨more, rfl⟩ := hrest
    have hbelow := FileTree.shapeAt_of_above_eq_none hnone (more ++ [metadataName])
    rw [List.append_assoc, FileTree.shapeAt_append hfind, ← List.append_assoc] at hbelow
    exact hindex hbelow
  rcases List.eq_nil_or_concat loc with rfl | ⟨rest, n, rfl⟩
  · have htop := hthere [] List.prefix_rfl
    rw [List.append_nil] at htop
    rw [Path.below_nil]
    unfold cardRoot
    rw [Path.name_child]
    exact ⟨above, htop⟩
  · rw [List.concat_eq_append] at hthere ⊢
    have hlast := hthere _ List.prefix_rfl
    rw [← List.append_assoc] at hlast
    rw [Path.name_below_concat]
    exact ⟨_, hlast⟩

theorem mem_names_of_searched {loc : Location} (h : p.Searched t loc) :
    (p.cardRoot.below loc).name ∈ Entries.names t.entries := by
  obtain ⟨above, hthere⟩ := shapeAt_of_searched h
  exact Entries.mem_names hthere

/-- The keys are names of entries of the tree. -/
theorem allKeys_of_shapeAt {P : String → Prop}
    (h : ∀ loc n, t.shapeAt (loc ++ [n]) ≠ none → P n) : p.AllKeys P t := by
  have hsearched : ∀ loc, p.Searched t loc → P (p.cardRoot.below loc).name := by
    intro loc hloc
    obtain ⟨above, hthere⟩ := shapeAt_of_searched hloc
    exact h above _ hthere
  refine ⟨fun cards hcards card hcard => ?_, fun keys found hfound x hx card hcard => ?_⟩
  · obtain ⟨loc, hloc, hkey⟩ := searched_of_mem_cards hcards hcard
    rw [hkey]
    exact hsearched loc hloc
  · obtain ⟨loc, hloc, hkey⟩ := searched_of_found hfound hx hcard
    rw [hkey]
    exact hsearched loc hloc

theorem AllKeys.of_findCard? {P : String → Prop} (h : p.AllKeys P t) {tree : CardTree}
    (hfound : p.findCard? key t = .ok (some tree)) : ∀ card ∈ tree.cards, P card.key := by
  obtain ⟨found, hfound, hlookup⟩ := ok_of_findCard? hfound
  obtain ⟨before, behind, rfl, -⟩ := List.lookup_eq_some_iff.mp hlookup
  exact h.found _ _ hfound (key, tree) (by simp)

theorem allKeys_of_names {P : String → Prop} (h : ∀ n ∈ Entries.names t.entries, P n) :
    p.AllKeys P t :=
  allKeys_of_shapeAt fun _ n hn => h n (Entries.mem_names hn)

end Project

end CardLogic
