import CardLogic.Proofs.Project.Agreement

/-!
What a look-up finds, as a slice of the listing.

Suppose that every entry of the name of a file of fields is one, that its fields can be read and
that the listing reaches its folder, and that no two cards have one key.  Then the listing and
every look-up come to their end.  The cards come in the order of their paths, the tree that is
found for the key of a card is the part of the listing that begins with this card and goes on
with all cards below it, a look-up for several keys gives for each key that is known what is found
for it alone, and nothing is found for any other key (`slices_of_listing`).
-/

namespace CardLogic.Project

open Entries

/-- A store whose files of fields are those of the cards that are listed, each with a key of its
own. -/
structure Tidy (p : Project) (t : FileTree) : Prop where
  names : t.LegalNames
  readable : p.AllReadable t
  reached : ∀ es, t.entry? p.cardRoot = .ok (some (.folder es)) →
    ∀ loc, shapeAt es (loc ++ [metadataName]) ≠ none → Reached (shapeAt es) loc
  keys : ∀ cards, p.cards t = .ok cards → (cards.map Card.key).Nodup

/-- The tree of a card is a part of the listing without gaps: the card, and then those whose
folders lie below its folder. -/
structure Slice (cards : List Card) (card : Card) (tree : CardTree) : Prop where
  card_eq : tree.card = card
  segment : ∃ before behind, cards = before ++ tree.cards ++ behind
  below : ∃ below, tree.cards = card :: below ∧
    ∀ other, other ∈ below ↔ other ∈ cards ∧ ∃ n loc, other.path = card.path.below (n :: loc)

/-- What a look-up for some keys gives: for each key that a card has what is found for it
alone, and no more. -/
structure FindsEach (p : Project) (t : FileTree) (cards : List Card) (keys : List String)
    (found : List (String × CardTree)) : Prop where
  once : (found.map Prod.fst).Nodup
  known : ∀ key, key ∈ found.map Prod.fst ↔ key ∈ keys ∧ key ∈ cards.map Card.key
  alone : ∀ x ∈ found, p.findCard? x.1 t = .ok (some x.2)

variable {p : Project} {t : FileTree} {cards : List Card} {card : Card} {tree : CardTree}
  {o : Option Node}

/-! ## Look-ups for several keys -/

theorem nodup_eraseDups (keys : List String) : keys.eraseDups.Nodup := by
  match keys with
  | [] => exact List.nodup_nil
  | key :: keys =>
    rw [List.eraseDups_cons, List.nodup_cons, List.mem_eraseDups, List.mem_filter]
    exact ⟨by simp, nodup_eraseDups _⟩
termination_by keys.length
decreasing_by exact Nat.lt_succ_of_le (List.length_filter_le _ keys)

theorem nodup_wanted (keys : List String) : (wanted keys).Nodup :=
  (List.mergeSort_perm _ _).nodup_iff.mpr (nodup_eraseDups _)

/-- The keys that something is found for are those that some folder has for its name. -/
theorem map_fst_readFound {folders : List (Path × Node)} {keys : List String}
    {found : List (String × CardTree)} (h : readFound folders keys = .ok found) :
    found.map Prod.fst =
      keys.filter fun key => (folders.find? fun f => f.1.name = key).isSome := by
  induction keys generalizing found with
  | nil =>
    cases h
    rfl
  | cons key keys ih =>
    rw [readFound] at h
    cases hfind : folders.find? (fun f => f.1.name = key) with
    | none =>
      rw [hfind] at h
      rw [List.filter_cons_of_neg (by simp [hfind])]
      exact ih h
    | some f =>
      obtain ⟨path, d⟩ := f
      rw [hfind] at h
      dsimp only at h
      obtain ⟨tree, -, h⟩ := ok_of_bind h
      obtain ⟨rest, hrest, h⟩ := ok_of_bind h
      cases h
      rw [List.filter_cons_of_pos (by simp [hfind]), List.map_cons, ih hrest]

/-- Reading comes to its end if the folders of the keys can be read. -/
theorem readFound_ok {folders : List (Path × Node)} {keys : List String}
    (h : ∀ key ∈ keys, ∀ path d, folders.find? (fun f => f.1.name = key) = some (path, d) →
      ∃ tree, readCard path d = .ok tree) : ∃ found, readFound folders keys = .ok found := by
  induction keys with
  | nil => exact ⟨[], rfl⟩
  | cons key keys ih =>
    obtain ⟨rest, hrest⟩ := ih fun k hk => h k (List.mem_cons_of_mem key hk)
    cases hfind : folders.find? (fun f => f.1.name = key) with
    | none => exact ⟨rest, by rw [readFound, hfind]; exact hrest⟩
    | some f =>
      obtain ⟨path, d⟩ := f
      obtain ⟨tree, hread⟩ := h key List.mem_cons_self path d hfind
      exact ⟨(key, tree) :: rest, by simp only [readFound, hfind, hread, hrest]; rfl⟩

/-! ## A tidy store -/

namespace Tidy

/-- Every folder that a look-up goes over is that of a card which is listed. -/
theorem exists_card_of_searched (h : p.Tidy t) (hcards : p.cards t = .ok cards) {loc : Location}
    (hloc : p.Searched t loc) :
    ∃ card ∈ cards, card.path = p.cardRoot.below loc ∧ card.key = (p.cardRoot.below loc).name := by
  obtain ⟨es, hentry, hindex⟩ := hloc
  obtain ⟨_, -, hroot⟩ := FileTree.entry?_eq_some hentry
  have hes : Node.OrderedEntries es := ordered_of_find t.ordered hroot
  obtain ⟨ts, hts, rfl⟩ := trees_of_cards hcards
  unfold trees at hts
  rw [hentry] at hts
  have hread : readEach p.cardRoot es = .ok ts := hts
  obtain ⟨tree, htree⟩ := readCard_of_reached hes hread (h.reached es hentry loc hindex)
  obtain ⟨sub, -, hreadTree⟩ := htree.read
  obtain ⟨content, fields, children, -, -, -, rfl⟩ := readCard_eq_ok.mp hreadTree
  refine ⟨⟨_, _, some fields⟩, ((htree.mem_iff_isBelow hes hread _).mp ?_).1, rfl, rfl⟩
  rw [CardTree.cards]
  exact List.mem_cons_self

theorem eq_of_key (h : p.Tidy t) (hcards : p.cards t = .ok cards) (hcard : card ∈ cards)
    {other : Card} (hother : other ∈ cards) (hkey : card.key = other.key) : card = other :=
  List.inj_on_of_nodup_map (h.keys cards hcards) hcard hother hkey

theorem hasFolder_iff (h : p.Tidy t) (hcards : p.cards t = .ok cards) {key : String} :
    p.HasFolder t key ↔ key ∈ cards.map Card.key := by
  refine ⟨fun hfolder => ?_, hasFolder_of_mem_cards hcards⟩
  obtain ⟨loc, hloc, hname⟩ := hfolder
  obtain ⟨card, hcard, -, hkey⟩ := h.exists_card_of_searched hcards hloc
  exact List.mem_map.mpr ⟨card, hcard, hkey.trans hname⟩

/-- With a card there is a folder of the project, and no two folders that a look-up goes over have
one name. -/
theorem exists_foundOnce (h : p.Tidy t) (hcards : p.cards t = .ok cards) (hcard : card ∈ cards) :
    ∃ home, t.FolderAt p.base home ∧ FoundOnce p home t := by
  obtain ⟨home, hbase⟩ := exists_folderAt_of_mem_cards hcards hcard
  obtain ⟨ts, hts, rfl⟩ := trees_of_cards hcards
  have hne : ts ≠ [] := by
    rintro rfl
    exact absurd hcard List.not_mem_nil
  obtain ⟨es, hentry, -, -, hshapes⟩ := root_of_trees hbase hts hne
  refine ⟨home, hbase, fun loc loc' hindex hindex' hname => ?_⟩
  rw [← hshapes] at hindex hindex'
  obtain ⟨one, hone, hpath, hkey⟩ := h.exists_card_of_searched hcards ⟨es, hentry, hindex⟩
  obtain ⟨two, htwo, hpath', hkey'⟩ := h.exists_card_of_searched hcards ⟨es, hentry, hindex'⟩
  cases h.eq_of_key hcards hone htwo (hkey.trans (hname.trans hkey'.symm))
  exact Path.below_inj (hpath.symm.trans hpath')

/-- The tree of a card is its slice of the listing. -/
theorem slice_of_treeOf (h : p.Tidy t) (hcards : p.cards t = .ok cards) (hcard : card ∈ cards)
    (htree : TreeOf cards card tree) : Slice cards card tree := by
  obtain ⟨root, children⟩ := tree
  have hroot : root ∈ (CardTree.node root children).cards := by
    rw [CardTree.cards]
    exact List.mem_cons_self
  have hsame : root = card :=
    h.eq_of_key hcards ((htree.mem_cards root).mp hroot).1 hcard htree.key
  subst hsame
  have hmem := htree.mem_cards
  have hbefore : ∀ other ∈ CardTree.listing children, Before root other := by
    have hpart := (pairwise_cards hcards).sublist htree.isPart.sublist
    rw [CardTree.cards] at hpart
    exact (List.pairwise_cons.mp hpart).1
  obtain ⟨before, behind, hcut⟩ := htree.isPart
  refine ⟨rfl, ⟨before, behind, hcut.symm⟩, CardTree.listing children, by rw [CardTree.cards],
    fun other => ?_⟩
  rw [CardTree.cards] at hmem
  constructor
  · intro hother
    obtain ⟨hlisted, loc, hpath⟩ := (hmem other).mp (List.mem_cons_of_mem root hother)
    refine ⟨hlisted, ?_⟩
    cases loc with
    | nil =>
      have hlt : root.path.segments < other.path.segments := hbefore other hother
      rw [hpath, Path.below_nil] at hlt
      exact absurd hlt (List.lt_irrefl _)
    | cons n loc => exact ⟨n, loc, hpath⟩
  · intro hbelow
    obtain ⟨hlisted, n, loc, hpath⟩ := hbelow
    rcases List.mem_cons.mp ((hmem other).mpr ⟨hlisted, n :: loc, hpath⟩) with rfl | hother
    · have hnil := Path.below_inj ((Path.below_nil other.path).trans hpath)
      exact absurd hnil (List.cons_ne_nil n loc).symm
    · exact hother

theorem findCard?_of_mem (h : p.Tidy t) (hcards : p.cards t = .ok cards) (hcard : card ∈ cards) :
    ∃ tree, p.findCard? card.key t = .ok (some tree) ∧ Slice cards card tree := by
  obtain ⟨home, hbase, honce⟩ := h.exists_foundOnce hcards hcard
  have hne := (legalName_of_mem_cards h.names hcards hcard).ne_empty
  obtain ⟨tree, hfound, htree⟩ := findCard?_of_mem_cards honce hbase hcards hcard hne
  exact ⟨tree, hfound, h.slice_of_treeOf hcards hcard htree⟩

theorem findCard?_of_not_mem (h : p.Tidy t) (hentry : t.entry? p.cardRoot = .ok o)
    (hcards : p.cards t = .ok cards) {key : String} (hkey : key ∉ cards.map Card.key) :
    p.findCard? key t = .ok none := by
  by_cases hne : key = ""
  · subst hne
    unfold findCard? findCards
    rw [if_pos (List.eq_nil_iff_forall_not_mem.mpr fun k hk => ?_)]
    · rfl
    · obtain ⟨hmem, hne⟩ := mem_wanted.mp hk
      exact hne (List.mem_singleton.mp hmem)
  · rw [h.readable.findCard?_eq_none_iff hentry hne, h.hasFolder_iff hcards]
    exact hkey

/-- The first folder of a name, if there is one, is that of a card with this key. -/
theorem exists_card_of_find? (h : p.Tidy t) (hcards : p.cards t = .ok cards) {d d' : Node}
    (hentry : t.entry? p.cardRoot = .ok (some d)) {key : String} {path : Path}
    (hfind : (cardFolders p.cardRoot d).find? (fun f => f.1.name = key) = some (path, d')) :
    ∃ card ∈ cards, card.key = key := by
  have hmem := List.mem_of_find?_eq_some hfind
  have hname : path.name = key := by simpa using List.find?_some hfind
  cases d with
  | file c => exact absurd hmem (by simp [cardFolders])
  | folder es =>
    obtain ⟨_, -, hroot⟩ := FileTree.entry?_eq_some hentry
    obtain ⟨loc, rfl, -, hindex⟩ := (mem_cardFolders (ordered_of_find t.ordered hroot)).mp hmem
    obtain ⟨card, hcard, -, hkey⟩ := h.exists_card_of_searched hcards ⟨es, hentry, hindex⟩
    exact ⟨card, hcard, hkey.trans hname⟩

theorem find?_isSome_iff (h : p.Tidy t) (hcards : p.cards t = .ok cards) {d : Node}
    (hentry : t.entry? p.cardRoot = .ok (some d)) (key : String) :
    ((cardFolders p.cardRoot d).find? fun f => f.1.name = key).isSome = true ↔
      key ∈ cards.map Card.key := by
  constructor
  · intro hsome
    obtain ⟨⟨path, d'⟩, hfind⟩ := Option.isSome_iff_exists.mp hsome
    exact List.mem_map.mpr (h.exists_card_of_find? hcards hentry hfind)
  · intro hkey
    obtain ⟨loc, hloc, rfl⟩ := (h.hasFolder_iff hcards).mpr hkey
    exact Option.isSome_iff_ne_none.mpr (find?_cardFolders_of_searched hloc hentry)

/-- A look-up for several keys comes to its end. -/
theorem exists_findsEach (h : p.Tidy t) (hentry : t.entry? p.cardRoot = .ok o)
    (hcards : p.cards t = .ok cards) (keys : List String) :
    ∃ found, p.findCards keys t = .ok found ∧ FindsEach p t cards keys found := by
  cases o with
  | none =>
    have hno : ∀ key, key ∉ cards.map Card.key := by
      intro key hkey
      obtain ⟨_, ⟨es, hes, -⟩, -⟩ := (h.hasFolder_iff hcards).mpr hkey
      exact absurd (hentry.symm.trans hes) (by simp)
    refine ⟨[], ?_, List.nodup_nil, fun key => ?_, fun x hx => absurd hx List.not_mem_nil⟩
    · unfold findCards
      rw [hentry]
      split <;> rfl
    · exact ⟨fun hmem => absurd hmem List.not_mem_nil, fun hmem => absurd hmem.2 (hno key)⟩
  | some d =>
    have hreads : p.findCards keys t = readFound (cardFolders p.cardRoot d) (wanted keys) := by
      unfold findCards
      rw [hentry]
      by_cases hwanted : wanted keys = []
      · rw [if_pos hwanted, hwanted]
        rfl
      · rw [if_neg hwanted]
    obtain ⟨found, hfound⟩ : ∃ found,
        readFound (cardFolders p.cardRoot d) (wanted keys) = .ok found :=
      readFound_ok fun _ _ _ _ hfind =>
        h.readable.readCard_of_mem_cardFolders hentry (List.mem_of_find?_eq_some hfind)
    have hkeys := map_fst_readFound hfound
    refine ⟨found, hreads.trans hfound, ?_, fun key => ?_, fun x hx => ?_⟩
    · rw [hkeys]
      exact (nodup_wanted keys).filter _
    · rw [hkeys, List.mem_filter, h.find?_isSome_iff hcards hentry, mem_wanted]
      refine and_congr_left fun hkey => and_iff_left ?_
      obtain ⟨card, hcard, rfl⟩ := List.mem_map.mp hkey
      exact (legalName_of_mem_cards h.names hcards hcard).ne_empty
    · have hwanted : x.1 ∈ wanted keys := by
        have hmem : x.1 ∈ found.map Prod.fst := List.mem_map_of_mem hx
        rw [hkeys] at hmem
        exact (List.mem_filter.mp hmem).1
      obtain ⟨path, d', hfind, hread⟩ := find?_of_mem_readFound hfound hx
      exact findCard?_of_find? hentry (mem_wanted.mp hwanted).2 hfind hread

end Tidy

/-- A regular store is tidy. -/
theorem Regular.tidy {home : Location} (h : Regular p home cards t) : p.Tidy t := by
  have hcardAt : ∀ es, t.entry? p.cardRoot = .ok (some (.folder es)) → ∀ loc,
      shapeAt es (loc ++ [metadataName]) ≠ none →
        ∃ card, CardAt p.cardRoot (shapeAt es) loc card := by
    intro es hentry loc hindex
    rw [entry?_cardRoot h.base] at hentry
    by_cases hlong : FileTree.pathLimit < p.cardRoot.toString.utf8ByteSize
    · rw [if_pos hlong] at hentry
      exact absurd hentry (by simp)
    · rw [if_neg hlong] at hentry
      rw [shapeAt_root (Except.ok.inj hentry)] at hindex ⊢
      obtain ⟨-, card, hcard, hpath⟩ := h.fields loc hindex
      obtain ⟨loc', hloc'⟩ := (mem_cards h.base h.readCards).mp hcard
      cases Path.below_inj (hloc'.path.symm.trans hpath)
      exact ⟨card, hloc'⟩
  refine ⟨h.names, fun es hentry loc hindex => ?_, fun es hentry loc hindex => ?_,
    fun cards' hcards' => ?_⟩
  · obtain ⟨card, hcard⟩ := hcardAt es hentry loc hindex
    obtain ⟨content, fields, hcontent, hfields, -⟩ := hcard.metadata
    exact ⟨content, fields, hcontent, hfields⟩
  · obtain ⟨card, hcard⟩ := hcardAt es hentry loc hindex
    exact hcard.reached
  · cases h.readCards.symm.trans hcards'
    exact h.keys

/-! ## The slices -/

/-- The listing of a tidy store is in the order of paths, what is found for the key of a card is
the card's slice of it, several keys are looked up as each alone, and for a key that no card has
nothing is found. -/
theorem slices_of_listing (h : p.Tidy t) (hentry : t.entry? p.cardRoot = .ok o) :
    ∃ cards, p.cards t = .ok cards ∧ cards.Pairwise Before ∧
      (∀ card ∈ cards, ∃ tree, p.findCard? card.key t = .ok (some tree) ∧ Slice cards card tree) ∧
      (∀ keys, ∃ found, p.findCards keys t = .ok found ∧ FindsEach p t cards keys found) ∧
      ∀ key, key ∉ cards.map Card.key → p.findCard? key t = .ok none := by
  obtain ⟨cards, hcards⟩ := h.readable.exists_cards hentry
  exact ⟨cards, hcards, pairwise_cards hcards, fun card hcard => h.findCard?_of_mem hcards hcard,
    h.exists_findsEach hentry hcards, fun key => h.findCard?_of_not_mem hentry hcards⟩

/-- A card with one below it, and a second card whose folder's name goes on from the first's. -/
def nestedStore : FileTree :=
  ⟨[("p", .folder [("cardroot", .folder
      [("a", .folder [("c", .folder [("z", .folder [("index.json", .file (bytesOf "{}"))])]),
        ("index.json", .file (bytesOf "{}"))]),
        ("a!", .folder [("index.json", .file (bytesOf "{}"))])])])],
    by simp only [Node.OrderedEntries, Node.Ordered]; decide⟩

def nestedProject : Project := ⟨Path.ofString "/p"⟩

theorem exists_nestedCards : ∃ cards, nestedProject.cards nestedStore = .ok cards ∧
    cards.map Card.key = ["a", "z", "a!"] := by
  have hkeys : (nestedProject.cards nestedStore).toOption.map (List.map Card.key) =
      some ["a", "z", "a!"] := by decide +kernel
  cases hcards : nestedProject.cards nestedStore with
  | error e => rw [hcards] at hkeys; exact absurd hkeys (by simp [Except.toOption])
  | ok cards => rw [hcards] at hkeys; exact ⟨cards, rfl, Option.some.inj hkeys⟩

theorem tidy_nestedStore : nestedProject.Tidy nestedStore := by
  obtain ⟨cards, hcards, -⟩ := exists_nestedCards
  have hcheck : nestedProject.isRegular ["p"] nestedStore = true := by decide +kernel
  exact (regular_of_isRegular hcheck hcards).tidy

/-- The first card is found with the one below it and without the second, although the text of
the second's path comes before that of the one below. -/
theorem slices_of_nested : nestedProject.Tidy nestedStore ∧
    ∃ cards, nestedProject.cards nestedStore = .ok cards ∧
      cards.map Card.key = ["a", "z", "a!"] ∧ cards.Pairwise Before ∧
      (∃ card tree, card ∈ cards ∧ card.key = "a" ∧
        nestedProject.findCard? "a" nestedStore = .ok (some tree) ∧ Slice cards card tree) ∧
      (∃ found, nestedProject.findCards ["z", "x", "", "a", "z"] nestedStore = .ok found ∧
        FindsEach nestedProject nestedStore cards ["z", "x", "", "a", "z"] found) ∧
      nestedProject.findCard? "x" nestedStore = .ok none := by
  obtain ⟨cards, hcards, hbefore, hslice, heach, hnone⟩ :=
    @slices_of_listing nestedProject nestedStore _ tidy_nestedStore rfl
  obtain ⟨cards', hcards', hkeys⟩ := exists_nestedCards
  cases hcards.symm.trans hcards'
  obtain ⟨card, hcard, hkey⟩ := List.mem_map.mp (show "a" ∈ cards.map Card.key by simp [hkeys])
  obtain ⟨tree, hfound, htree⟩ := hslice card hcard
  refine ⟨tidy_nestedStore, cards, hcards, hkeys, hbefore, ⟨card, tree, hcard, hkey, ?_, htree⟩,
    heach _, hnone "x" (by simp [hkeys])⟩
  rw [← hkey]
  exact hfound

end CardLogic.Project
