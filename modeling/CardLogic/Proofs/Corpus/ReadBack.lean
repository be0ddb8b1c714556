import CardLogic.Proofs.Corpus.BrokenOff
import CardLogic.Proofs.Corpus.Calls

/-!
The rows of a corpus, read back.

A whole generation writes one row for each card, and a row is read back as it was written just
if the key in it stays in one line (`Rewritable.readRows_iff`).  Where all of them do, the later
calls for a card that is found meet the rows they look for: writing the card anew adds a row just
for those of its cards that were not listed (`Rewritable.cardtree_generate_iff`), and taking it out
takes the rows of its cards and no others (`Rewritable.cardtree_removeCards`).  `rows_read_back` is
the whole of it, `row_in_two_lines` a key for which it fails.
-/

namespace CardLogic.Corpus

open FileTree ProgramFile

/-- The rows of these cards stand, and each of the files can be written again. -/
structure Rewritable (c : Corpus) (cards : List Card) (t : FileTree) : Prop where
  names : t.LegalNames
  folder : FolderAt t c.cardsFolder (cardsAt c.home)
  writable : ∀ card ∈ cards, card.isWritable = true
  cardRoom : ∀ card ∈ cards, HasRoom c.tag t (c.cardFile card) (cardSlot c.home card.key)
  rowsRoom : ∀ rows,
    HasRoom c.tag t (ProgramFile.cardtree c.folder rows) (sharedSlot c.home cardtreeName)
  rows : t.shapeAt (sharedSlot c.home cardtreeName).target =
    some (.file (bytesOf (rowsText (rowsOf cards))))

/-- What later calls for a card do to the file of the rows of these cards, when they find this
tree for it. -/
structure RowsKept (c : Corpus) (cards : List Card) (tree found : CardTree) (t : FileTree) :
    Prop where
  /-- The card and those below it are written anew. -/
  generate : ∀ w paths w', w.tree = t → c.generate (some tree) w = .ok paths w' →
    (w'.tree.shapeAt c.cardtreePath.location = t.shapeAt c.cardtreePath.location ↔
      ∀ card ∈ found.cards, card.key ∈ cards.map Card.key)
  /-- The card and those below it are taken out. -/
  remove : ∀ w keys w', w.tree = t → c.removeCards tree w = .ok keys w' →
    keys = (cards.filter fun card => card.key ∈ found.cards.map Card.key).map Card.key ∧
      w'.tree.shapeAt c.cardtreePath.location = some (.file (bytesOf (rowsText
        (rowsOf (cards.filter fun card => card.key ∉ found.cards.map Card.key)))))
  /-- Both come to their end, if what is found for a listed key and is not the listed card has a
  text. -/
  ends : (∀ card ∈ found.cards, card.key ∈ cards.map Card.key) → ∀ w, w.tree = t →
    ((∀ card ∈ found.cards, card ∉ cards → card.Storable) →
        ∃ paths w', c.generate (some tree) w = .ok paths w') ∧
      ∃ keys w', c.removeCards tree w = .ok keys w'

variable {c : Corpus} {home : Location} {cards removed : List Card} {tree found : CardTree}
  {rules : List RuleFile} {t t₁ t' : FileTree} {w w' : Workspace}

/-! ## Rows of cards -/

theorem otherRows_rowsOf : otherRows removed (rowsOf cards) =
    rowsOf (cards.filter fun card => card.key ∉ removed.map Card.key) := by
  have hsame : ∀ card : Card, cardRow card.key ∉ removed.map (fun other => cardRow other.key) ↔
      card.key ∉ removed.map Card.key :=
    fun card => not_congr cardRow_mem_rowsOf_iff
  unfold otherRows rowsOf
  rw [List.filter_map]
  congr 1
  apply List.filter_congr
  intro card _
  exact decide_eq_decide.mpr (hsame card)

theorem keysOfRows_rowsOf : keysOfRows removed (rowsOf cards) =
    (cards.filter fun card => card.key ∈ removed.map Card.key).map Card.key := by
  -- The first card of a row has the one key that is in the row.
  have hkey : ∀ card : Card,
      (removed.find? fun other => cardRow other.key = cardRow card.key).map Card.key =
        if card.key ∈ removed.map Card.key then some card.key else none := by
    intro card
    cases hfind : removed.find? fun other => cardRow other.key = cardRow card.key with
    | none =>
      have hno := List.find?_eq_none.mp hfind
      rw [if_neg]
      · rfl
      · intro hmem
        obtain ⟨other, hother, hsame⟩ := List.mem_map.mp hmem
        exact hno other hother (by simp [hsame])
    | some other =>
      have hsame : other.key = card.key := cardRow_inj (by simpa using List.find?_some hfind)
      rw [← hsame, if_pos (List.mem_map_of_mem (List.mem_of_find?_eq_some hfind))]
      rfl
  unfold keysOfRows rowsOf
  induction cards with
  | nil => rfl
  | cons card cards ih =>
    rw [List.map_cons, List.filterMap_cons, hkey, ih]
    by_cases hmem : card.key ∈ removed.map Card.key
    · rw [if_pos hmem, List.filter_cons_of_pos (by simpa using hmem), List.map_cons]
    · rw [if_neg hmem, List.filter_cons_of_neg (by simpa using hmem)]

/-! ## After a whole generation -/

theorem Whole.rewritable (h : c.Whole home cards rules t t₁ t') (htag : IsTag c.tag)
    (hparsed : c.project.base.Parsed) (hnames : t.LegalNames)
    (hkeys : (cards.map Card.key).Nodup) : c.Rewritable cards t' := by
  have hlegal : ∀ card ∈ cards, LegalName card.key :=
    fun _ hcard => Project.legalName_of_mem_cards hnames h.readCards hcard
  have hhome : home = c.home := (folderAt_base h.folder).location_eq.symm
  subst hhome
  have hroom : ∀ x ∈ c.batch c.home cards (c.sharedFiles (rowsOf cards) rules),
      HasRoom c.tag t' x.1 x.2 :=
    fun x hx => (h.room x hx).of_folders fun loc => (h.folder_iff loc).mp
  have hcardtree := cardtree_mem_filesOf c c.home cards (rowsOf cards) rules
  exact ⟨(h.written htag hlegal hkeys).onlyProgram.names (h.legalNames hparsed hnames),
    h.folder.of_kept h.kept, fun card => Project.isWritable_of_mem_cards h.readCards,
    fun card hcard => hroom _ (card_mem_filesOf hcard),
    fun rows => (hroom _ hcardtree).of_path rfl (Text.isWhole_ofString _),
    ((h.placed htag hkeys hlegal).stands hcardtree).2⟩

namespace Rewritable

theorem resolve_cardtreePath (h : c.Rewritable cards t) :
    t.resolve c.cardtreePath = .ok (sharedSlot c.home cardtreeName).target :=
  (hasSlot_cardtree (folderAt_folder h.folder) []).resolve_target (h.rowsRoom []).fits
    (h.rowsRoom []).short

theorem isThere (h : c.Rewritable cards t) : c.isThere t = .ok true :=
  isThere_of_file (folderAt_folder h.folder) h.resolve_cardtreePath h.rows

/-- Where the file of a card goes that has the key of one of the cards, there is no folder. -/
theorem exists_leaf (h : c.Rewritable cards t) {card : Card} (hkey : LegalName card.key)
    (hlisted : card.key ∈ cards.map Card.key) :
    ∃ loc, t.resolve (c.cardPath card.key) = .ok loc ∧ t.shapeAt loc ≠ some .folder := by
  obtain ⟨listed, hmem, hsame⟩ := List.mem_map.mp hlisted
  have hroom := h.cardRoom listed hmem
  rw [← hsame] at hkey ⊢
  exact ⟨_, (hasSlot_cardFile h.folder hkey).resolve_target hroom.fits hroom.short, hroom.target⟩

/-- A card with a text and the key of one of the cards can be written. -/
theorem room_of_text (h : c.Rewritable cards t) {card : Card}
    (hlisted : card.key ∈ cards.map Card.key) (htext : card ∉ cards → card.Storable) :
    card.isWritable = true ∧ HasRoom c.tag t (c.cardFile card) (cardSlot c.home card.key) := by
  by_cases hcard : card ∈ cards
  · exact ⟨h.writable card hcard, h.cardRoom card hcard⟩
  · obtain ⟨hwritable, hwhole⟩ := isWritable_of_storable (htext hcard)
    obtain ⟨listed, hmem, hsame⟩ := List.mem_map.mp hlisted
    have hroom := h.cardRoom listed hmem
    rw [hsame] at hroom
    exact ⟨hwritable, hroom.of_path (congrArg c.cardPath hsame.symm) hwhole⟩

/-- The rows are read as they were written just if every key stays in one line. -/
theorem readRows_iff (h : c.Rewritable cards t) :
    readRows t c.cardtreePath = .ok (rowsOf cards) ↔ ∀ card ∈ cards, OneLineKey card.key := by
  constructor
  · intro hread card hcard
    apply isRow_cardRow_iff.mp
    apply isRow_of_readRows hread
    exact cardRow_mem_rowsOf_iff.mpr (List.mem_map_of_mem hcard)
  · intro hkeys
    exact readRows_of_rowsText h.resolve_cardtreePath h.rows fun _ => isRow_rowsOf hkeys

section Later

variable (h : c.Rewritable cards t) (hkeys : ∀ card ∈ cards, OneLineKey card.key)
  (hfound : c.project.findCard? tree.card.key t = .ok (some found))
include h hkeys hfound

/-! ## A card that is written anew -/

/-- The file of rows is as it was just if all cards at and below the card were listed. -/
theorem cardtree_generate_iff (htag : IsTag c.tag) {paths : List Path} (ht : w.tree = t)
    (hgenerate : c.generate (some tree) w = .ok paths w') :
    w'.tree.shapeAt c.cardtreePath.location = t.shapeAt c.cardtreePath.location ↔
      ∀ card ∈ found.cards, card.key ∈ cards.map Card.key := by
  subst ht
  obtain ⟨affected, others, t₁, ⟨hcards, hmakes, -, hothers, hwrite⟩, -⟩ :=
    steps_of_generate hgenerate
  cases (subtree_of_findCard? hfound).symm.trans hcards
  cases (Disk.makeFolders_of_folder h.folder).symm.trans hmakes
  obtain ⟨file, hfile, rfl⟩ := otherFiles_some.mp hothers
  obtain ⟨rows, hread, rfl⟩ := extendedCardtree_ok hfile
  cases (h.readRows_iff.mpr hkeys).symm.trans hread
  have hstands := cardtree_of_writeEach_append htag (isShared_cardtree c _) (by simp)
    List.mem_cons_self hwrite
  rw [location_cardtreePath, hstands, h.rows, Option.some.injEq, Shape.file.injEq,
    bytesOf_mergeRows_iff, List.forall_mem_map]
  exact forall₂_congr fun card _ => cardRow_mem_rowsOf_iff

theorem exists_generate (hlisted : ∀ card ∈ found.cards, card.key ∈ cards.map Card.key)
    (htexts : ∀ card ∈ found.cards, card ∉ cards → card.Storable) (ht : w.tree = t) :
    ∃ paths w', c.generate (some tree) w = .ok paths w' := by
  subst ht
  have hlegal : ∀ card ∈ found.cards, LegalName card.key :=
    (Project.allKeys_of_shapeAt h.names).of_findCard? hfound
  have hrows : ∀ key ∈ found.cards.map Card.key, cardRow key ∈ rowsOf cards := by
    intro key hkey
    obtain ⟨card, hcard, rfl⟩ := List.mem_map.mp hkey
    exact cardRow_mem_rowsOf_iff.mpr (hlisted card hcard)
  -- No row is missing, so the file of rows is written as it is.
  have hfile : c.extendedCardtree found.cards w.tree =
      .ok (ProgramFile.cardtree c.folder (rowsOf cards)) := by
    rw [extendedCardtree_of_readRows (h.readRows_iff.mpr hkeys), mergeRows_eq_self hrows]
  have hslots := hasSlot_batch h.folder hlegal (isShared_cardtree c (rowsOf cards))
  have hroom : ∀ x ∈ c.batch c.home found.cards [ProgramFile.cardtree c.folder (rowsOf cards)],
      HasRoom c.tag w.tree x.1 x.2 := by
    intro x hx
    rcases mem_batch.mp hx with ⟨card, hcard, rfl⟩ | ⟨f, hf, rfl⟩
    · exact (h.room_of_text (hlisted card hcard) (htexts card hcard)).2
    · rw [List.mem_singleton.mp hf]
      show HasRoom _ _ _ (sharedSlot c.home (c.folder.child cardtreeName).name)
      rw [Path.name_child]
      exact h.rowsRoom _
  obtain ⟨t', hwrite, -⟩ := writeEach_of_room hslots hroom
  rw [map_fst_batch] at hwrite
  have hsteps : c.Steps (some tree) found.cards
      [ProgramFile.cardtree c.folder (rowsOf cards)] w.tree w.tree t' :=
    ⟨subtree_of_findCard? hfound, Disk.makeFolders_of_folder h.folder,
      fun card hcard => (h.room_of_text (hlisted card hcard) (htexts card hcard)).1,
      otherFiles_some.mpr ⟨_, hfile, rfl⟩, hwrite⟩
  obtain ⟨w', hgenerate, -⟩ := generate_of_steps hsteps
  exact ⟨_, w', hgenerate⟩

/-! ## A card that is taken out -/

/-- The files of the cards at and below the card go, and the rows are still read as before. -/
theorem rows_of_filesGone (hgone : c.FilesGone found.cards t t₁) :
    readRows t₁ c.cardtreePath = .ok (rowsOf cards) := by
  have hslash : ∀ card ∈ found.cards, '/' ∉ card.key.toList :=
    fun card hcard => ((Project.allKeys_of_shapeAt h.names).of_findCard? hfound card hcard).no_slash
  have hsame := hgone.cardtree_eq hslash
  rw [location_cardtreePath, h.rows] at hsame
  exact readRows_of_rowsText (hgone.resolve_iff.mpr h.resolve_cardtreePath) hsame
    fun _ => isRow_rowsOf hkeys

/-- The rows of the cards at and below the card go, and no others. -/
theorem cardtree_removeCards {keys : List String} (ht : w.tree = t)
    (hremove : c.removeCards tree w = .ok keys w') :
    keys = (cards.filter fun card => card.key ∈ found.cards.map Card.key).map Card.key ∧
      w'.tree.shapeAt c.cardtreePath.location = some (.file (bytesOf (rowsText
        (rowsOf (cards.filter fun card => card.key ∉ found.cards.map Card.key))))) := by
  subst ht
  obtain ⟨affected, rows, w₁, ⟨-, haffected, hfiles, hread, hwrite⟩, rfl⟩ :=
    steps_of_removeCards h.isThere hremove
  cases (subtree_of_findCard? hfound).symm.trans haffected
  have hgone := filesGone_of_removeFiles hfiles
  cases (h.rows_of_filesGone hkeys hfound hgone).symm.trans hread
  have hfolder := h.folder.of_kept fun loc => (hgone.folder_iff loc).mpr
  have hstands := stands_of_write (hasSlot_cardtree (folderAt_folder hfolder) _).leads hwrite
  rw [location_cardtreePath, hstands.2]
  refine ⟨keysOfRows_rowsOf, ?_⟩
  rw [← otherRows_rowsOf]
  rfl

theorem exists_removeCards (hlisted : ∀ card ∈ found.cards, card.key ∈ cards.map Card.key)
    (ht : w.tree = t) : ∃ keys w', c.removeCards tree w = .ok keys w' := by
  subst ht
  have hlegal : ∀ card ∈ found.cards, LegalName card.key :=
    (Project.allKeys_of_shapeAt h.names).of_findCard? hfound
  obtain ⟨w₁, hfiles⟩ := removeFiles_of_ne_folder fun card hcard =>
    h.exists_leaf (hlegal card hcard) (hlisted card hcard)
  have hgone := filesGone_of_removeFiles hfiles
  have hfolder := h.folder.of_kept fun loc => (hgone.folder_iff loc).mpr
  obtain ⟨t', hwrite, -⟩ :=
    write_of_room
      (hasSlot_cardtree (folderAt_folder hfolder) (otherRows found.cards (rowsOf cards)))
      ((h.rowsRoom _).of_folders fun loc => (hgone.folder_iff loc).mp)
  obtain ⟨w', hremove, -⟩ := removeCards_of_steps ⟨h.isThere, subtree_of_findCard? hfound, hfiles,
    h.rows_of_filesGone hkeys hfound hgone, hwrite⟩
  exact ⟨_, w', hremove⟩

theorem rowsKept (htag : IsTag c.tag) : c.RowsKept cards tree found t where
  generate _ _ _ ht hgenerate := h.cardtree_generate_iff hkeys hfound htag ht hgenerate
  remove _ _ _ ht hremove := h.cardtree_removeCards hkeys hfound ht hremove
  ends hlisted _ ht :=
    ⟨fun htexts => h.exists_generate hkeys hfound hlisted htexts ht,
      h.exists_removeCards hkeys hfound hlisted ht⟩

end Later

end Rewritable

/-! ## All of it -/

/-- After a whole generation the rows of the cards are read back just if all keys stay in one
line.  Then a later call for a card keeps the rows, or takes out those of the cards that are found
at and below it.  Where no two folders of the store have one name, what is found for a card that
is listed is the part of the listing at and below the card. -/
theorem rows_read_back {paths : List Path} (htag : IsTag c.tag) (hparsed : c.project.base.Parsed)
    (hnames : w.tree.LegalNames) (hcards : c.project.cards w.tree = .ok cards)
    (hkeys : (cards.map Card.key).Nodup) (h : c.generate none w = .ok paths w') :
    (readRows w'.tree c.cardtreePath = .ok (rowsOf cards) ↔
        ∀ card ∈ cards, OneLineKey card.key) ∧
      ((∀ card ∈ cards, OneLineKey card.key) →
        ∀ tree found, c.project.findCard? tree.card.key w'.tree = .ok (some found) →
          c.RowsKept cards tree found w'.tree) ∧
      (c.project.FoundOnce c.home w.tree → ∀ card ∈ cards, ∃ found,
        c.project.findCard? card.key w'.tree = .ok (some found) ∧
          Project.TreeOf cards card found) := by
  obtain ⟨home, cards', rules, t₁, hwhole, -⟩ := whole_of_generate hnames h
  cases hcards.symm.trans hwhole.readCards
  have hrewritable := hwhole.rewritable htag hparsed hnames hkeys
  refine ⟨hrewritable.readRows_iff, fun honeLine tree found hfound => ?_,
    fun honce card hcard => ?_⟩
  · exact hrewritable.rowsKept honeLine hfound htag
  · obtain ⟨home', hbase⟩ := Project.exists_folderAt_of_mem_cards hcards hcard
    have hcards' := hwhole.cards_eq ⟨home', hbase⟩
    have hbase' := folderAt_base hrewritable.folder
    -- The project's path leads to one place, before and after.
    cases hbase.location_eq
    cases (folderAt_base hwhole.folder).location_eq
    have honce' := honce.congr (hwhole.cardShapes_eq hbase)
    have hne := (Project.legalName_of_mem_cards hnames hcards hcard).ne_empty
    exact Project.findCard?_of_mem_cards honce' hbase' hcards' hcard hne

theorem rows_read_back_small : ∃ cards found, cards.map Card.key = ["a", "b", "d"] ∧
    readRows smallGenerated smallCorpus.cardtreePath = .ok (rowsOf cards) ∧
    smallCorpus.project.findCard? "b" smallGenerated = .ok (some found) ∧
    smallCorpus.RowsKept cards found found smallGenerated := by
  obtain ⟨cards, hreg, -, hkeys⟩ := exists_smallCards
  have htag : IsTag smallCorpus.tag := by decide
  have hparsed : smallCorpus.project.base.Parsed := Path.parsed_ofString "/p"
  obtain ⟨w, w', paths, htree, hgenerate, htree'⟩ := does_smallGenerated
  rw [← htree] at hreg
  obtain ⟨hread, hkept, hfound⟩ :=
    rows_read_back htag hparsed hreg.names hreg.readCards hreg.keys hgenerate
  rw [htree'] at hread hkept hfound
  have hmem : "b" ∈ cards.map Card.key := by
    rw [hkeys]
    decide
  obtain ⟨card, hcard, hkey⟩ := List.mem_map.mp hmem
  obtain ⟨found, hfoundCard, htreeOf⟩ := hfound hreg.foundOnce card hcard
  refine ⟨cards, found, hkeys, hread.mpr hreg.oneLine, hkey ▸ hfoundCard, ?_⟩
  refine hkept hreg.oneLine found found ?_
  rw [htreeOf.key]
  exact hfoundCard

/-! ## A key that breaks its row -/

/-- A store with one card, in a folder with a line feed in its name. -/
def brokenStore : FileTree :=
  ⟨[("p", .folder [("cardroot", .folder
      [("a\nb", .folder [("index.json", .file (bytesOf "{}"))])])])],
    by simp only [Node.OrderedEntries, Node.Ordered]; decide⟩

def brokenCard : CardTree := .node ⟨"a\nb", Path.ofString "/p/cardroot/a\nb", none⟩ []

def brokenGenerated : FileTree := treeAfter (smallCorpus.generate none) brokenStore

/-- The row of the card is read back as two, so writing the card anew adds it once more, and
taking the card out does not take it away. -/
theorem row_in_two_lines :
    brokenStore.LegalNames ∧ smallListing brokenStore =
        some [("a\nb", smallCorpus.project.cardRoot.below ["a\nb"])] ∧
      Does (smallCorpus.generate none) brokenStore brokenGenerated ∧
      readRows brokenGenerated smallCorpus.cardtreePath = .ok ["#include \"cards/a", "b.lp\"."] ∧
      (∃ t, Does (smallCorpus.generate (some brokenCard)) brokenGenerated t ∧
        t.shapeAt smallCorpus.cardtreePath.location =
          some (.file (bytesOf (rowsText (["a\nb", "a\nb"].map cardRow))))) ∧
      ∃ t, Does (smallCorpus.removeCards brokenCard) brokenGenerated t ∧
        t.shapeAt smallCorpus.cardtreePath.location =
          some (.file (bytesOf (rowsText (["a\nb"].map cardRow)))) := by
  have hread : (readRows brokenGenerated smallCorpus.cardtreePath).toOption =
      some ["#include \"cards/a", "b.lp\"."] := by decide +kernel
  refine ⟨legalNames_of_names (by decide +kernel), by decide +kernel,
    does_treeAfter (by decide +kernel), ?_,
    ⟨_, does_treeAfter (by decide +kernel), by decide +kernel⟩,
    ⟨_, does_treeAfter (by decide +kernel), by decide +kernel⟩⟩
  cases hrows : readRows brokenGenerated smallCorpus.cardtreePath with
  | error f => rw [hrows] at hread; exact absurd hread (by simp [Except.toOption])
  | ok rows => rw [hrows] at hread; exact congrArg Except.ok (Option.some.inj hread)

end CardLogic.Corpus
