import CardLogic.Proofs.Corpus.Calls

/-!
Every row of a corpus includes a file that is there.

The rows are kept in one file and the files they include in a folder, and each call edits both
by what the store says at that moment.  What holds of the two together is that a row stands
for a card whose file is there (`RowStands`).  A call keeps it whatever the store and the
caller come up with (`NoDangling.did`): it writes the files of the cards it adds rows for, and it
takes a file away only together with its row.
-/

namespace CardLogic.Corpus

open FileTree ProgramFile

/-- A row that includes the file of a card, and the file is there. -/
def RowStands (c : Corpus) (t : FileTree) (row : String) : Prop :=
  ∃ card : Card, PlainKey card.key ∧ row = cardRow card.key ∧
    card.StandsIn (t.shapeAt (cardSlot c.home card.key).target)

/-- Every line of the file of rows includes a file that is there. -/
def NoDangling (c : Corpus) (t : FileTree) : Prop :=
  c.RowsAre (fun rows => ∀ row ∈ rows, c.RowStands t row) t

variable {c : Corpus} {t t₁ t' : FileTree} {cards : List Card} {others : List ProgramFile}
  {rows : List String} {rules : List RuleFile} {row : String}

theorem RowStands.isRow (h : c.RowStands t row) : IsRow row := by
  obtain ⟨card, hkey, rfl, -⟩ := h
  exact isRow_cardRow hkey.oneLine

/-- Writing files of a corpus leaves a row standing, maybe with another card of its key. -/
theorem RowStands.fills (htag : IsTag c.tag) (h : c.RowStands t row)
    (hwritable : ∀ card ∈ cards, card.isWritable = true)
    (hfills : c.Fills cards others t t') : c.RowStands t' row := by
  obtain ⟨card, hkey, rfl, hfile⟩ := h
  rcases shapeAt_cardSlot htag hfills card.key with
    hsame | ⟨other, hmem, hother, hnew⟩ | ⟨hnone, -⟩
  · exact ⟨card, hkey, rfl, hsame ▸ hfile⟩
  · rw [← hother] at hkey hnew ⊢
    exact ⟨other, hkey, rfl, standsIn_text (hwritable other hmem) hnew⟩
  · obtain ⟨content, hfile⟩ := hfile.exists_file
    exact absurd (hnone.symm.trans hfile) (by simp)

theorem noDangling_of_rowsText
    (hfile : t.shapeAt (sharedSlot c.home cardtreeName).target =
      some (.file (bytesOf (rowsText rows))))
    (hrows : ∀ row ∈ rows, c.RowStands t row) : c.NoDangling t :=
  rowsAre_of_rowsText hfile (fun row hrow => (hrows row hrow).isRow) hrows

/-- Rows that are read stood before if their file is still the one from before. -/
theorem NoDangling.of_readRows (h : c.NoDangling t)
    (hsame : ∀ loc content, t₁.shapeAt loc = some (.file content) →
      t.shapeAt loc = some (.file content))
    (hread : readRows t₁ c.cardtreePath = .ok rows) : ∀ row ∈ rows, c.RowStands t row := by
  rcases (RowsAre.of_files h hsame).of_readRows hread with rfl | ⟨lines, hstand, hsub⟩
  · exact fun row hrow => absurd hrow (by simp)
  · exact fun row hrow => hstand row (hsub.subset hrow)

/-! ## What calls keep -/

theorem noDangling_of_whole (htag : IsTag c.tag) (hkeys : ∀ card ∈ cards, PlainKey card.key)
    (hwritable : ∀ card ∈ cards, card.isWritable = true)
    (h : writeEach c.tag (cards.map c.cardFile ++ c.sharedFiles (rowsOf cards) rules) t =
      ([], t')) :
    c.NoDangling t' := by
  have hslash : ∀ card ∈ cards, '/' ∉ card.key.toList :=
    fun card hcard => (hkeys card hcard).noSlash
  have hshared := isShared_sharedFiles c (rowsOf cards) rules
  refine noDangling_of_rowsText
    (cardtree_of_writeEach htag hslash hshared h ?_ List.mem_cons_self) fun row hrow => ?_
  · rw [map_name_sharedFiles]
    decide
  · obtain ⟨card, hcard, rfl⟩ := List.mem_map.mp hrow
    obtain ⟨other, hother, hkey, hfile⟩ := card_of_writeEach htag hslash hshared h hcard
    rw [← hkey] at hfile ⊢
    exact ⟨other, hkeys other hother, rfl, standsIn_text (hwritable other hother) hfile⟩

theorem NoDangling.merged (h : c.NoDangling t) (htag : IsTag c.tag)
    (hkeys : ∀ card ∈ cards, PlainKey card.key)
    (hwritable : ∀ card ∈ cards, card.isWritable = true)
    (hmade : MadeAlong c.cardsFolder.segments t t₁)
    (hread : readRows t₁ c.cardtreePath = .ok rows)
    (hwrite : writeEach c.tag (cards.map c.cardFile ++
      [ProgramFile.cardtree c.folder (mergeRows rows (cards.map Card.key))]) t₁ = ([], t')) :
    c.NoDangling t' := by
  have hslash : ∀ card ∈ cards, '/' ∉ card.key.toList :=
    fun card hcard => (hkeys card hcard).noSlash
  have hshared := isShared_cardtree c (mergeRows rows (cards.map Card.key))
  have hfills := fills_writeEach hslash hshared t₁
  rw [hwrite] at hfills
  have hstood := h.of_readRows (fun _ _ => hmade.file) hread
  refine noDangling_of_rowsText
    (cardtree_of_writeEach htag hslash hshared hwrite (by simp) List.mem_cons_self)
    fun row hrow => ?_
  rcases mem_mergeRows_keys.mp hrow with hold | hnew
  · have hmade' : c.Fills [] [] t t₁ := .of_madeAlong hmade
    exact ((hstood row hold).fills htag (by simp) hmade').fills htag hwritable hfills
  · obtain ⟨card, hcard, rfl⟩ := List.mem_map.mp hnew
    obtain ⟨other, hother, hsame, hfile⟩ := card_of_writeEach htag hslash hshared hwrite hcard
    rw [← hsame] at hfile ⊢
    exact ⟨other, hkeys other hother, rfl, standsIn_text (hwritable other hother) hfile⟩

theorem NoDangling.taken (h : c.NoDangling t) (htag : IsTag c.tag)
    (hkeys : ∀ card ∈ cards, PlainKey card.key) (hemptied : c.Emptied cards t t₁)
    (hread : readRows t₁ c.cardtreePath = .ok rows)
    (hwrite : (ProgramFile.cardtree c.folder (otherRows cards rows)).write c.tag t₁ = .ok () t') :
    c.NoDangling t' := by
  have hshared := isShared_cardtree c (otherRows cards rows)
  have hbatch : writeEach c.tag (([] : List Card).map c.cardFile ++
      [ProgramFile.cardtree c.folder (otherRows cards rows)]) t₁ = ([], t') := by
    simp [writeEach, hwrite]
  have hfills : c.Fills [] _ t₁ _ := fills_writeEach (by simp) hshared t₁
  rw [hbatch] at hfills
  have hstood := h.of_readRows (fun _ _ => hemptied.file) hread
  refine noDangling_of_rowsText
    (cardtree_of_writeEach htag (by simp) hshared hbatch (by simp) List.mem_cons_self)
    fun row hrow => ?_
  obtain ⟨hrow, hno⟩ := mem_otherRows.mp hrow
  obtain ⟨card, hkey, rfl, hfile⟩ := hstood row hrow
  refine RowStands.fills htag ⟨card, hkey, rfl, ?_⟩ (by simp) hfills
  -- Only files of cards whose rows went are gone.
  by_contra hne
  obtain ⟨⟨other, hother, hwhere⟩, -⟩ := hemptied _ fun hsame => hne (hsame ▸ hfile)
  rw [location_cardPath c (hkeys other hother).noSlash] at hwhere
  exact hno other hother (congrArg cardRow (cardSlot_inj (Slot.target_inj hwhere)))

theorem NoDangling.did {call : Call} (h : c.NoDangling t) (htag : IsTag c.tag)
    (hdid : call.Did c PlainKey t t') : c.NoDangling t' := by
  cases hdid with
  | nothing same => exact same ▸ h
  | whole _ keys writable _ written => exact noDangling_of_whole htag keys writable written
  | merged keys writable made read written => exact h.merged htag keys writable made read written
  | taken keys emptied read written => exact h.taken htag keys emptied read written

theorem NoDangling.congr (h : c.NoDangling t)
    (hsame : ∀ loc, c.folder.location <+: loc → t'.shapeAt loc = t.shapeAt loc) :
    c.NoDangling t' := by
  refine RowsAre.congr h hsame fun rows hstand row hrow => ?_
  obtain ⟨card, hkey, heq, hfile⟩ := hstand row hrow
  have hbelow := @programAt_isPrefix_cardSlot c.home card.key
  rw [← location_folder] at hbelow
  exact ⟨card, hkey, heq, (hsame _ hbelow).symm ▸ hfile⟩

/-! ## Runs of calls -/

theorem ComesTo.noDangling (h : ComesTo c (Call.Keys c.project PlainKey) t) : c.NoDangling t := by
  induction h with
  | start noProgram => exact rowsAre_of_noProgram _ noProgram
  | elsewhere _ same ih => exact ih.congr same
  | @call t t' call tag _ htag ok does ih =>
    have hbefore : NoDangling { c with tag := tag } t := ih
    exact hbefore.did htag (does.did ok)

/-- Wherever a project's corpus comes to by calls that succeed, every line of its file of rows
includes the file of a card, and that file is there and states the card. -/
theorem ComesTo.rows_stand (h : ComesTo c (Call.Keys c.project PlainKey) t) {content : ByteArray}
    (hfile : t.shapeAt c.cardtreePath.location = some (.file content)) :
    ∃ rows, linesOf? content = some rows ∧ ∀ row ∈ rows, ∃ card : Card,
      row = cardRow card.key ∧
        card.StandsIn (t.shapeAt (c.cardPath card.key).location) := by
  rw [location_cardtreePath] at hfile
  obtain ⟨rows, hrows, hstand⟩ := h.noDangling content hfile
  refine ⟨rows, hrows, fun row hrow => ?_⟩
  obtain ⟨card, hkey, heq, hcard⟩ := hstand row hrow
  rw [← location_cardPath c hkey.noSlash] at hcard
  exact ⟨card, heq, hcard⟩

/-! ## A small run -/

/-- A card that the store does not have, with a card below it whose key the store has. -/
def smallGiven : CardTree :=
  .node ⟨"x", Path.ofString "/p/cardroot/x", none⟩
    [.node ⟨"a", Path.ofString "/p/cardroot/x/c/a", none⟩ []]

def smallAdded : FileTree := treeAfter (smallCorpus.addCards [smallGiven]) smallRemoved

/-- The corpus is generated, the second card's folder goes without an event, and then cards are
added that the store does not have. -/
theorem reached_smallAdded :
    ComesTo smallCorpus (Call.Keys smallCorpus.project PlainKey) smallAdded := by
  have htag : IsTag smallCorpus.tag := by decide
  have hkeys : ∀ t : FileTree, (∀ n ∈ Entries.names t.entries, PlainKey n) →
      smallCorpus.project.AllKeys PlainKey t := fun _ => Project.allKeys_of_names
  have hgenerate : Call.Does smallCorpus smallStore smallGenerated (.generate none) :=
    does_smallGenerated
  have hadd : Call.Does smallCorpus smallRemoved smallAdded (.add [smallGiven]) :=
    does_treeAfter (by decide +kernel)
  have hstart : ComesTo smallCorpus (Call.Keys smallCorpus.project PlainKey) smallStore :=
    .start (by decide +kernel)
  have hgenerated := hstart.call htag
    ⟨by simp [Call.given], hkeys _ (by decide +kernel)⟩ hgenerate
  have hgone : ∀ loc, smallCorpus.folder.location <+: loc →
      smallRemoved.shapeAt loc = smallGenerated.shapeAt loc := by
    intro loc hloc
    have hroot : smallGenerated.shapeAt ["p", "cardroot"] = some .folder := by decide +kernel
    refine (shapeAt_remove (n := "b") hroot loc).trans (if_neg fun hbelow => ?_)
    have hfolder : smallCorpus.folder.location = ["p", ".calc"] := by decide +kernel
    rw [hfolder] at hloc
    have heither := List.prefix_or_prefix_of_prefix hloc hbelow
    exact absurd heither (by decide)
  exact (hgenerated.elsewhere hgone).call htag
    ⟨by simp [Call.given, smallGiven, CardTree.cards, CardTree.listing]; decide,
      hkeys _ (by decide +kernel)⟩ hadd

theorem rows_stand_small : ∃ t, ComesTo smallCorpus (Call.Keys smallCorpus.project PlainKey) t ∧
    t.shapeAt smallCorpus.cardtreePath.location =
      some (.file (bytesOf (rowsText (["a", "b", "d", "x"].map cardRow)))) ∧
    ∃ rows, linesOf? (bytesOf (rowsText (["a", "b", "d", "x"].map cardRow))) = some rows ∧
      ∀ row ∈ rows, ∃ card : Card, row = cardRow card.key ∧
        card.StandsIn (t.shapeAt (smallCorpus.cardPath card.key).location) := by
  have hfile : smallAdded.shapeAt smallCorpus.cardtreePath.location =
      some (.file (bytesOf (rowsText (["a", "b", "d", "x"].map cardRow)))) := by decide +kernel
  exact ⟨smallAdded, reached_smallAdded, hfile, reached_smallAdded.rows_stand hfile⟩

end CardLogic.Corpus
