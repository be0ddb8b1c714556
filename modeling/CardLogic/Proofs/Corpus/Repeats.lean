import CardLogic.Proofs.Corpus.Calls

/-!
When the rows of a corpus are all different.

Calls for some cards add a row only where it is missing, so they repeat none
(`nodup_mergeRows`).  A whole generation has one row for each card that is listed, so it repeats the
row of a key that two cards have (`nodup_rowsOf_iff`); the rows of a run are all different if no
whole generation listed a key twice (`ComesTo.nodup_rows`), and need not be otherwise
(`exists_repeated_row`).
-/

namespace CardLogic.Corpus

open FileTree ProgramFile

/-- A call that meets one-line keys only, and lists no key twice if it writes the whole corpus. -/
structure Call.ListsOnce (p : Project) (call : Call) (t : FileTree) : Prop where
  keys : call.Keys p OneLineKey t
  once : call = .generate none → ∀ cards, p.cards t = .ok cards → (cards.map Card.key).Nodup

variable {c : Corpus} {t t₁ t' : FileTree} {cards : List Card} {rows : List String}
  {rules : List RuleFile}

/-! ## The file of rows -/

theorem nodup_of_readRows (h : c.RowsAre List.Nodup t)
    (hread : readRows t c.cardtreePath = .ok rows) : rows.Nodup := by
  rcases h.of_readRows hread with rfl | ⟨lines, hnodup, hsub⟩
  · exact List.nodup_nil
  · exact hnodup.sublist hsub

/-! ## What calls keep -/

theorem RowsAre.nodup_did {call : Call} (h : c.RowsAre List.Nodup t) (htag : IsTag c.tag)
    (hlists : call = .generate none → ∀ cards, c.project.cards t = .ok cards →
      (cards.map Card.key).Nodup)
    (hdid : call.Did c OneLineKey t t') : c.RowsAre List.Nodup t' := by
  cases hdid with
  | nothing same => exact same ▸ h
  | @whole cards rules _ listed keys _ _ written =>
    have hshared := isShared_sharedFiles c (rowsOf cards) rules
    refine rowsAre_of_rowsText
      (cardtree_of_writeEach_append htag hshared ?_ List.mem_cons_self written)
      (fun row hrow => isRow_rowsOf keys hrow) (nodup_rowsOf_iff.mpr (hlists rfl cards listed))
    rw [map_name_sharedFiles]
    decide
  | @merged _ cards rows _ keys _ made read written =>
    have hnodup := nodup_of_readRows (h.of_files fun _ _ => made.file) read
    refine rowsAre_of_rowsText (cardtree_of_writeEach_append htag (isShared_cardtree c _) (by simp)
      List.mem_cons_self written) (fun row hrow => ?_) (nodup_mergeRows hnodup _)
    exact (mem_mergeRows_keys.mp hrow).elim (isRow_of_readRows read) (isRow_rowsOf keys)
  | @taken _ cards rows t₁ keys emptied read written =>
    have hnodup := nodup_of_readRows (h.of_files fun _ _ => emptied.file) read
    have hbatch :
        writeEach c.tag ([] ++ [ProgramFile.cardtree c.folder (otherRows cards rows)]) t₁ =
        ([], t') := by simp [writeEach, written]
    refine rowsAre_of_rowsText (cardtree_of_writeEach_append htag (isShared_cardtree c _) (by simp)
      List.mem_cons_self hbatch) (fun row hrow => ?_) ?_
    · exact isRow_of_readRows read (mem_otherRows.mp hrow).1
    · unfold otherRows
      exact hnodup.sublist List.filter_sublist

/-! ## Runs of calls -/

theorem ComesTo.rowsAre_nodup (h : ComesTo c (Call.ListsOnce c.project) t) :
    c.RowsAre List.Nodup t := by
  induction h with
  | start noProgram => exact rowsAre_of_noProgram _ noProgram
  | elsewhere _ same ih => exact ih.congr same fun _ hnodup => hnodup
  | @call t t' call tag _ htag ok does ih =>
    have hbefore : RowsAre { c with tag := tag } List.Nodup t := ih
    exact hbefore.nodup_did htag ok.once (does.did ok.keys)

/-- Wherever a project's corpus comes to by calls that succeed, no row is repeated, unless a
whole generation listed a key twice. -/
theorem ComesTo.nodup_rows (h : ComesTo c (Call.ListsOnce c.project) t) {content : ByteArray}
    (hfile : t.shapeAt c.cardtreePath.location = some (.file content)) :
    ∃ rows, linesOf? content = some rows ∧ rows.Nodup := by
  rw [location_cardtreePath] at hfile
  exact h.rowsAre_nodup content hfile

/-! ## A run that repeats no row, and one that does -/

theorem nodup_rows_small : ∃ t, ComesTo smallCorpus (Call.ListsOnce smallCorpus.project) t ∧
    t.shapeAt smallCorpus.cardtreePath.location =
      some (.file (bytesOf (rowsText (["a", "b", "d"].map cardRow)))) ∧
    ∃ rows, linesOf? (bytesOf (rowsText (["a", "b", "d"].map cardRow))) = some rows ∧
      rows.Nodup := by
  have hkeys : smallCorpus.project.AllKeys OneLineKey smallStore :=
    Project.allKeys_of_names (by decide +kernel)
  obtain ⟨cards, hreg, -⟩ := exists_smallCards
  have hlists : Call.ListsOnce smallCorpus.project (.generate none) smallStore := by
    refine ⟨⟨by simp [Call.given], hkeys⟩, fun _ cards' hcards' => ?_⟩
    cases hreg.readCards.symm.trans hcards'
    exact hreg.keys
  have hstart : ComesTo smallCorpus (Call.ListsOnce smallCorpus.project) smallStore :=
    .start (by decide +kernel)
  have hgenerate : Call.Does smallCorpus smallStore smallGenerated (.generate none) :=
    does_smallGenerated
  have htag : IsTag smallCorpus.tag := by decide
  have hreached := hstart.call htag hlists hgenerate
  have hfile : smallGenerated.shapeAt smallCorpus.cardtreePath.location =
      some (.file (bytesOf (rowsText (["a", "b", "d"].map cardRow)))) := by decide +kernel
  exact ⟨smallGenerated, hreached, hfile, hreached.nodup_rows hfile⟩

/-- A store with two cards of one key, one of them below another card. -/
def twiceStore : FileTree :=
  ⟨[("p", .folder [("cardroot", .folder
      [("a", .folder [("index.json", .file (bytesOf "{}"))]),
        ("b", .folder [("c", .folder [("a", .folder [("index.json", .file (bytesOf "{}"))])]),
          ("index.json", .file (bytesOf "{}"))])])])],
    by simp only [Node.OrderedEntries, Node.Ordered]; decide⟩

def twiceGenerated : FileTree := treeAfter (smallCorpus.generate none) twiceStore

/-- A whole generation repeats the row of a key that two cards have. -/
theorem exists_repeated_row :
    ComesTo smallCorpus (Call.Keys smallCorpus.project OneLineKey) twiceGenerated ∧
      ∃ content rows,
        twiceGenerated.shapeAt smallCorpus.cardtreePath.location = some (.file content) ∧
        linesOf? content = some rows ∧ rows = ["a", "b", "a"].map cardRow ∧ ¬rows.Nodup := by
  have hkeys : smallCorpus.project.AllKeys OneLineKey twiceStore :=
    Project.allKeys_of_names (by decide +kernel)
  have hstart : ComesTo smallCorpus (Call.Keys smallCorpus.project OneLineKey) twiceStore :=
    .start (by decide +kernel)
  have hgenerate : Call.Does smallCorpus twiceStore twiceGenerated (.generate none) :=
    does_treeAfter (by decide +kernel)
  have htag : IsTag smallCorpus.tag := by decide
  refine ⟨hstart.call htag ⟨by simp [Call.given], hkeys⟩ hgenerate,
    bytesOf (rowsText (["a", "b", "a"].map cardRow)), ["a", "b", "a"].map cardRow,
    by decide +kernel, linesOf?_rowsText fun row hrow => ?_, rfl, by decide⟩
  obtain ⟨key, hkey, rfl⟩ := List.mem_map.mp hrow
  refine isRow_cardRow ?_
  have hone : ∀ key ∈ ["a", "b", "a"], OneLineKey key := by decide
  exact hone key hkey

end CardLogic.Corpus
