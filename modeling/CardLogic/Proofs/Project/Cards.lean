import CardLogic.Proofs.Card.Encoding
import CardLogic.Proofs.Json.Writable
import CardLogic.Proofs.Project.Reached

/-!
The cards of a project.

They are known by the shapes below the folder of all cards (`mem_cards`), so a change
anywhere else does not touch them (`cards_congr`).  A card that was read has facts
(`isWritable_of_mem_cards`).
-/

namespace CardLogic.Project

open Entries

/-- The shapes below the folder of all cards, for a project's folder at a location. -/
def cardShapes (t : FileTree) (home : Location) (loc : Location) : Option Shape :=
  t.shapeAt (home ++ Card.rootFolder :: loc)

theorem shapeAt_root {t : FileTree} {home : Location} {es : Entries}
    (hfind : t.find (home ++ [Card.rootFolder]) = some (.folder es)) :
    shapeAt es = cardShapes t home := by
  funext loc
  have hassoc : home ++ Card.rootFolder :: loc = home ++ [Card.rootFolder] ++ loc := by simp
  unfold cardShapes
  rw [hassoc, FileTree.shapeAt_append hfind]

theorem legalName_rootFolder : LegalName Card.rootFolder := by
  constructor <;> decide

open FileTree in
theorem entry?_cardRoot {p : Project} {t : FileTree} {home : Location}
    (hbase : FolderAt t p.base home) :
    t.entry? p.cardRoot =
      if pathLimit < p.cardRoot.toString.utf8ByteSize then .error ⟨.nameTooLong, p.cardRoot, none⟩
      else .ok (t.find (home ++ [Card.rootFolder])) := by
  refine entry?_below hbase fun n hn => ?_
  rw [List.mem_singleton.mp hn]
  exact legalName_rootFolder

/-- What is below the folder of all cards is known by the shapes there. -/
theorem entry?_cardRoot_congr {p : Project} {t t' : FileTree} {home : Location}
    (hbase : t.FolderAt p.base home) (hbase' : t'.FolderAt p.base home)
    (h : ∀ loc, cardShapes t' home loc = cardShapes t home loc) :
    t'.entry? p.cardRoot = t.entry? p.cardRoot := by
  have hfind : t'.find (home ++ [Card.rootFolder]) = t.find (home ++ [Card.rootFolder]) := by
    refine FileTree.find_eq_of_shapeAt fun rest => ?_
    rw [List.append_assoc]
    exact h rest
  rw [entry?_cardRoot hbase, entry?_cardRoot hbase', hfind]

theorem trees_congr {p : Project} {t t' : FileTree} {home : Location}
    (hbase : t.FolderAt p.base home) (hbase' : t'.FolderAt p.base home)
    (h : ∀ loc, cardShapes t' home loc = cardShapes t home loc) : p.trees t' = p.trees t := by
  unfold trees
  rw [entry?_cardRoot_congr hbase hbase' h]

theorem cards_congr {p : Project} {t t' : FileTree} {home : Location}
    (hbase : t.FolderAt p.base home) (hbase' : t'.FolderAt p.base home)
    (h : ∀ loc, cardShapes t' home loc = cardShapes t home loc) : p.cards t' = p.cards t := by
  unfold cards
  rw [trees_congr hbase hbase' h]

theorem trees_of_cards {p : Project} {t : FileTree} {cards : List Card}
    (h : p.cards t = .ok cards) : ∃ ts, p.trees t = .ok ts ∧ cards = CardTree.listing ts := by
  unfold Project.cards at h
  cases hts : p.trees t with
  | error e => rw [hts] at h; exact absurd h (by simp [Except.map])
  | ok ts => rw [hts] at h; exact ⟨ts, rfl, (Except.ok.inj h).symm⟩

/-- Where a project's cards come from, if it has any. -/
theorem trees_ok {p : Project} {t : FileTree} {ts : List CardTree} (h : p.trees t = .ok ts) :
    ts = [] ∨ ∃ home es, t.FolderAt p.base home ∧
      t.find (home ++ [Card.rootFolder]) = some (.folder es) ∧ readEach p.cardRoot es = .ok ts := by
  unfold trees FileTree.entry? at h
  cases hr : t.resolve p.cardRoot with
  | error f => rw [hr] at h; cases f <;> cases h <;> exact Or.inl rfl
  | ok loc =>
    obtain ⟨home, hbase, -, rfl⟩ := FileTree.FolderAt.of_resolve_child (by decide) hr
    rw [hr] at h
    dsimp only at h
    cases hfind : t.find (home ++ [Card.rootFolder]) with
    | none => rw [hfind] at h; cases h; exact Or.inl rfl
    | some d =>
      rw [hfind] at h
      cases d with
      | file c => cases h; exact Or.inl rfl
      | folder es => exact Or.inr ⟨home, es, hbase, hfind, h⟩

theorem mem_cards {p : Project} {t : FileTree} {home : Location}
    (hbase : t.FolderAt p.base home) {cs : List Card} (h : p.cards t = .ok cs) {card : Card} :
    card ∈ cs ↔ ∃ loc, CardAt p.cardRoot (cardShapes t home) loc card := by
  obtain ⟨ts, hts, rfl⟩ := trees_of_cards h
  -- Without a folder of cards nothing is reached.
  have hnone : (∀ es, t.find (home ++ [Card.rootFolder]) ≠ some (.folder es)) →
      ¬ ∃ loc, CardAt p.cardRoot (cardShapes t home) loc card := by
    intro hno hbelow
    obtain ⟨loc, hloc⟩ := hbelow
    obtain ⟨content, hcontent⟩ := hloc.reached.holdsFields
    have habove : t.shapeAt (home ++ [Card.rootFolder]) = some .folder := by
      refine FileTree.shapeAt_above (by simp : loc ++ [metadataName] ≠ []) ?_
      have hfile : t.shapeAt (home ++ [Card.rootFolder] ++ (loc ++ [metadataName])) =
          some (.file content) := by
        rw [List.append_assoc]
        exact hcontent
      rw [hfile]
      simp
    obtain ⟨es, hes⟩ := FileTree.shapeAt_eq_folder.mp habove
    exact hno es hes
  unfold trees at hts
  rw [entry?_cardRoot hbase] at hts
  by_cases hlong : FileTree.pathLimit < p.cardRoot.toString.utf8ByteSize
  · rw [if_pos hlong] at hts
    exact absurd hts (by simp)
  · rw [if_neg hlong] at hts
    cases hfind : t.find (home ++ [Card.rootFolder]) with
    | none =>
      rw [hfind] at hts
      cases hts
      refine ⟨fun hmem => absurd hmem (by simp [CardTree.listing]), fun hex => ?_⟩
      exact absurd hex (hnone (by rw [hfind]; simp))
    | some d =>
      rw [hfind] at hts
      cases d with
      | file c =>
        cases hts
        refine ⟨fun hmem => absurd hmem (by simp [CardTree.listing]), fun hex => ?_⟩
        exact absurd hex (hnone (by rw [hfind]; simp))
      | folder es =>
        have hes : Node.OrderedEntries es := Entries.ordered_of_find t.ordered hfind
        rw [← shapeAt_root hfind]
        exact mem_listing_readEach hes hts

/-- What is reached is a folder. -/
theorem Reached.shapeAt_eq {t : FileTree} {home loc : Location}
    (h : Reached (cardShapes t home) loc) : cardShapes t home loc = some .folder := by
  obtain ⟨content, hcontent⟩ := h.holdsFields
  refine FileTree.shapeAt_above (List.cons_ne_nil metadataName []) ?_
  have hassoc : home ++ Card.rootFolder :: loc ++ [metadataName] =
      home ++ Card.rootFolder :: (loc ++ [metadataName]) := by simp
  rw [hassoc]
  unfold cardShapes at hcontent
  rw [hcontent]
  simp

theorem CardAt.legalName {root : Path} {t : FileTree} {home loc : Location} {card : Card}
    (hnames : t.LegalNames) (h : CardAt root (cardShapes t home) loc card) :
    LegalName card.key := by
  rcases List.eq_nil_or_concat loc with hnil | ⟨above, n, hloc⟩
  · exact absurd hnil h.reached.ne_nil
  · rw [List.concat_eq_append] at hloc
    subst hloc
    have hfolder := h.reached.shapeAt_eq
    rw [h.key, Path.name_below_concat]
    refine hnames (home ++ Card.rootFolder :: above) n ?_
    unfold cardShapes at hfolder
    rw [List.append_assoc, List.cons_append, hfolder]
    simp

/-- A project that has a card has a folder. -/
theorem exists_folderAt_of_mem_cards {p : Project} {t : FileTree} {cs : List Card}
    (h : p.cards t = .ok cs) {card : Card} (hcard : card ∈ cs) :
    ∃ home, t.FolderAt p.base home := by
  obtain ⟨ts, hts, rfl⟩ := trees_of_cards h
  rcases trees_ok hts with rfl | ⟨home, -, hbase, -⟩
  · exact absurd hcard (by simp [CardTree.listing])
  · exact ⟨home, hbase⟩

theorem isWritable_of_readFields {path : Path} {content : ByteArray} {fields : Metadata}
    (h : readFields path content = .ok fields) : Value.fieldsAreWritable fields = true := by
  unfold readFields at h
  split at h
  · exact absurd h (by simp)
  · split at h
    · exact absurd h (by simp)
    · exact absurd h (by simp)
    · exact absurd h (by simp)
    · next hread =>
      cases h
      exact Json.isWritable_of_read hread
    · exact absurd h (by simp)

/-- Every card that was read has facts. -/
theorem isWritable_of_mem_cards {p : Project} {t : FileTree} {cs : List Card}
    (h : p.cards t = .ok cs) {card : Card} (hcard : card ∈ cs) : card.isWritable = true := by
  obtain ⟨home, hbase⟩ := exists_folderAt_of_mem_cards h hcard
  obtain ⟨loc, hloc⟩ := (mem_cards hbase h).mp hcard
  obtain ⟨content, fields, -, hfields, hmeta⟩ := hloc.metadata
  unfold Card.isWritable
  rw [hmeta]
  exact isWritable_of_readFields hfields

/-- A card's key is the name of a folder. -/
theorem legalName_of_mem_cards {p : Project} {t : FileTree} (hnames : t.LegalNames)
    {cs : List Card} (h : p.cards t = .ok cs) {card : Card} (hcard : card ∈ cs) :
    LegalName card.key := by
  obtain ⟨home, hbase⟩ := exists_folderAt_of_mem_cards h hcard
  obtain ⟨loc, hloc⟩ := (mem_cards hbase h).mp hcard
  exact hloc.legalName hnames

end CardLogic.Project
