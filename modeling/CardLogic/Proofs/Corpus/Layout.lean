import CardLogic.Corpus.Basic
import CardLogic.Proofs.Card.Encoding
import CardLogic.Proofs.Program.Batch
import CardLogic.Proofs.Project.Cards

/-!
Where the files of a corpus lie.

The files that all cards share lie in the project's program folder, the cards' files in a
folder of their own below it.  The name of every file ends as no temporary name does, and
cards of different keys have different files; so the files of a corpus can be written as
one batch (`apart_batch`).  There is such a batch if every card has a text (`cardFiles_eq_ok`).
-/

namespace CardLogic

/-- A file can hold what states a card. -/
def Card.Storable (card : Card) : Prop := ∃ text, card.encode = .ok text ∧ text.isWhole = true

/-- A file stands that states a card. -/
def Card.StandsIn (card : Card) (sh : Option Shape) : Prop :=
  ∃ text, card.encode = .ok text ∧ text.StandsIn sh

theorem Card.StandsIn.exists_file {card : Card} {sh : Option Shape} (h : card.StandsIn sh) :
    ∃ content, sh = some (.file content) := by
  obtain ⟨text, -, hstands⟩ := h
  exact ⟨_, hstands.2⟩

namespace Corpus

open FileTree ProgramFile

/-- What tells writers apart: the numbers of a process and a thread. -/
def IsTag (tag : String) : Prop := ∀ ch ∈ tag.toList, ch.isDigit = true ∨ ch = '-'

instance (tag : String) : Decidable (IsTag tag) :=
  List.decidableBAll (fun ch : Char => ch.isDigit = true ∨ ch = '-') tag.toList

/-- The program folder of the project whose folder is at a location. -/
def programAt (home : Location) : Location := home ++ [Project.programFolderName]

def cardsAt (home : Location) : Location := programAt home ++ [ProgramFile.cardsFolder]

def cardSlot (home : Location) (key : String) : Slot := ⟨cardsAt home, cardName key⟩

def sharedSlot (home : Location) (name : String) : Slot := ⟨programAt home, name⟩

/-- The names of the files beside those of the cards. -/
def sharedNames : List String := [cardtreeName, baseName, modulesName, mainName]

/-- A file beside those of the cards. -/
def IsShared (c : Corpus) (f : ProgramFile) : Prop :=
  ∃ n ∈ sharedNames, f.path = c.folder.child n

/-- The rows of the cards of a corpus. -/
def rowsOf (cards : List Card) : List String := cards.map fun card => cardRow card.key

/-- The files beside those of the cards, with these rows for the cards. -/
def sharedFiles (c : Corpus) (rows : List String) (rules : List RuleFile) : List ProgramFile :=
  [ProgramFile.cardtree c.folder rows, ProgramFile.base c.folder,
    ProgramFile.modules c.folder rules, ProgramFile.main c.folder]

/-- The paths of a whole corpus: the cards' files in the order of the listing, then those
that all cards share. -/
def wholePaths (c : Corpus) (cards : List Card) : List Path :=
  cards.map (fun card => c.cardPath card.key) ++
    [c.cardtreePath, c.folder.child baseName, c.folder.child modulesName, c.mainPath]

/-- The file of a card that has a text. -/
def cardFile (c : Corpus) (card : Card) : ProgramFile := ⟨.card, c.cardPath card.key, card.text⟩

/-- The files of some cards and other files, each with its slot. -/
def batch (c : Corpus) (home : Location) (cards : List Card) (others : List ProgramFile) :
    List (ProgramFile × Slot) :=
  cards.map (fun card => (c.cardFile card, cardSlot home card.key)) ++
    others.map fun f => (f, sharedSlot home f.path.name)

variable {c : Corpus} {home : Location} {cards : List Card} {others : List ProgramFile}
  {t : FileTree} {key : String}

theorem map_fst_batch (c : Corpus) (home : Location) (cards : List Card)
    (others : List ProgramFile) :
    (c.batch home cards others).map Prod.fst = cards.map c.cardFile ++ others := by
  unfold batch
  rw [List.map_append, List.map_map, List.map_map]
  congr 1
  exact List.map_id others

/-! ## Cards with a text -/

theorem isWritable_of_storable {card : Card} (h : card.Storable) :
    card.isWritable = true ∧ card.text.isWhole = true := by
  obtain ⟨text, hencode, hwhole⟩ := h
  have hcard : card.isWritable = true := by
    rw [← Card.isOk_encode, hencode]
    rfl
  cases (Card.encode_eq_ok hcard).symm.trans hencode
  exact ⟨hcard, hwhole⟩

theorem standsIn_text {card : Card} (hcard : card.isWritable = true) {sh : Option Shape}
    (h : card.text.StandsIn sh) : card.StandsIn sh := ⟨card.text, Card.encode_eq_ok hcard, h⟩

/-- Cards have files if each of them has a text. -/
theorem cardFiles_eq_ok {files : List ProgramFile} :
    c.cardFiles cards = .ok files ↔
      (∀ card ∈ cards, card.isWritable = true) ∧ files = cards.map c.cardFile := by
  induction cards generalizing files with
  | nil => exact ⟨fun h => ⟨by simp, (Except.ok.inj h).symm⟩, fun h => congrArg Except.ok h.2.symm⟩
  | cons card cards ih =>
    rw [cardFiles, List.forall_mem_cons, List.map_cons]
    cases hcard : card.isWritable with
    | true =>
      rw [Card.encode_eq_ok hcard]
      constructor
      · intro h
        obtain ⟨text, htext, h⟩ := Except.ok_of_bind h
        cases htext
        obtain ⟨rest, hrest, h⟩ := Except.ok_of_bind h
        obtain ⟨hall, rfl⟩ := ih.mp hrest
        cases h
        exact ⟨⟨rfl, hall⟩, rfl⟩
      · intro h
        rw [ih.mpr ⟨h.1.2, rfl⟩, h.2]
        rfl
    | false =>
      have hnone : ∃ e, card.encode = .error e := by
        cases hencode : card.encode with
        | error e => exact ⟨e, rfl⟩
        | ok text =>
          have hok := Card.isOk_encode card
          rw [hencode, hcard] at hok
          exact absurd hok (by simp [Except.isOk, Except.toBool])
      obtain ⟨e, hencode⟩ := hnone
      rw [hencode]
      exact ⟨fun h => absurd h (by simp [Except.mapError, bind, Except.bind]),
        fun h => absurd h.1.1 (by simp)⟩

/-- What keeps cards from having files is a number of too many digits. -/
theorem error_of_cardFiles {f : Failure} (h : c.cardFiles cards = .error f) :
    ∃ e, f = .tooManyDigits e := by
  induction cards with
  | nil => exact absurd h (by simp [cardFiles])
  | cons card cards ih =>
    rcases Except.error_of_bind h with hcard | ⟨text, -, hrest⟩
    · cases hencode : card.encode with
      | error e => rw [hencode] at hcard; cases hcard; exact ⟨e, rfl⟩
      | ok text => rw [hencode] at hcard; exact absurd hcard (by simp [Except.mapError])
    · rcases Except.error_of_bind hrest with hfiles | ⟨files, -, hdone⟩
      · exact ih hfiles
      · cases hdone

/-! ## Names -/

theorem toList_cardName (key : String) : (cardName key).toList = key.toList ++ ".lp".toList := by
  unfold cardName
  rw [String.toList_append]

theorem cardName_inj {k k' : String} (h : cardName k = cardName k') : k = k' := by
  have hlist := congrArg String.toList h
  rw [toList_cardName, toList_cardName] at hlist
  exact String.toList_inj.mp (List.append_cancel_right hlist)

theorem cardName_ne_of_short {n : String} (hn : n.toList.length < 3) (k : String) :
    cardName k ≠ n := by
  intro h
  have hlen := congrArg (fun s : String => s.toList.length) h
  have hlp : ".lp".toList.length = 3 := by decide
  simp only [toList_cardName, List.length_append, hlp] at hlen
  omega

theorem not_mem_cardName {ch : Char} (hkey : ch ∉ key.toList) (hend : ch ∉ ".lp".toList) :
    ch ∉ (cardName key).toList := by
  rw [toList_cardName, List.mem_append]
  intro h
  cases h with
  | inl h => exact hkey h
  | inr h => exact hend h

theorem cardPath_eq (c : Corpus) (hkey : '/' ∉ key.toList) :
    c.cardPath key = c.cardsFolder.child (cardName key) :=
  Path.join_eq_child _ (cardName_ne_of_short (by decide) key)
    (cardName_ne_of_short (by decide) key) (not_mem_cardName hkey (by decide))

theorem legalName_cardName (hkey : LegalName key)
    (hshort : (cardName key).utf8ByteSize ≤ nameLimit) : LegalName (cardName key) :=
  ⟨cardName_ne_of_short (by decide) key, cardName_ne_of_short (by decide) key,
    cardName_ne_of_short (by decide) key, not_mem_cardName hkey.no_slash (by decide),
    not_mem_cardName hkey.no_null (by decide), hshort⟩

theorem ne_up_of_mem_sharedNames {n : String} (h : n ∈ sharedNames) : n ≠ Path.up := by
  have hall : ∀ n ∈ sharedNames, n ≠ Path.up := by decide
  exact hall n h

/-- A name that ends like the files of a corpus is not a temporary one. -/
theorem temporaryName_ne_cardName {tag : String} (htag : IsTag tag) (n k : String) :
    temporaryName tag n ≠ cardName k := by
  intro h
  have hlist := congrArg String.toList h
  unfold temporaryName at hlist
  simp only [toList_cardName, String.toList_append] at hlist
  -- Both `.lp` and `tmp-` with the tag are an end of the name, and the second has no point.
  have hlp : ".lp".toList <:+ (k.toList ++ ".lp".toList) := List.suffix_append _ _
  have htmp : "tmp-".toList ++ tag.toList <:+ (k.toList ++ ".lp".toList) := by
    have hsplit : ".tmp-".toList = ['.'] ++ "tmp-".toList := by decide
    refine ⟨".".toList ++ n.toList ++ ['.'], ?_⟩
    rw [← hlist, hsplit]
    simp only [List.append_assoc]
  have hlen : ".lp".toList.length ≤ ("tmp-".toList ++ tag.toList).length := by
    rw [List.length_append]
    have h3 : ".lp".toList.length = 3 := by decide
    have h4 : "tmp-".toList.length = 4 := by decide
    omega
  have hsuffix := List.suffix_of_suffix_length_le hlp htmp hlen
  have hdot : '.' ∈ "tmp-".toList ++ tag.toList := hsuffix.subset (by decide)
  rcases List.mem_append.mp hdot with hdot | hdot
  · exact absurd hdot (by decide)
  · rcases htag '.' hdot with hdigit | hdash
    · exact absurd hdigit (by decide)
    · exact absurd hdash (by decide)

theorem exists_cardName_of_mem_sharedNames {n : String} (h : n ∈ sharedNames) :
    ∃ k, n = cardName k := by
  have hcases : n = cardtreeName ∨ n = baseName ∨ n = modulesName ∨ n = mainName := by
    simpa [sharedNames] using h
  rcases hcases with rfl | rfl | rfl | rfl
  · exact ⟨"cardtree", by decide⟩
  · exact ⟨"base", by decide⟩
  · exact ⟨"modules", by decide⟩
  · exact ⟨"main", by decide⟩

/-! ## Slots -/

theorem path_sharedSlot {f : ProgramFile} (hf : c.IsShared f) :
    f.path.name ∈ sharedNames ∧ f.path = c.folder.child f.path.name := by
  obtain ⟨n, hn, hpath⟩ := hf
  have hname : f.path.name = n := by rw [hpath, Path.name_child]
  rw [hname]
  exact ⟨hn, hpath⟩

theorem hasSlot_cardFile (hfolder : FolderAt t c.cardsFolder (cardsAt home)) {card : Card}
    (hkey : LegalName card.key) : HasSlot t (c.cardFile card) (cardSlot home card.key) := by
  have hpath : (c.cardFile card).path = c.cardsFolder.child (cardName card.key) :=
    cardPath_eq c hkey.no_slash
  refine ⟨cardName_ne_of_short (by decide) card.key, ?_, ?_⟩
  · rw [hpath, Path.parent_child]
    exact hfolder
  · rw [hpath, Path.parent_child]
    rfl

theorem hasSlot_shared (hfolder : FolderAt t c.folder (programAt home)) {f : ProgramFile}
    (hf : c.IsShared f) : HasSlot t f (sharedSlot home f.path.name) := by
  obtain ⟨hn, hpath⟩ := path_sharedSlot hf
  refine ⟨ne_up_of_mem_sharedNames hn, ?_, ?_⟩
  · rw [hpath, Path.parent_child]
    exact hfolder
  · have hparent : f.path.parent = c.folder := by rw [hpath, Path.parent_child]
    rw [hparent]
    exact hpath

theorem folderAt_folder (h : FolderAt t c.cardsFolder (cardsAt home)) :
    FolderAt t c.folder (programAt home) := by
  obtain ⟨a, ha, heq⟩ := FolderAt.of_child (by decide) h
  have hsame := (List.append_inj' (show programAt home ++ _ = a ++ _ from heq) rfl).1
  rw [hsame]
  exact ha

theorem base_of_folder (h : FolderAt t c.folder (programAt home)) :
    FolderAt t c.project.base home := by
  obtain ⟨a, ha, heq⟩ := FolderAt.of_child (by decide) h
  have hsame := (List.append_inj' (show home ++ _ = a ++ _ from heq) rfl).1
  rw [hsame]
  exact ha

theorem folderAt_base (h : FolderAt t c.cardsFolder (cardsAt home)) :
    FolderAt t c.project.base home :=
  base_of_folder (folderAt_folder h)

/-- The folder of the cards' files lies two folders below the project's. -/
theorem exists_home {loc : Location} (h : FolderAt t c.cardsFolder loc) :
    ∃ home, FolderAt t c.cardsFolder (cardsAt home) := by
  obtain ⟨a, ha, rfl⟩ := FolderAt.of_child (by decide) h
  obtain ⟨home, -, rfl⟩ := FolderAt.of_child (by decide) ha
  exact ⟨home, h⟩

theorem hasSlot_batch (hfolder : FolderAt t c.cardsFolder (cardsAt home))
    (hkeys : ∀ card ∈ cards, LegalName card.key) (hothers : ∀ f ∈ others, c.IsShared f) :
    ∀ x ∈ c.batch home cards others, HasSlot t x.1 x.2 := by
  intro x hx
  rcases List.mem_append.mp hx with hx | hx
  · obtain ⟨card, hcard, rfl⟩ := List.mem_map.mp hx
    exact hasSlot_cardFile hfolder (hkeys card hcard)
  · obtain ⟨f, hf, rfl⟩ := List.mem_map.mp hx
    exact hasSlot_shared (folderAt_folder hfolder) (hothers f hf)

/-- Every slot of a corpus is in one of its two folders, for a name that no temporary
file has. -/
theorem slot_of_mem_batch (hothers : ∀ f ∈ others, c.IsShared f) {x : ProgramFile × Slot}
    (hx : x ∈ c.batch home cards others) :
    (x.2.folder = cardsAt home ∨ x.2.folder = programAt home) ∧ ∃ k, x.2.name = cardName k := by
  rcases List.mem_append.mp hx with hx | hx
  · obtain ⟨card, -, rfl⟩ := List.mem_map.mp hx
    exact ⟨Or.inl rfl, card.key, rfl⟩
  · obtain ⟨f, hf, rfl⟩ := List.mem_map.mp hx
    exact ⟨Or.inr rfl, exists_cardName_of_mem_sharedNames (path_sharedSlot (hothers f hf)).1⟩

/-- No temporary place is that of a file. -/
theorem temporary_ne_of_mem_batch {tag : String} (htag : IsTag tag)
    (hothers : ∀ f ∈ others, c.IsShared f) (s : Slot) {x : ProgramFile × Slot}
    (hx : x ∈ c.batch home cards others) : s.temporary tag ≠ x.2.target := by
  intro heq
  obtain ⟨-, k, hk⟩ := slot_of_mem_batch hothers hx
  have hname := (List.append_inj' heq rfl).2
  simp only [List.cons.injEq, and_true] at hname
  exact temporaryName_ne_cardName htag s.name k (hname.trans hk)

theorem mem_batch {others : List ProgramFile} {x : ProgramFile × Slot} :
    x ∈ c.batch home cards others ↔
      (∃ card ∈ cards, x = (c.cardFile card, cardSlot home card.key)) ∨
        ∃ f ∈ others, x = (f, sharedSlot home f.path.name) := by
  unfold batch
  rw [List.mem_append, List.mem_map, List.mem_map]
  constructor
  · intro hmem
    rcases hmem with ⟨card, hcard, h⟩ | ⟨f, hf, h⟩
    · exact Or.inl ⟨card, hcard, h.symm⟩
    · exact Or.inr ⟨f, hf, h.symm⟩
  · intro hmem
    rcases hmem with ⟨card, hcard, h⟩ | ⟨f, hf, h⟩
    · exact Or.inl ⟨card, hcard, h.symm⟩
    · exact Or.inr ⟨f, hf, h.symm⟩

theorem cardsAt_ne_programAt (home : Location) : cardsAt home ≠ programAt home := by
  unfold cardsAt
  simp

theorem cardSlot_ne_sharedSlot (key name : String) : cardSlot home key ≠ sharedSlot home name :=
  fun h => cardsAt_ne_programAt home (congrArg Slot.folder h)

theorem cardSlot_inj {key key' : String} (h : cardSlot home key = cardSlot home key') :
    key = key' := cardName_inj (congrArg Slot.name h)

/-- The files of cards with different keys and other files of different names can be
written as one batch. -/
theorem apart_batch (htag : IsTag c.tag) (hcards : (cards.map Card.key).Nodup)
    (hothers : ∀ f ∈ others, c.IsShared f)
    (hnames : (others.map fun f => f.path.name).Nodup) :
    Apart c.tag (c.batch home cards others) := by
  refine ⟨?_, ?_⟩
  · unfold batch
    rw [List.map_append, List.map_map, List.map_map, List.nodup_append]
    refine ⟨?_, ?_, ?_⟩
    · rw [List.Nodup, List.pairwise_map] at hcards ⊢
      refine hcards.imp fun hne heq => hne ?_
      exact cardName_inj (congrArg Slot.name heq)
    · rw [List.Nodup, List.pairwise_map] at hnames ⊢
      exact hnames.imp fun hne heq => hne (congrArg Slot.name heq)
    · intro s hs s' hs' heq
      obtain ⟨card, -, rfl⟩ := List.mem_map.mp hs
      obtain ⟨f, -, rfl⟩ := List.mem_map.mp hs'
      exact cardsAt_ne_programAt home (congrArg Slot.folder heq)
  · exact fun x _ y hy => temporary_ne_of_mem_batch htag hothers x.2 hy

theorem map_path_sharedFiles (c : Corpus) (cards : List Card) (rows : List String)
    (rules : List RuleFile) :
    (cards.map c.cardFile ++ c.sharedFiles rows rules).map ProgramFile.path =
      c.wholePaths cards := by
  unfold wholePaths sharedFiles
  rw [List.map_append, List.map_map]
  rfl

theorem isShared_sharedFiles (c : Corpus) (rows : List String) (rules : List RuleFile) :
    ∀ f ∈ c.sharedFiles rows rules, c.IsShared f := by
  intro f hf
  simp only [sharedFiles, List.mem_cons, List.not_mem_nil, or_false] at hf
  rcases hf with rfl | rfl | rfl | rfl
  · exact ⟨cardtreeName, by decide, rfl⟩
  · exact ⟨baseName, by decide, rfl⟩
  · exact ⟨modulesName, by decide, rfl⟩
  · exact ⟨mainName, by decide, rfl⟩

theorem isShared_cardtree (c : Corpus) (rows : List String) :
    ∀ f ∈ [ProgramFile.cardtree c.folder rows], c.IsShared f := by
  intro f hf
  rw [List.mem_singleton.mp hf]
  exact isShared_sharedFiles c rows [] _ List.mem_cons_self

theorem map_name_sharedFiles (c : Corpus) (rows : List String) (rules : List RuleFile) :
    (c.sharedFiles rows rules).map (fun f => f.path.name) = sharedNames := by
  simp [sharedFiles, sharedNames, ProgramFile.cardtree, ProgramFile.base, ProgramFile.modules,
    ProgramFile.main]

theorem apart_shared (htag : IsTag c.tag) (hkeys : (cards.map Card.key).Nodup)
    (rows : List String) (rules : List RuleFile) :
    Apart c.tag (c.batch home cards (c.sharedFiles rows rules)) := by
  refine apart_batch htag hkeys (isShared_sharedFiles c rows rules) ?_
  rw [map_name_sharedFiles]
  decide

theorem hasSlot_cardtree (hfolder : FolderAt t c.folder (programAt home)) (rows : List String) :
    HasSlot t (ProgramFile.cardtree c.folder rows) (sharedSlot home cardtreeName) := by
  have hname : (ProgramFile.cardtree c.folder rows).path.name = cardtreeName := Path.name_child _ _
  rw [← hname]
  exact hasSlot_shared hfolder (isShared_cardtree c rows _ List.mem_cons_self)

/-! ## The rest of the project -/

/-- What a batch writes lies in the program folder. -/
theorem below_programAt {x : ProgramFile × Slot} (hothers : ∀ f ∈ others, c.IsShared f)
    (hx : x ∈ c.batch home cards others) :
    programAt home <+: x.2.folder := by
  obtain ⟨hfolder | hfolder, -⟩ := slot_of_mem_batch hothers hx
  · rw [hfolder]
    exact List.prefix_append _ _
  · exact ⟨[], by rw [hfolder, List.append_nil]⟩

theorem putAll_batch_of_not_below (hothers : ∀ f ∈ others, c.IsShared f)
    {shapes : Location → Option Shape} {loc : Location} (hloc : ¬ programAt home <+: loc) :
    putAll c.tag (c.batch home cards others) shapes loc = shapes loc := by
  refine putAll_of_ne ?_ ?_
  · intro x hx heq
    subst heq
    exact hloc ((below_programAt hothers hx).trans (List.prefix_append _ _))
  · intro x hx heq
    subst heq
    exact hloc ((below_programAt hothers hx).trans (List.prefix_append _ _))

theorem programAt_isPrefix_cardSlot (key : String) :
    programAt home <+: (cardSlot home key).target :=
  (List.prefix_append _ _).trans (List.prefix_append (cardsAt home) _)

theorem programAt_isPrefix_sharedSlot (name : String) :
    programAt home <+: (sharedSlot home name).target :=
  List.prefix_append _ _

/-- Another entry of the project's folder is not below the program folder. -/
theorem not_below_programAt {n : String} (hn : n ≠ Project.programFolderName) (rest : Location) :
    ¬ programAt home <+: home ++ n :: rest := by
  intro h
  unfold programAt at h
  rw [List.prefix_append_right_inj, List.cons_prefix_cons] at h
  exact hn h.1.symm

/-- Making the folder of the cards' files makes two folders, if there is a project. -/
theorem eq_of_madeAlong {t t₁ : FileTree} (hbase : FolderAt t c.project.base home)
    (hmade : MadeAlong c.cardsFolder.segments t t₁)
    (hfolder : FolderAt t₁ c.cardsFolder (cardsAt home)) {loc : Location}
    (hloc : t₁.shapeAt loc ≠ t.shapeAt loc) : loc = programAt home ∨ loc = cardsAt home := by
  obtain ⟨hold, -, pre, hpre, hwalk⟩ := hmade loc hloc
  have hkept : ∀ l, t.shapeAt l = some .folder → t₁.shapeAt l = some .folder :=
    fun _ => hmade.kept
  have hprogramWalk := (resolve_eq_ok.mp (folderAt_folder hfolder).resolve).2
  have hcardsWalk := (resolve_eq_ok.mp hfolder.resolve).2
  have hlast : pre <+: c.folder.segments ++ [ProgramFile.cardsFolder] := hpre
  rcases List.prefix_concat_iff.mp hlast with rfl | hpre
  · right
    exact Except.ok.inj (hwalk.symm.trans hcardsWalk)
  have hlast : pre <+: c.project.base.segments ++ [Project.programFolderName] := hpre
  rcases List.prefix_concat_iff.mp hlast with rfl | hpre
  · left
    exact Except.ok.inj (hwalk.symm.trans hprogramWalk)
  · -- The whole beginning leads to folders that were there.
    obtain ⟨mid, hmid, hshape⟩ :=
      exists_walk_of_prefix hpre (resolve_eq_ok.mp hbase.resolve).2 hbase.shape
    have hsame : mid = loc := Except.ok.inj ((walk_of_kept hkept hmid).symm.trans hwalk)
    rw [hsame, hold] at hshape
    exact absurd hshape (by simp)

end Corpus

end CardLogic
