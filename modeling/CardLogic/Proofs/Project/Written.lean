import CardLogic.Proofs.Corpus.Rows
import CardLogic.Proofs.Json.ReadBack
import CardLogic.Proofs.Project.Known
import CardLogic.Proofs.Project.Parents
import CardLogic.Proofs.Project.Reading
import CardLogic.Proofs.Project.Writing

/-!
Cards that are written are read back.

A card goes right into the folder of all cards or into that of the cards below a card.  Its folder
is then reached and no other one is that was not (`Wrote.reached_iff`), so the listing is the
old one with the new card put in at its place, and a look-up finds the new card if no folder that it
goes over had its name (`written_card_read_back`).

A key has to be a name.  The segment for the folder above would lead to another card's file of
fields, and a folder that is gone over need not be a card's: the folder of all cards is gone over
itself if it holds a file of fields.
-/

namespace CardLogic.Project

open Entries

/-! ## Fields -/

/-- Fields that are written are read as they were, unless they lie too deep in one another. -/
theorem readFields_write (path : Path) {fields : Metadata} {text : Text}
    (h : (Value.object fields).Plain) (hwrite : Json.write (.object fields) = .ok text)
    (hwhole : text.isWhole = true) :
    readFields path (bytesOf text) =
      if (Value.object fields).levels ≤ Json.depthLimit then .ok fields
      else .error (.tooDeep path) := by
  have hread := Json.read_write h hwrite hwhole
  unfold readFields
  rw [textOf?_bytesOf hwhole,
    Text.unified_of_not_mem (Json.carriageReturn_not_mem_write h hwrite hwhole)]
  unfold Text.toString at hread
  dsimp only
  rw [hread]
  by_cases hdepth : (Value.object fields).levels ≤ Json.depthLimit
  · rw [if_pos hdepth, if_pos hdepth]
  · rw [if_neg hdepth, if_neg hdepth]

variable {p : Project} {t t' : FileTree} {cards : List Card} {above : Option Card}
  {key : String} {target : Location} {content : ByteArray} {fields : Metadata}

/-! ## The store after -/

/-- The card that is read from a folder with these fields. -/
def cardIn (p : Project) (target : Location) (fields : Metadata) : Card :=
  ⟨(p.cardRoot.below target).name, p.cardRoot.below target, some fields⟩

namespace Wrote

variable (h : Wrote p target content t t')
include h

theorem free_below (rest : Location) : cardShapes t p.base.location (target ++ rest) = none := by
  have hnone := FileTree.shapeAt_of_above_eq_none h.free rest
  rw [List.append_assoc] at hnone
  exact hnone

theorem kept {loc : Location} {sh : Shape} (hloc : cardShapes t p.base.location loc = some sh) :
    cardShapes t' p.base.location loc = some sh := by
  by_contra hne
  have hindex : loc ≠ target ++ [metadataName] := by
    intro heq
    rw [heq, h.free_below] at hloc
    exact absurd hloc (by simp)
  have hnone := (h.made loc hindex (by rw [hloc]; exact hne)).1
  rw [hloc] at hnone
  exact absurd hnone (by simp)

/-- There is one more file of fields. -/
theorem file_iff (loc : Location) (c : ByteArray) :
    cardShapes t' p.base.location (loc ++ [metadataName]) = some (.file c) ↔
      cardShapes t p.base.location (loc ++ [metadataName]) = some (.file c) ∨
        (loc = target ∧ c = content) := by
  constructor
  · intro hfile
    by_cases hloc : loc = target
    · subst hloc
      cases hfile.symm.trans h.file
      exact Or.inr ⟨rfl, rfl⟩
    · left
      by_contra hne
      have hindex : loc ++ [metadataName] ≠ target ++ [metadataName] := by simpa using hloc
      have hfolder := (h.made _ hindex fun hsame => hne (hsame ▸ hfile)).2.1
      rw [hfile] at hfolder
      exact absurd hfolder (by simp)
  · intro hfile
    rcases hfile with hfile | ⟨rfl, rfl⟩
    · exact h.kept hfile
    · exact h.file

theorem holdsFields_iff (loc : Location) :
    HoldsFields (cardShapes t' p.base.location) loc ↔
      HoldsFields (cardShapes t p.base.location) loc ∨ loc = target := by
  unfold HoldsFields
  simp only [h.file_iff, exists_or, exists_and_left, exists_eq, and_true]

/-- One more folder is reached. -/
theorem reached_iff (hplace : IsPlace (cardShapes t p.base.location) target) (loc : Location) :
    Reached (cardShapes t' p.base.location) loc ↔
      Reached (cardShapes t p.base.location) loc ∨ loc = target := by
  have hold : ∀ {l}, Reached (cardShapes t p.base.location) l →
      Reached (cardShapes t' p.base.location) l :=
    fun hl => hl.congr fun m _ hm => (h.holdsFields_iff m).mpr (Or.inl hm)
  constructor
  · intro hloc
    induction hloc with
    | @top n hn => exact ((h.holdsFields_iff [n]).mp hn).imp .top id
    | @child loc n _ hn ih =>
      rcases (h.holdsFields_iff _).mp hn with hn | heq
      · rcases ih with hloc | rfl
        · exact Or.inl (.child hloc hn)
        · -- Nothing was below the target.
          obtain ⟨c, hc⟩ := hn
          rw [List.append_assoc, h.free_below] at hc
          exact absurd hc (by simp)
      · exact Or.inr heq
  · intro hloc
    rcases hloc with hloc | rfl
    · exact hold hloc
    · have hfields := (h.holdsFields_iff loc).mpr (Or.inr rfl)
      rcases hplace with ⟨n, rfl⟩ | ⟨l, n, hl, rfl⟩
      · exact .top hfields
      · exact .child (hold hl) hfields

theorem cardAt_iff (hplace : IsPlace (cardShapes t p.base.location) target)
    (hfields : readFields ((p.cardRoot.below target).child metadataName) content = .ok fields)
    (loc : Location) (card : Card) :
    CardAt p.cardRoot (cardShapes t' p.base.location) loc card ↔
      CardAt p.cardRoot (cardShapes t p.base.location) loc card ∨
        (loc = target ∧ card = p.cardIn target fields) := by
  constructor
  · intro ⟨hreached, hkey, hpath, c, fs, hc, hfs, hmeta⟩
    rcases (h.file_iff loc c).mp hc with hc | ⟨rfl, rfl⟩
    · refine Or.inl ⟨?_, hkey, hpath, c, fs, hc, hfs, hmeta⟩
      rcases (h.reached_iff hplace loc).mp hreached with hreached | rfl
      · exact hreached
      · rw [h.free_below] at hc
        exact absurd hc (by simp)
    · rw [hfields] at hfs
      cases hfs
      obtain ⟨key, path, metadata⟩ := card
      dsimp only at hkey hpath hmeta
      subst hkey hpath hmeta
      exact Or.inr ⟨rfl, rfl⟩
  · intro hcard
    rcases hcard with ⟨hreached, hkey, hpath, c, fs, hc, hfs, hmeta⟩ | ⟨rfl, rfl⟩
    · exact ⟨(h.reached_iff hplace loc).mpr (Or.inl hreached), hkey, hpath, c, fs, h.kept hc, hfs,
        hmeta⟩
    · exact ⟨(h.reached_iff hplace loc).mpr (Or.inr rfl), rfl, rfl, content, fields, h.file,
        hfields, rfl⟩

theorem exists_root : ∃ es, t'.entry? p.cardRoot = .ok (some (.folder es)) ∧
    Node.OrderedEntries es ∧ shapeAt es = cardShapes t' p.base.location := by
  obtain ⟨es, hfind⟩ := FileTree.shapeAt_eq_folder.mp h.root.shape
  refine ⟨es, ?_, ordered_of_find t'.ordered hfind, shapeAt_root hfind⟩
  unfold FileTree.entry?
  rw [h.root.resolve]
  dsimp only
  rw [hfind]

theorem base : t'.FolderAt p.base p.base.location := by
  obtain ⟨a, ha, heq⟩ := h.root.of_child (by decide)
  cases (List.append_inj' heq rfl).1
  exact ha

/-- A reading that breaks off does so at the new file of fields. -/
theorem error_of_cards (hnames : t.LegalNames) (hsettled : p.Settled t)
    (hplace : IsPlace (cardShapes t p.base.location) target) (hcards : p.cards t = .ok cards)
    {e : Failure} (herror : p.cards t' = .error e) :
    readFields ((p.cardRoot.below target).child metadataName) content = .error e := by
  obtain ⟨es, hentry, hes, hshapes⟩ := h.exists_root
  have hread : readEach p.cardRoot es = .error e := by
    unfold Project.cards trees at herror
    rw [hentry] at herror
    cases hts : readEach p.cardRoot es with
    | ok ts => simp only [readLevel, hts] at herror; exact absurd herror (by simp [Except.map])
    | error e' => simp only [readLevel, hts] at herror; rw [Except.error.inj herror]
  obtain ⟨loc, hloc, hunreadable⟩ := error_of_readEach hes hread
  rw [hshapes] at hloc hunreadable
  obtain ⟨c, hc, hfields⟩ := hunreadable
  rcases (h.file_iff loc c).mp hc with hc | ⟨rfl, rfl⟩
  · exfalso
    rcases (h.reached_iff hplace loc).mp hloc with hloc | rfl
    · have hbase := folderAt_of_cardShapes hnames hsettled h.base.fits (by rw [hc]; simp)
      exact readable_of_cards hbase hcards hloc e ⟨c, hc, hfields⟩
    · rw [h.free_below] at hc
      exact absurd hc (by simp)
  · exact hfields

/-- The listing is the old one with the new card put in. -/
theorem cards_eq (hnames : t.LegalNames) (hsettled : p.Settled t)
    (hplace : IsPlace (cardShapes t p.base.location) target) (hcards : p.cards t = .ok cards)
    (hfields : readFields ((p.cardRoot.below target).child metadataName) content = .ok fields) :
    ∃ before behind, cards = before ++ behind ∧
      p.cards t' = .ok (before ++ p.cardIn target fields :: behind) := by
  cases hcards' : p.cards t' with
  | error e =>
    have herror := h.error_of_cards hnames hsettled hplace hcards hcards'
    rw [hfields] at herror
    exact absurd herror (by simp)
  | ok cards' =>
    have hold : ∀ card, card ∈ cards ↔
        ∃ loc, CardAt p.cardRoot (cardShapes t p.base.location) loc card :=
      fun card => mem_cards_of_settled hnames hsettled h.base.fits hcards
    have hnew : p.cardIn target fields ∉ cards := by
      intro hmem
      obtain ⟨loc, hloc⟩ := (hold _).mp hmem
      have hsame : target = loc := Path.below_inj hloc.path
      have hfolder := hloc.reached.shapeAt_eq
      rw [← hsame, h.free] at hfolder
      exact absurd hfolder (by simp)
    obtain ⟨before, behind, hsplit, rfl⟩ :=
      insert_of_mem_iff (pairwise_cards hcards) (pairwise_cards hcards') hnew fun card => by
        rw [mem_cards h.base hcards', hold]
        simp only [h.cardAt_iff hplace hfields, exists_or, exists_and_right, exists_eq, true_and]
    exact ⟨before, behind, hsplit, rfl⟩

/-- A folder that is gone over now was gone over before, or is the new card's, or has another
name: a folder on the way to the new card's, if that is named like a file of fields. -/
theorem index_cases (hplace : IsPlace (cardShapes t p.base.location) target) {loc : Location}
    (hindex : cardShapes t' p.base.location (loc ++ [metadataName]) ≠ none) :
    cardShapes t p.base.location (loc ++ [metadataName]) ≠ none ∨ loc = target ∨
      (p.cardRoot.below loc).name ≠ (p.cardRoot.below target).name := by
  by_cases hloc : loc = target
  · exact Or.inr (Or.inl hloc)
  by_cases hsame : cardShapes t' p.base.location (loc ++ [metadataName]) =
      cardShapes t p.base.location (loc ++ [metadataName])
  · exact Or.inl (hsame ▸ hindex)
  right
  right
  obtain ⟨hnone, -, hpre⟩ := h.made _ (by simpa using hloc) hsame
  rcases hplace with ⟨n, rfl⟩ | ⟨l, n, hl, rfl⟩
  · have hnil : loc = [] := List.eq_nil_of_length_eq_zero (by simpa using hpre.length_le)
    subst hnil
    rw [← (List.cons_prefix_cons.mp hpre).1, Path.below_nil, Path.below_singleton, Path.name_child]
    unfold cardRoot
    rw [Path.name_child]
    decide
  · rw [show l ++ [childrenFolder, n] = l ++ [childrenFolder] ++ [n] by simp] at hpre ⊢
    rcases List.prefix_concat_iff.mp hpre with heq | hpre
    · obtain ⟨hfront, hlast⟩ := List.append_inj' heq rfl
      rw [hfront, ← List.singleton_inj.mp hlast, Path.name_below_concat, Path.name_below_concat]
      decide
    · exfalso
      rcases List.prefix_concat_iff.mp hpre with heq | ⟨rest, hrest⟩
      · have hlast := List.singleton_inj.mp (List.append_inj' heq rfl).2
        exact absurd hlast (by decide)
      · -- What leads to the card above was there before.
        have hfolder := hl.shapeAt_eq
        rw [← hrest] at hfolder
        have hbelow := FileTree.shapeAt_of_above_eq_none hnone rest
        rw [List.append_assoc, List.cons_append] at hbelow
        exact absurd (hfolder.symm.trans hbelow) (by simp)

/-- The new card is read from its folder, and there is none below it. -/
theorem exists_readCard
    (hfields : readFields ((p.cardRoot.below target).child metadataName) content = .ok fields)
    {es : Entries} (hes : Node.OrderedEntries es)
    (hshapes : shapeAt es = cardShapes t' p.base.location) :
    ∃ sub, find es target = some (.folder sub) ∧
      readCard (p.cardRoot.below target) (.folder sub) =
        .ok (.node (p.cardIn target fields) []) := by
  have hfile : shapeAt es (target ++ [metadataName]) = some (.file content) := by
    rw [hshapes]
    exact h.file
  obtain ⟨sub, hsub⟩ : ∃ sub, find es target = some (.folder sub) := by
    refine (FileTree.shapeAt_eq_folder (t := ⟨es, hes⟩)).mp ?_
    exact FileTree.shapeAt_above (List.cons_ne_nil metadataName []) (ne_of_eq_of_ne hfile (by simp))
  have hget : get? sub metadataName = some (.file content) := by
    rw [shapeAt_append hsub, shapeAt_singleton] at hfile
    cases hd : get? sub metadataName with
    | none => rw [hd] at hfile; exact absurd hfile (by simp)
    | some d => rw [hd] at hfile; cases d <;> simp_all [Node.shape]
  have hchildren : childEntries sub = [] := by
    have hnone : shapeAt es (target ++ [childrenFolder]) = none := by
      rw [hshapes]
      by_contra hne
      obtain ⟨-, -, hpre⟩ := h.made (target ++ [childrenFolder])
        (by simp [childrenFolder, metadataName]) (by rw [h.free_below]; exact hne)
      have hlength := hpre.length_le
      rw [List.length_append, List.length_singleton] at hlength
      omega
    rw [shapeAt_append hsub, shapeAt_singleton, Option.map_eq_none_iff] at hnone
    unfold childEntries
    rw [hnone]
  refine ⟨sub, hsub, readCard_eq_ok.mpr ⟨content, fields, [], hget, hfields, ?_, rfl⟩⟩
  rw [hchildren]
  rfl

/-- If no folder that was gone over had the new card's name, then the new card is found. -/
theorem findCard?_eq (hname : (p.cardRoot.below target).name = key) (hne : key ≠ "")
    (hplace : IsPlace (cardShapes t p.base.location) target)
    (hfree : ∀ loc, cardShapes t p.base.location (loc ++ [metadataName]) ≠ none →
      (p.cardRoot.below loc).name ≠ key)
    (hfields : readFields ((p.cardRoot.below target).child metadataName) content = .ok fields) :
    p.findCard? key t' = .ok (some (.node (p.cardIn target fields) [])) := by
  obtain ⟨es, hentry, hes, hshapes⟩ := h.exists_root
  obtain ⟨sub, hsub, hread⟩ := h.exists_readCard hfields hes hshapes
  have hindex : shapeAt es (target ++ [metadataName]) ≠ none := by
    rw [hshapes, h.file]
    simp
  have honly : ∀ loc, shapeAt es (loc ++ [metadataName]) ≠ none →
      (p.cardRoot.below loc).name = (p.cardRoot.below target).name → loc = target := by
    intro loc hloc hsame
    rw [hshapes] at hloc
    rcases h.index_cases hplace hloc with hold | htarget | hother
    · exact absurd (hsame.trans hname) (hfree loc hold)
    · exact htarget
    · exact absurd hsame hother
  have hfind := find?_cardFolders_of_only hes hsub hindex honly
  rw [hname] at hfind
  exact findCard?_of_find? hentry hne hfind hread

end Wrote

/-- A card that is written is put into the listing, nothing else there changes, and it is found by
its key, with its fields as they were given and below the card it was written below.  If its fields
lie too deep in one another, then it is written, but no card can be listed any more. -/
theorem written_card_read_back (hnames : t.LegalNames) (hsettled : p.Settled t)
    (hcards : p.cards t = .ok cards)
    (habove : ∀ card ∈ above, card ∈ cards ∧ card.key ≠ Card.rootFolder) (hkey : PlainName key)
    (hnothing : t.entry? (folderFor (p.folderOf above) key) = .ok none)
    (hfree : ∀ loc, p.Searched t loc → (p.cardRoot.below loc).name ≠ key)
    (hplain : (Value.object fields).Plain) {folder : Path}
    (hwrite : writeCard (p.folderOf above) key fields t = .ok folder t') :
    ((Value.object fields).levels ≤ Json.depthLimit →
      (∃ before behind, cards = before ++ behind ∧
        p.cards t' = .ok (before ++ ⟨key, folder, some fields⟩ :: behind)) ∧
      p.findCard? key t' = .ok (some (.node ⟨key, folder, some fields⟩ [])) ∧
      Card.parentKey? folder = above.map Card.key) ∧
    (Json.depthLimit < (Value.object fields).levels →
      p.cards t' = .error (.tooDeep (folder.child metadataName))) := by
  obtain ⟨target, hfolder, hup, hname, hplace, hparent⟩ := exists_place hnames hcards habove hkey
  obtain ⟨rfl, -, t₁, -, -, hmake, -⟩ := steps_of_writeCard hwrite
  have hfits : (p.cardRoot.below target).Fits := by
    obtain ⟨-, loc, hloc⟩ := Disk.madeAlong_makeFolders hmake
    rw [← hfolder]
    exact hloc.fits
  have htarget : cardShapes t p.base.location target = none := by
    by_contra hne
    have hresolve := resolve_of_cardShapes hnames hsettled hup hfits hne
    unfold FileTree.entry? at hnothing
    rw [hfolder, hresolve] at hnothing
    exact hne (FileTree.shapeAt_eq_none.mpr (Except.ok.inj hnothing))
  obtain ⟨text, htext, hwhole, hwrote⟩ :=
    wrote_of_writeCard hsettled hup htarget hfolder hwrite
  have hread :=
    readFields_write ((p.cardRoot.below target).child metadataName) hplain htext hwhole
  have hcard : p.cardIn target fields = ⟨key, p.cardRoot.below target, some fields⟩ := by
    unfold cardIn
    rw [hname]
  rw [hfolder]
  refine ⟨fun hdepth => ?_, fun hdepth => ?_⟩
  · rw [if_pos hdepth] at hread
    rw [← hcard]
    refine ⟨hwrote.cards_eq hnames hsettled hplace hcards hread, ?_, hparent⟩
    exact hwrote.findCard?_eq hname hkey.ne_empty hplace
      (fun loc hloc => hfree loc (searched_of_cardShapes hnames hsettled hfits.of_below hloc)) hread
  · rw [if_neg (by omega)] at hread
    cases hcards' : p.cards t' with
    | ok cards' =>
      have hreached := (hwrote.reached_iff hplace target).mpr (Or.inr rfl)
      exact absurd ⟨_, hwrote.file, hread⟩ (readable_of_cards hwrote.base hcards' hreached _)
    | error e =>
      rw [hwrote.error_of_cards hnames hsettled hplace hcards hcards'] at hread
      exact congrArg Except.error (Except.error.inj hread)

/-- The folder that a card was written into, if it could be. -/
def folderWritten (parent : String) (key : String) (fields : Metadata) (t : FileTree) :
    Option String :=
  match writeCard (Path.ofString parent) key fields t with
  | .ok folder _ => some folder.toString
  | .error _ _ => none

/-- The cards that are listed, by key, path and number of fields. -/
def listed (base : String) (t : FileTree) : Option (List (String × String × Option Nat)) :=
  (Project.cards ⟨Path.ofString base⟩ t).toOption.map fun cards =>
    cards.map fun card => (card.key, card.path.toString, card.metadata.map List.length)

/-- The path of the card that is found for a key. -/
def foundAt (base key : String) (t : FileTree) : Option (Option String) :=
  (findCard? ⟨Path.ofString base⟩ key t).toOption.map fun found =>
    found.map fun tree => tree.card.path.toString

/-- A store with one card. -/
def oneCard : FileTree :=
  ⟨[("p", .folder [("cardroot", .folder [("a", .folder [("index.json", .file (bytesOf "{}"))])])])],
    by simp only [Node.OrderedEntries, Node.Ordered]; decide⟩

/-- Fields with most of what has to be escaped, empty things and things in one another. -/
def manyFields : Metadata :=
  [("a\"\\b", .text "\r\n\t\x00\x1f\u2028 ok"), ("", .null), ("n", .whole (-120)),
    ("l", .list [.bool true, .list [], .object [("x", .list [.text ""])]])]

theorem plain_manyFields : (Value.object manyFields).Plain := by
  refine .object (by decide) fun f hf => ?_
  simp only [manyFields, List.mem_cons, List.not_mem_nil, or_false] at hf
  rcases hf with rfl | rfl | rfl | rfl
  · exact .text _
  · exact .null
  · exact .whole (by decide)
  · refine .list fun v hv => ?_
    simp only [List.mem_cons, List.not_mem_nil, or_false] at hv
    rcases hv with rfl | rfl | rfl
    · exact .bool true
    · exact .list (by simp)
    · refine .object (by decide) fun f hf => ?_
      rw [List.mem_singleton.mp hf]
      exact .list fun v hv => List.mem_singleton.mp hv ▸ .text ""

theorem written_card_read_back_many :
    ∃ t', writeCard (Path.ofString "/p/cardroot/a") "b" manyFields oneCard =
        .ok (Path.ofString "/p/cardroot/a/c/b") t' ∧
      (∃ before behind, Project.cards ⟨Path.ofString "/p"⟩ t' =
        .ok (before ++ ⟨"b", Path.ofString "/p/cardroot/a/c/b", some manyFields⟩ :: behind)) ∧
      findCard? ⟨Path.ofString "/p"⟩ "b" t' =
        .ok (some (.node ⟨"b", Path.ofString "/p/cardroot/a/c/b", some manyFields⟩ [])) ∧
      Card.parentKey? (Path.ofString "/p/cardroot/a/c/b") = some "a" := by
  have hnames : oneCard.LegalNames := FileTree.legalNames_of_names (by decide)
  have hcards : Project.cards ⟨Path.ofString "/p"⟩ oneCard =
      .ok [⟨"a", Path.ofString "/p/cardroot/a", some []⟩] := rfl
  have habove : ∀ card ∈ some (⟨"a", Path.ofString "/p/cardroot/a", some []⟩ : Card),
      card ∈ [(⟨"a", Path.ofString "/p/cardroot/a", some []⟩ : Card)] ∧
        card.key ≠ Card.rootFolder := by
    rintro card ⟨⟩
    exact ⟨List.mem_cons_self, by decide⟩
  have hdone : folderWritten "/p/cardroot/a" "b" manyFields oneCard =
      some "/p/cardroot/a/c/b" := by decide +kernel
  cases hwrite : writeCard (Path.ofString "/p/cardroot/a") "b" manyFields oneCard with
  | error e t' =>
    unfold folderWritten at hdone
    rw [hwrite] at hdone
    exact absurd hdone (by simp)
  | ok folder t' =>
    obtain ⟨hback, -⟩ := written_card_read_back (p := ⟨Path.ofString "/p"⟩) hnames
      (Or.inl (by decide)) hcards habove ⟨by decide, by decide, by decide, by decide⟩ rfl
      (fun loc hloc heq => absurd (heq ▸ mem_names_of_searched hloc) (by decide))
      plain_manyFields hwrite
    obtain ⟨⟨before, behind, -, hafter⟩, hfound, hparent⟩ := hback (by decide)
    obtain ⟨rfl, -⟩ := steps_of_writeCard hwrite
    exact ⟨t', rfl, ⟨before, behind, hafter⟩, hfound, hparent⟩

/-- A store whose folder of all cards holds a file of fields itself. -/
def fieldsAbove : FileTree :=
  ⟨[("p", .folder [("cardroot", .folder [("index.json", .file (bytesOf "{}")),
      ("x", .folder [("index.json", .file (bytesOf "{}"))])])])],
    by simp only [Node.OrderedEntries, Node.Ordered]; decide⟩

/-- Three ways to lose a card that is written.  The path of the project leads nowhere until the
folders it passes are made, and then it leads to cards that were there.  The folder of all cards
is found for its name before the card of this key.  A key that leads one folder up leads to the
fields of the card above, which are gone then. -/
theorem written_card_lost :
    (oneCard.entry? (folderFor (Path.ofString "/q/../p/cardroot") "b") = .ok none ∧
      (∀ loc, Searched ⟨Path.ofString "/q/../p"⟩ oneCard loc →
        ((Path.ofString "/q/../p/cardroot").below loc).name ≠ "b") ∧
      listed "/q/../p" oneCard = some [] ∧
      folderWritten "/q/../p/cardroot" "b" [] oneCard = some "/q/../p/cardroot/b" ∧
      listed "/q/../p" (after (writeCard (Path.ofString "/q/../p/cardroot") "b" []) oneCard) =
        some [("a", "/q/../p/cardroot/a", some 0), ("b", "/q/../p/cardroot/b", some 0)]) ∧
    (fieldsAbove.entry? (folderFor (Path.ofString "/p/cardroot/x") "cardroot") = .ok none ∧
      (∀ loc, loc ≠ [] → Searched ⟨Path.ofString "/p"⟩ fieldsAbove loc →
        ((Path.ofString "/p/cardroot").below loc).name ≠ "cardroot") ∧
      listed "/p" fieldsAbove = some [("x", "/p/cardroot/x", some 0)] ∧
      folderWritten "/p/cardroot/x" "cardroot" [("n", .text "v")] fieldsAbove =
        some "/p/cardroot/x/c/cardroot" ∧
      foundAt "/p" "cardroot" (after (writeCard (Path.ofString "/p/cardroot/x") "cardroot"
        [("n", .text "v")]) fieldsAbove) = some (some "/p/cardroot")) ∧
    (oneCard.entry? (folderFor (Path.ofString "/p/cardroot/a") "..") = .ok none ∧
      (∀ loc, Searched ⟨Path.ofString "/p"⟩ oneCard loc →
        ((Path.ofString "/p/cardroot").below loc).name ≠ "..") ∧
      listed "/p" oneCard = some [("a", "/p/cardroot/a", some 0)] ∧
      folderWritten "/p/cardroot/a" ".." [("n", .text "v")] oneCard =
        some "/p/cardroot/a/c/.." ∧
      listed "/p" (after (writeCard (Path.ofString "/p/cardroot/a") ".." [("n", .text "v")])
        oneCard) = some [("a", "/p/cardroot/a", some 1)] ∧
      foundAt "/p" ".." (after (writeCard (Path.ofString "/p/cardroot/a") ".."
        [("n", .text "v")]) oneCard) = some none) := by
  have hnames : ∀ {base : Path} {loc : Location} {key : String},
      Searched ⟨base⟩ oneCard loc → key ∉ Entries.names oneCard.entries →
        ((Path.child base Card.rootFolder).below loc).name ≠ key := by
    intro base loc key hloc hkey heq
    exact hkey (heq ▸ mem_names_of_searched hloc)
  refine ⟨⟨rfl, fun loc hloc => hnames hloc (by decide), ?_, ?_, ?_⟩, ⟨rfl, ?_, ?_, ?_, ?_⟩,
    rfl, fun loc hloc => hnames hloc (by decide), ?_, ?_, ?_, ?_⟩
  case refine_4 =>
    intro loc hne hloc heq
    obtain ⟨es, hentry, hindex⟩ := hloc
    rcases List.eq_nil_or_concat loc with rfl | ⟨above, n, rfl⟩
    · exact hne rfl
    · rw [List.concat_eq_append, Path.name_below_concat] at heq
      rw [List.concat_eq_append] at hindex
      have hthere : shapeAt es (above ++ [n]) ≠ none := by
        obtain ⟨_, -, hfind⟩ := FileTree.entry?_eq_some hentry
        have hes : Node.OrderedEntries es := ordered_of_find fieldsAbove.ordered hfind
        exact fun hnone => hindex
          (FileTree.shapeAt_of_above_eq_none (t := ⟨es, hes⟩) hnone [metadataName])
      have hmem := Entries.mem_names hthere
      cases hentry
      rw [heq] at hmem
      exact absurd hmem (by decide)
  all_goals decide +kernel

end CardLogic.Project
