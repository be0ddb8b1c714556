import CardLogic.Project.Writing
import CardLogic.Proofs.FileTree.Effects
import CardLogic.Proofs.Program.Writing
import CardLogic.Proofs.Project.Known
import CardLogic.Proofs.Project.Parents

/-!
What writing a card does to a project.

A card is written into the folder of all cards or into that of the cards below a card
(`exists_place`).  Below the folder of all cards there is then one file more, that of the new
card's fields, and folders that lead to it, where nothing was (`wrote_of_writeCard`).  The folder of
all cards may come into being with the first card.

The path of the project's folder has to lead somewhere before that, or at least to have no segment
that means the folder above: the folders such a segment leaves behind are made as well, and they
may lie among the cards.
-/

namespace CardLogic

open FileTree

namespace Path

theorem location_below (p : Path) {names : Location} (h : up ∉ names) :
    (p.below names).location = p.location ++ names := by
  unfold location below
  rw [landing_append, landing_of_not_mem _ h]

theorem Fits.of_below {p : Path} {names : Location} (h : (p.below names).Fits) : p.Fits := by
  induction names generalizing p with
  | nil => rwa [below_nil] at h
  | cons n names ih =>
    rw [below_cons] at h
    exact (ih h).of_child

end Path

/-- The folder that a path of a folder below leads through. -/
theorem FileTree.FolderAt.of_below {t : FileTree} {p : Path} {names loc : Location}
    (h : FolderAt t (p.below names) loc) : FolderAt t p p.location := by
  obtain ⟨mid, hmid, hshape⟩ :=
    exists_walk_of_prefix (List.prefix_append p.segments names) (resolve_eq_ok.mp h.resolve).2
      h.shape
  have hfolder : FolderAt t p mid := ⟨resolve_eq_ok.mpr ⟨h.fits.of_below, hmid⟩, hshape⟩
  rw [hfolder.location_eq]
  exact hfolder

namespace Project

open Entries

/-- Where a project's path leads is known before its folders are made. -/
def Settled (p : Project) (t : FileTree) : Prop :=
  Path.up ∉ p.base.segments ∨ ∃ home, t.FolderAt p.base home

/-- A name for the folder of a card. -/
structure PlainName (n : String) : Prop where
  ne_empty : n ≠ ""
  ne_here : n ≠ "."
  ne_up : n ≠ Path.up
  no_slash : '/' ∉ n.toList

/-- The folder of a card, or that of all cards. -/
def folderOf (p : Project) : Option Card → Path
  | none => p.cardRoot
  | some card => card.path

/-- Where a card may lie: the cards above it are there. -/
def IsPlace (shapes : Location → Option Shape) (target : Location) : Prop :=
  (∃ n, target = [n]) ∨
    ∃ loc n, Reached shapes loc ∧ target = loc ++ [childrenFolder, n]

variable {p : Project} {t t₁ t' : FileTree} {cards : List Card} {above : Option Card}
  {target : Location} {parent folder : Path} {key : String} {fields : Metadata}

theorem location_cardRoot (p : Project) :
    p.cardRoot.location = p.base.location ++ [Card.rootFolder] :=
  p.base.location_child (by decide)

/-! ## Places -/

theorem up_not_mem_of_reached (hnames : t.LegalNames) {home loc : Location}
    (h : Reached (cardShapes t home) loc) : Path.up ∉ loc := by
  intro hmem
  obtain ⟨pre, post, rfl⟩ := List.append_of_mem hmem
  have hthere : t.shapeAt (home ++ Card.rootFolder :: pre ++ [Path.up] ++ post) ≠ none := by
    have hfolder := h.shapeAt_eq
    unfold cardShapes at hfolder
    have hassoc : home ++ Card.rootFolder :: pre ++ [Path.up] ++ post =
        home ++ Card.rootFolder :: (pre ++ Path.up :: post) := by simp
    rw [hassoc, hfolder]
    simp
  have hup : t.shapeAt (home ++ Card.rootFolder :: pre ++ [Path.up]) ≠ none :=
    fun hnone => hthere (FileTree.shapeAt_of_above_eq_none hnone post)
  exact (hnames _ _ hup).ne_up rfl

/-- The folder of a card to be written lies at a place, and its path names the card above. -/
theorem exists_place (hnames : t.LegalNames) (hcards : p.cards t = .ok cards)
    (habove : ∀ card ∈ above, card ∈ cards ∧ card.key ≠ Card.rootFolder) (hkey : PlainName key) :
    ∃ target, folderFor (p.folderOf above) key = p.cardRoot.below target ∧ Path.up ∉ target ∧
      (p.cardRoot.below target).name = key ∧ IsPlace (cardShapes t p.base.location) target ∧
      Card.parentKey? (p.cardRoot.below target) = above.map Card.key := by
  have hjoin : ∀ q : Path, q.join key = q.child key :=
    fun q => q.join_eq_child hkey.ne_empty hkey.ne_here hkey.no_slash
  cases above with
  | none =>
    have hroot : (p.folderOf none).name = Card.rootFolder := Path.name_child _ _
    refine ⟨[key], ?_, by simpa using hkey.ne_up.symm, Path.name_child _ _, Or.inl ⟨key, rfl⟩,
      Card.parentKey?_top p key⟩
    unfold folderFor
    rw [if_pos hroot, hjoin]
    rfl
  | some card =>
    obtain ⟨hcard, hne⟩ := habove card rfl
    obtain ⟨home, hbase⟩ := exists_folderAt_of_mem_cards hcards hcard
    obtain ⟨loc, hloc⟩ := (mem_cards hbase hcards).mp hcard
    have hname : card.path.name ≠ Card.rootFolder := by
      rw [hloc.path, ← hloc.key]
      exact hne
    have hbelow : p.cardRoot.below (loc ++ [childrenFolder, key]) =
        (card.path.child childrenFolder).child key := by
      rw [hloc.path, Path.below_append, Path.below_cons, Path.below_singleton]
    rw [hbase.location_eq]
    refine ⟨loc ++ [childrenFolder, key], ?_, ?_, ?_, Or.inr ⟨loc, key, hloc.reached, rfl⟩, ?_⟩
    · unfold folderFor folderOf
      rw [if_neg hname, hjoin, hbelow]
    · have hup := up_not_mem_of_reached hnames hloc.reached
      have hc : Path.up ≠ childrenFolder := by decide
      simp [hup, hc, hkey.ne_up.symm]
    · rw [hbelow, Path.name_child]
    · rcases List.eq_nil_or_concat loc with rfl | ⟨rest, m, rfl⟩
      · exact absurd rfl hloc.reached.ne_nil
      · rw [hbelow, Option.map_some, hloc.key, hloc.path, List.concat_eq_append,
          Path.name_below_concat, Path.below_append, Path.below_singleton]
        exact Card.parentKey?_below _ m key

/-! ## The store before -/

/-- A path leads down to what stands below a folder. -/
theorem resolve_below_of_shapeAt (hnames : t.LegalNames) {q : Path} {home names : Location}
    (hq : t.FolderAt q home) (hup : Path.up ∉ names) (hfits : (q.below names).Fits)
    (h : t.shapeAt (home ++ names) ≠ none) : t.resolve (q.below names) = .ok (home ++ names) := by
  have hshort : ∀ n ∈ names, n ≠ Path.up ∧ n.utf8ByteSize ≤ FileTree.nameLimit := by
    intro n hn
    obtain ⟨pre, post, rfl⟩ := List.append_of_mem hn
    refine ⟨fun heq => hup (heq ▸ hn), (hnames (home ++ pre) n fun hnone => h ?_).short⟩
    have hbelow := FileTree.shapeAt_of_above_eq_none hnone post
    rw [List.append_assoc, List.append_assoc] at hbelow
    exact hbelow
  refine FileTree.resolve_eq_ok.mpr ⟨hfits, ?_⟩
  have hwalk : t.walk [] (q.below names).segments = t.walk home names :=
    FileTree.walk_append_of_ok (FileTree.resolve_eq_ok.mp hq.resolve).2 names
  rw [hwalk]
  rcases FileTree.walk_below hq.shape hshort with hok | ⟨-, hnone⟩
  · exact hok
  · exact absurd hnone h

/-- What stands at a path below a settled project's folder, unless the path is too long to ask, also
where the path of the project leads to a folder in another tree alone. -/
theorem Settled.entry?_below (hsettled : p.Settled t) (hbase : t₁.FolderAt p.base p.base.location)
    {names : Location} (hnames : ∀ n ∈ names, LegalName n) :
    t.entry? (p.base.below names) =
      if FileTree.pathLimit < (p.base.below names).toString.utf8ByteSize
      then .error ⟨.nameTooLong, p.base.below names, none⟩
      else .ok (t.find (p.base.location ++ names)) := by
  rcases hsettled with hplain | ⟨home, hhome⟩
  · have hnull : (p.base.below names).hasNull = false :=
      Path.hasNull_below hbase.fits.hasNull fun n hn => (hnames n hn).no_null
    have hsegments : (p.base.below names).segments = p.base.location ++ names := by
      have hlocation : p.base.location = p.base.segments := landing_of_not_mem [] hplain
      rw [hlocation]
      rfl
    have hshort : ∀ n ∈ p.base.location ++ names,
        n ≠ Path.up ∧ n.utf8ByteSize ≤ FileTree.nameLimit := by
      intro n hn
      rcases List.mem_append.mp hn with hn | hn
      · rcases FileTree.mem_of_walk (resolve_eq_ok.mp hbase.resolve).2 hn with hnil | ⟨-, hne, hn⟩
        · exact absurd hnil (by simp)
        · exact ⟨hne, hn⟩
      · exact ⟨(hnames n hn).ne_up, (hnames n hn).short⟩
    unfold FileTree.entry? FileTree.resolve
    rw [if_neg (by rw [hnull]; simp)]
    by_cases hlong : FileTree.pathLimit < (p.base.below names).toString.utf8ByteSize
    · rw [if_pos hlong, if_pos hlong]
    · rw [if_neg hlong, if_neg hlong, hsegments]
      rcases FileTree.walk_below t.shapeAt_nil hshort with hok | ⟨⟨f, hf, hne⟩, hnone⟩
      · rw [List.nil_append] at hok
        rw [hok]
      · rw [List.nil_append] at hnone
        rw [hf, FileTree.shapeAt_eq_none.mp hnone]
        cases f <;> first | rfl | exact absurd rfl hne
  · rw [hhome.location_eq]
    exact FileTree.entry?_below hhome hnames

/-- What is below the folder of all cards is known by the shapes there, also where the path of the
project first came to lead to a folder. -/
theorem Settled.entry?_cardRoot_eq (hsettled : p.Settled t)
    (hbase : t'.FolderAt p.base p.base.location)
    (h : ∀ loc, cardShapes t' p.base.location loc = cardShapes t p.base.location loc) :
    t'.entry? p.cardRoot = t.entry? p.cardRoot := by
  have hfind : t'.find (p.base.location ++ [Card.rootFolder]) =
      t.find (p.base.location ++ [Card.rootFolder]) := by
    refine FileTree.find_eq_of_shapeAt fun rest => ?_
    rw [List.append_assoc]
    exact h rest
  have hentry : t.entry? (p.base.below [Card.rootFolder]) = _ :=
    hsettled.entry?_below hbase fun n hn => List.mem_singleton.mp hn ▸ legalName_rootFolder
  rw [entry?_cardRoot hbase, hfind]
  exact hentry.symm

/-- Where a folder stands, the path of the project leads to it. -/
theorem folderAt_of_settled (hnames : t.LegalNames) (hsettled : p.Settled t) (hfits : p.base.Fits)
    (h : t.shapeAt p.base.location = some .folder) : t.FolderAt p.base p.base.location := by
  rcases hsettled with hplain | ⟨home, hbase⟩
  · have hhome : p.base.location = p.base.segments := by
      unfold Path.location
      rw [FileTree.landing_of_not_mem [] hplain, List.nil_append]
    have hstart : (⟨p.base.anchor, []⟩ : Path).below p.base.segments = p.base := rfl
    have htop : t.FolderAt ⟨p.base.anchor, []⟩ [] :=
      ⟨FileTree.resolve_eq_ok.mpr ⟨Path.Fits.of_below (hstart ▸ hfits), rfl⟩, t.shapeAt_nil⟩
    have hresolve := resolve_below_of_shapeAt hnames htop hplain (hstart ▸ hfits)
      (by rw [List.nil_append, ← hhome, h]; simp)
    rw [hstart, List.nil_append, ← hhome] at hresolve
    exact ⟨hresolve, h⟩
  · rw [hbase.location_eq]
    exact hbase

/-- The path of a project with something below the folder of all cards leads to it. -/
theorem folderAt_of_cardShapes (hnames : t.LegalNames) (hsettled : p.Settled t)
    (hfits : p.base.Fits) {loc : Location} (h : cardShapes t p.base.location loc ≠ none) :
    t.FolderAt p.base p.base.location :=
  folderAt_of_settled hnames hsettled hfits
    (FileTree.shapeAt_above (List.cons_ne_nil Card.rootFolder loc) h)

/-- What stands below the folder of all cards stands where paths below it lead. -/
theorem resolve_of_cardShapes (hnames : t.LegalNames) (hsettled : p.Settled t)
    {loc : Location} (hup : Path.up ∉ loc) (hfits : (p.cardRoot.below loc).Fits)
    (h : cardShapes t p.base.location loc ≠ none) :
    t.resolve (p.cardRoot.below loc) = .ok (p.base.location ++ Card.rootFolder :: loc) := by
  have hroot : p.cardRoot.below loc = p.base.below (Card.rootFolder :: loc) := by
    rw [Path.below_cons]
    rfl
  have hbase := folderAt_of_cardShapes hnames hsettled hfits.of_below.of_child h
  rw [hroot] at hfits ⊢
  refine resolve_below_of_shapeAt hnames hbase (fun hmem => ?_) hfits h
  rcases List.mem_cons.mp hmem with heq | hmem
  · exact absurd heq (by decide)
  · exact hup hmem

/-- A look-up goes over every folder with an entry of the name of a field file. -/
theorem searched_of_cardShapes (hnames : t.LegalNames) (hsettled : p.Settled t)
    (hfits : p.cardRoot.Fits) {loc : Location}
    (h : cardShapes t p.base.location (loc ++ [metadataName]) ≠ none) : p.Searched t loc := by
  have hfolder : cardShapes t p.base.location [] = some .folder := by
    refine FileTree.shapeAt_above (by simp : loc ++ [metadataName] ≠ []) ?_
    rw [List.append_assoc]
    exact h
  obtain ⟨es, hfind⟩ := FileTree.shapeAt_eq_folder.mp hfolder
  have hresolve := resolve_of_cardShapes hnames hsettled List.not_mem_nil
    (by rw [Path.below_nil]; exact hfits) (by rw [hfolder]; simp)
  rw [Path.below_nil] at hresolve
  refine ⟨es, ?_, ?_⟩
  · unfold FileTree.entry?
    rw [hresolve]
    dsimp only
    rw [hfind]
  · rw [shapeAt_root hfind]
    exact h

theorem mem_cards_of_settled (hnames : t.LegalNames) (hsettled : p.Settled t)
    (hfits : p.base.Fits) (hcards : p.cards t = .ok cards) {card : Card} :
    card ∈ cards ↔ ∃ loc, CardAt p.cardRoot (cardShapes t p.base.location) loc card := by
  constructor
  · intro hcard
    obtain ⟨home, hbase⟩ := exists_folderAt_of_mem_cards hcards hcard
    rw [hbase.location_eq]
    exact (mem_cards hbase hcards).mp hcard
  · intro ⟨loc, hloc⟩
    have hthere : cardShapes t p.base.location loc ≠ none := by
      rw [hloc.reached.shapeAt_eq]
      simp
    have hbase := folderAt_of_cardShapes hnames hsettled hfits hthere
    exact (mem_cards hbase hcards).mpr ⟨loc, hloc⟩

/-! ## Writing -/

/-- A card was written into a folder at a location below that of all cards. -/
structure Wrote (p : Project) (target : Location) (content : ByteArray) (t t' : FileTree) :
    Prop where
  root : t'.FolderAt p.cardRoot (p.base.location ++ [Card.rootFolder])
  free : cardShapes t p.base.location target = none
  file : cardShapes t' p.base.location (target ++ [metadataName]) = some (.file content)
  made : ∀ loc, loc ≠ target ++ [metadataName] →
    cardShapes t' p.base.location loc ≠ cardShapes t p.base.location loc →
      cardShapes t p.base.location loc = none ∧
        cardShapes t' p.base.location loc = some .folder ∧ loc <+: target

/-- Of the folders that are made along a path those below the project's folder lie on the rest of
the path. -/
theorem Settled.isPrefix_of_madeAlong (hsettled : p.Settled t) {names rest : Location}
    (hup : Path.up ∉ names) (hmade : MadeAlong (p.base.below names).segments t t₁)
    (hne : rest ≠ [])
    (hrest : t₁.shapeAt (p.base.location ++ rest) ≠ t.shapeAt (p.base.location ++ rest)) :
    rest <+: names := by
  obtain ⟨hold, -, pre, hpre, hwalk⟩ := hmade _ hrest
  have hlanding := landing_of_walk hwalk
  have hsegments : (p.base.below names).segments = p.base.segments ++ names := rfl
  rw [hsegments] at hpre
  rcases List.prefix_or_prefix_of_prefix hpre (List.prefix_append p.base.segments _) with
    hshort | ⟨post, rfl⟩
  · exfalso
    rcases hsettled with hplain | ⟨home, hbase⟩
    · -- A beginning of the path to the project's folder leads to no place below.
      have hpre' : Path.up ∉ pre := fun hmem => hplain (hshort.subset hmem)
      have hhome : p.base.location = p.base.segments := landing_of_not_mem [] hplain
      rw [landing_of_not_mem [] hpre', List.nil_append, hhome] at hlanding
      have hlength := hshort.length_le
      have hpos := List.length_pos_of_ne_nil hne
      rw [hlanding, List.length_append] at hlength
      omega
    · -- It leads to folders that were there.
      have hkept : ∀ l, t.shapeAt l = some .folder → t₁.shapeAt l = some .folder :=
        fun _ => hmade.kept
      obtain ⟨mid, hmid, hshape⟩ :=
        exists_walk_of_prefix hshort (resolve_eq_ok.mp hbase.resolve).2 hbase.shape
      rw [Except.ok.inj ((walk_of_kept hkept hmid).symm.trans hwalk), hold] at hshape
      exact absurd hshape (by simp)
  · have hpost : post <+: names := List.prefix_append_right_inj _ |>.mp hpre
    rw [landing_append, landing_of_not_mem _ fun hmem => hup (hpost.subset hmem)] at hlanding
    have hsame : post = rest := List.append_cancel_left hlanding
    rwa [hsame] at hpost

/-- Of the folders that were made those below the folder of all cards lead to the target. -/
theorem prefix_of_madeAlong (hsettled : p.Settled t) (hup : Path.up ∉ target)
    (hmade : MadeAlong (p.cardRoot.below target).segments t t₁) {loc : Location}
    (hloc : cardShapes t₁ p.base.location loc ≠ cardShapes t p.base.location loc) :
    loc <+: target := by
  have hsegments : (p.cardRoot.below target).segments =
      (p.base.below (Card.rootFolder :: target)).segments := by
    simp [Path.below, cardRoot, Path.child]
  have hup' : Path.up ∉ Card.rootFolder :: target := by
    intro hmem
    rcases List.mem_cons.mp hmem with heq | hmem
    · exact absurd heq (by decide)
    · exact hup hmem
  exact (List.cons_prefix_cons.mp
    (hsettled.isPrefix_of_madeAlong hup' (hsegments ▸ hmade) (by simp) hloc)).2

/-- A text that was written has no half. -/
theorem ok_of_writeText {q : Path} {text : Text} (h : Disk.writeText q text t = .ok () t') :
    text.isWhole = true ∧ t.writeBytes q (bytesOf text) = .ok t' := by
  unfold Disk.writeText Disk.step at h
  simp only [bind, EStateM.bind] at h
  cases hwrite : t.writeBytes q (bytesOf text) with
  | error e => rw [hwrite] at h; exact absurd h (by simp)
  | ok t₁ =>
    rw [hwrite] at h
    dsimp only at h
    cases hhalves : text.halves? with
    | some halves => rw [hhalves] at h; cases h
    | none =>
      rw [hhalves] at h
      cases h
      exact ⟨Text.halves?_eq_none.mp hhalves, rfl⟩

theorem steps_of_writeCard (h : writeCard parent key fields t = .ok folder t') :
    folder = folderFor parent key ∧ ∃ text t₁, Json.write (.object fields) = .ok text ∧
      text.isWhole = true ∧ Disk.makeFolders folder t = .ok () t₁ ∧
        t₁.writeBytes (folder.child metadataName) (bytesOf text) = .ok t' := by
  unfold writeCard at h
  simp only [bind, EStateM.bind] at h
  cases hmake : Disk.makeFolders (folderFor parent key) t with
  | error e t₁ => rw [hmake] at h; exact absurd h (by simp)
  | ok u t₁ =>
    rw [hmake] at h
    dsimp only at h
    cases htext : Json.write (.object fields) with
    | error e => rw [htext] at h; cases h
    | ok text =>
      rw [htext] at h
      simp only [EStateM.bind] at h
      cases hwrite : Disk.writeText ((folderFor parent key).child metadataName) text t₁ with
      | error e t₂ => rw [hwrite] at h; exact absurd h (by simp)
      | ok u' t₂ =>
        rw [hwrite] at h
        cases h
        obtain ⟨hwhole, hbytes⟩ := ok_of_writeText hwrite
        exact ⟨rfl, text, t₁, rfl, hwhole, hmake, hbytes⟩

/-- What writing a card does, if nothing was there before. -/
theorem wrote_of_writeCard (hsettled : p.Settled t) (hup : Path.up ∉ target)
    (hfree : cardShapes t p.base.location target = none)
    (hfolder : folderFor parent key = p.cardRoot.below target)
    (h : writeCard parent key fields t = .ok folder t') :
    ∃ text, Json.write (.object fields) = .ok text ∧ text.isWhole = true ∧
      Wrote p target (bytesOf text) t t' := by
  obtain ⟨rfl, text, t₁, htext, hwhole, hmake, hwrite⟩ := steps_of_writeCard h
  refine ⟨text, htext, hwhole, ?_⟩
  rw [hfolder] at hmake hwrite
  obtain ⟨hmade, loc₁, hloc₁⟩ := Disk.madeAlong_makeFolders hmake
  have hwhere : loc₁ = p.base.location ++ Card.rootFolder :: target := by
    rw [← hloc₁.location_eq, Path.location_below _ hup, location_cardRoot, List.append_assoc]
    rfl
  subst hwhere
  -- The file goes right into the folder that was made.
  obtain ⟨loc₂, hresolve⟩ : ∃ loc₂, t₁.resolve ((p.cardRoot.below target).child metadataName) =
      .ok loc₂ := by
    cases hr : t₁.resolve ((p.cardRoot.below target).child metadataName) with
    | ok loc₂ => exact ⟨loc₂, rfl⟩
    | error f =>
      unfold writeBytes locate at hwrite
      rw [hr] at hwrite
      exact absurd hwrite (by simp)
  obtain ⟨a, ha, -, rfl⟩ := FolderAt.of_resolve_child (by decide) hresolve
  cases ha.resolve.symm.trans hloc₁.resolve
  obtain ⟨hleaf, hshape⟩ := ProgramFile.writeBytes_ok hresolve hloc₁.shape hwrite
  have hindex : p.base.location ++ Card.rootFolder :: target ++ [metadataName] =
      p.base.location ++ Card.rootFolder :: (target ++ [metadataName]) := by simp
  rw [hindex] at hleaf hshape
  have helse : ∀ loc, loc ≠ target ++ [metadataName] →
      cardShapes t' p.base.location loc = cardShapes t₁ p.base.location loc := by
    intro loc hloc
    unfold cardShapes
    rw [hshape, Function.update_of_ne (by simpa using hloc)]
  refine ⟨?_, hfree, ?_, fun loc hloc hne => ?_⟩
  · have hroot := hloc₁.of_below
    rw [location_cardRoot] at hroot
    exact hroot.of_kept (ProgramFile.folders_kept_of_update hleaf hshape)
  · unfold cardShapes
    rw [hshape, Function.update_self]
  · rw [helse loc hloc] at hne ⊢
    obtain ⟨hold, hnew, -⟩ := hmade _ hne
    exact ⟨hold, hnew, prefix_of_madeAlong hsettled hup hmade hne⟩

end Project

end CardLogic
