import CardLogic.Proofs.Corpus.ReadsFirst
import CardLogic.Proofs.Engine.Absence
import CardLogic.Proofs.Engine.Generation

/-!
Requests read first and write then.

A request that is rejected, or that is about a card of no project, changes nothing.  One that
fails before it writes leaves every file as it was; at most it has made folders for the
program (`reads_first`).  A failure of the writing itself is one that is told of all files together,
or that of a text that cannot be encoded, told alone.  To make its folders, a generation also makes
the folder of a project that is not there, and those above it, and new cards can fail half way for a
null character in a key; so less than this would not hold (`folder_made_on_the_way`).
-/

namespace CardLogic

namespace Project

variable {t : FileTree} {p base : Path}

theorem mem_of_firstBase? {paths : List Path} (h : firstBase? t paths = .ok (some base)) :
    base ∈ paths ∧ isBase t base = .ok true := by
  induction paths with
  | nil => exact absurd h (by simp [firstBase?])
  | cons q paths ih =>
    rw [firstBase?] at h
    cases hq : isBase t q with
    | error e => rw [hq] at h; exact absurd h (by simp)
    | ok b =>
      rw [hq] at h
      cases b with
      | true =>
        cases h
        exact ⟨List.mem_cons_self, hq⟩
      | false =>
        obtain ⟨hmem, hbase⟩ := ih h
        exact ⟨List.mem_cons_of_mem q hmem, hbase⟩

/-- The folder of a project that something belongs to is there. -/
theorem folderAt_of_base? (h : base? t p = .ok (some base)) :
    ∃ home, t.FolderAt base.absolute home := by
  obtain ⟨hmem, hbase⟩ := mem_of_firstBase? h
  have habsolute : base.absolute = base := by
    obtain ⟨n, -, rfl⟩ := List.mem_map.mp hmem
    have hanchor : p.absolute.anchor ≠ .none := by
      unfold Path.absolute
      by_cases hnone : p.anchor = .none
      · rw [if_pos hnone]
        simp
      · rw [if_neg hnone]
        exact hnone
    exact if_neg hanchor
  have hfolder : t.isFolder (base.child resourcesFolder) = .ok true := by
    unfold isBase at hbase
    cases hfolder : t.isFolder (base.child resourcesFolder) with
    | error e => rw [hfolder] at hbase; exact absurd hbase (by simp)
    | ok b =>
      rw [hfolder] at hbase
      cases b with
      | true => rfl
      | false => exact absurd hbase (by simp)
  obtain ⟨loc, hloc⟩ := FileTree.isFolder_eq_true.mp hfolder
  obtain ⟨home, hhome, -⟩ := FileTree.FolderAt.of_child (by decide) hloc
  rw [habsolute]
  exact ⟨home, hhome⟩

end Project

namespace Engine

open FileTree Corpus

/-- How a request ends: with an answer that has a code, without one, or in failure. -/
inductive Ending where
  | answered (code : Nat)
  | returned
  | failed (f : Failure)
  deriving DecidableEq

/-- How an action ends, and the tree it leaves. -/
def endOf {α : Type} (how : α → Ending) (action : Action α) (w : Workspace) : Ending × FileTree :=
  match action w with
  | .ok a w' => (how a, w'.tree)
  | .error f w' => (.failed f, w'.tree)

def codeOf {α : Type} (outcome : Outcome α) : Ending := .answered outcome.code

namespace Request

def ends (e : Engine) (w : Workspace) : Request → Ending × FileTree
  | generate project key => endOf codeOf (e.generate project key) w
  | changed card => endOf codeOf (e.cardChanged card) w
  | removed tree => endOf (fun _ => .returned) (e.cardRemoved tree) w
  | added trees => endOf (fun _ => .returned) (e.cardsAdded trees) w

/-- A failure of the writing itself.  Keys of cards that are told of may have null characters,
and a path with one fails on its own. -/
def OfWriting : Request → Failure → Prop
  | added _, f => f.OfWriting ∨ ∃ e, f = .file e ∧ e.fault = .nullCharacter
  | _, f => f.OfWriting

/-- The folders that a request may make before it writes.  Only a caller who names a project may
name one whose folder is missing. -/
def MayMake (c : Corpus) (t : FileTree) (loc : Location) : Request → Prop
  | generate _ _ => c.MayMake t loc
  | changed _ => loc = c.folder.location ∨ loc = c.cardsFolder.location
  | _ => False

/-- Requests that only go on where there is a corpus. -/
def NeedsCorpus : Request → Prop
  | removed _ => True
  | added _ => True
  | _ => False

/-- Nothing was done before all was read: of a request that writes nothing, only folders are
left. -/
structure ReadFirst (e : Engine) (t : FileTree) (r : Request) (x : Ending × FileTree) : Prop where
  rejected : x.1 = .answered 400 → x.2 = t
  noProject : ∀ key path, x.1 = .failed (.noProject key path) → x.2 = t
  failed : ∀ f, x.1 = .failed f → ¬ r.OfWriting f → ∀ loc, x.2.shapeAt loc ≠ t.shapeAt loc →
    t.shapeAt loc = none ∧ x.2.shapeAt loc = some .folder ∧
      ∃ c, r.About e t c ∧ r.MayMake c t loc

end Request

variable {e : Engine} {c : Corpus} {w : Workspace} {t t' : FileTree} {f : Failure} {r : Request}

theorem tree_endOf {α : Type} (how : α → Ending) (action : Action α) (w : Workspace) :
    (endOf how action w).2 = (after action w).tree := by
  unfold endOf after
  cases action w <;> rfl

theorem endOf_read_of_ok {α β : Type} {how : β → Ending} {read : FileTree → Except Failure α}
    {g : α → Action β} {a : α} (h : read w.tree = .ok a) :
    endOf how (Action.read read >>= g) w = endOf how (g a) w := by
  unfold endOf
  rw [Action.bind_of_ok (Action.read_of_ok h)]

theorem endOf_read_of_error {α β : Type} {how : β → Ending} {read : FileTree → Except Failure α}
    {g : α → Action β} (h : read w.tree = .error f) :
    endOf how (Action.read read >>= g) w = (.failed f, w.tree) := by
  unfold endOf Action.read
  simp only [bind, EStateM.bind, h]

/-- What is asked of the project of a card ends at once if there is none. -/
theorem endOf_corpusOf_bind {α : Type} (how : α → Ending) (card : Card) (g : Corpus → Action α)
    (w : Workspace) :
    (∃ ending, endOf how (e.corpusOf card >>= g) w = (ending, w.tree)) ∨
      ∃ c, e.Belongs w.tree card c ∧ c.tag = e.tag ∧
        endOf how (e.corpusOf card >>= g) w = endOf how (g c) w := by
  unfold endOf corpusOf Action.read Belongs
  simp only [bind, EStateM.bind]
  cases Project.base? w.tree card.path with
  | error f => exact Or.inl ⟨_, rfl⟩
  | ok found =>
    cases found with
    | none => exact Or.inl ⟨_, rfl⟩
    | some base => exact Or.inr ⟨e.corpus base, ⟨base, rfl, rfl⟩, rfl, rfl⟩

theorem Request.readFirst_of_same {ending : Ending} : r.ReadFirst e t (ending, t) :=
  ⟨fun _ => rfl, fun _ _ _ => rfl, fun _ _ _ _ hloc => absurd rfl hloc⟩

theorem Request.readFirst_of_done {ending : Ending} (hcode : ending ≠ .answered 400)
    (hends : ∀ f, ending ≠ .failed f) : r.ReadFirst e t (ending, t') :=
  ⟨fun h => absurd h hcode, fun _ _ h => absurd h (hends _), fun f h => absurd h (hends f)⟩

theorem Request.readFirst_of_failed (hsame : ∀ key path, f = .noProject key path → t' = t)
    (hfailed : ¬ r.OfWriting f → ∀ loc, t'.shapeAt loc ≠ t.shapeAt loc →
      t.shapeAt loc = none ∧ t'.shapeAt loc = some .folder ∧
        ∃ c, r.About e t c ∧ r.MayMake c t loc) :
    r.ReadFirst e t (.failed f, t') := by
  refine ⟨fun h => absurd h (by simp), fun key path h => ?_, fun f' h => ?_⟩
  · cases h
    exact hsame key path rfl
  · cases h
    exact hfailed

/-! ## Generating -/

theorem legalName_cardsInScope {scope : Option CardTree} {cards : List Card}
    (hnames : t.LegalNames) (hscope : ∀ tree ∈ scope, ∀ card ∈ tree.cards, LegalName card.key)
    (h : c.cardsInScope scope t = .ok cards) : ∀ card ∈ cards, LegalName card.key := by
  cases scope with
  | none => exact fun card hcard => Project.legalName_of_mem_cards hnames h hcard
  | some tree =>
    exact keys_subtree (fun _ _ _ => hscope tree rfl) (Project.allKeys_of_shapeAt hnames) h

/-- A generation of legal keys that fails has made folders at most, unless it came to write. -/
structure FailedUnwritten (c : Corpus) (t t' : FileTree) (f : Failure) : Prop where
  noProject : ∀ key path, f = .noProject key path → t' = t
  made : ¬ f.OfWriting → MadeAlong c.cardsFolder.segments t t'

theorem endOf_generateScope {scope : Option CardTree} (htag : IsTag c.tag)
    (hnames : w.tree.LegalNames)
    (hscope : ∀ tree ∈ scope, ∀ card ∈ tree.cards, LegalName card.key) :
    (∃ t', endOf codeOf (do return .done (← c.generate scope)) w = (.answered 200, t')) ∨
      ∃ f t', endOf codeOf (do return .done (← c.generate scope)) w = (.failed f, t') ∧
        FailedUnwritten c w.tree t' f := by
  unfold endOf
  simp only [bind, EStateM.bind]
  cases hrun : c.generate scope w with
  | ok paths w' => exact Or.inl ⟨w'.tree, rfl⟩
  | error f w' =>
    refine Or.inr ⟨f, w'.tree, rfl, fun key path hf => ?_, fun hf => ?_⟩
    · subst hf
      exact tree_of_generate_noProject hrun
    · exact madeAlong_of_generate htag
        (fun _ hcards => legalName_cardsInScope hnames hscope hcards) hrun hf

/-- A generation that is asked for ends with nothing done, or is answered, or fails. -/
theorem endOf_generateIn (htag : IsTag c.tag) (hnames : w.tree.LegalNames) (key : String) :
    (∃ ending, endOf codeOf (generateIn c key) w = (ending, w.tree)) ∨
      (∃ t', endOf codeOf (generateIn c key) w = (.answered 200, t')) ∨
      ∃ f t', endOf codeOf (generateIn c key) w = (.failed f, t') ∧
        FailedUnwritten c w.tree t' f := by
  unfold generateIn
  by_cases hwhole : key = ""
  · rw [if_pos hwhole]
    exact Or.inr (endOf_generateScope htag hnames (by simp))
  · rw [if_neg hwhole]
    cases hfind : c.project.findCard? key w.tree with
    | error f => exact Or.inl ⟨.failed f, endOf_read_of_error hfind⟩
    | ok found =>
      rw [endOf_read_of_ok hfind]
      cases found with
      | none => exact Or.inl ⟨.answered 400, rfl⟩
      | some tree =>
        obtain ⟨all, hall, hlookup⟩ := Project.ok_of_findCard? hfind
        obtain ⟨before, behind, rfl, -⟩ := List.lookup_eq_some_iff.mp hlookup
        have hlegal : ∀ card ∈ tree.cards, LegalName card.key :=
          (Project.allKeys_of_shapeAt hnames).found _ _ hall (key, tree) (by simp)
        exact Or.inr (endOf_generateScope htag hnames (by simpa using hlegal))

/-- What a generation has done when it fails, for a request that is told what it may make. -/
theorem readFirst_of_generateIn (htag : IsTag c.tag) (hnames : w.tree.LegalNames) (key : String)
    (habout : r.About e w.tree c) (hwriting : ∀ f : Failure, f.OfWriting → r.OfWriting f)
    (hmake : ∀ loc, c.MayMake w.tree loc → r.MayMake c w.tree loc) :
    r.ReadFirst e w.tree (endOf codeOf (generateIn c key) w) := by
  rcases endOf_generateIn htag hnames key with ⟨ending, hend⟩ | ⟨t', hend⟩ | ⟨f, t', hend, hfailed⟩
  · rw [hend]
    exact Request.readFirst_of_same
  · rw [hend]
    exact Request.readFirst_of_done (by simp) (by simp)
  · rw [hend]
    refine Request.readFirst_of_failed hfailed.noProject fun hf loc hloc => ?_
    obtain ⟨hnone, hfolder, hwhere⟩ :=
      mayMake_of_madeAlong (hfailed.made fun hw => hf (hwriting f hw)) hloc
    exact ⟨hnone, hfolder, c, habout, hmake loc hwhere⟩

/-! ## All requests -/

theorem Belongs.unique {card : Card} {c' : Corpus} (h : e.Belongs t card c)
    (h' : e.Belongs t card c') : c' = c := by
  obtain ⟨base, hbase, rfl⟩ := h
  obtain ⟨base', hbase', rfl⟩ := h'
  cases hbase.symm.trans hbase'
  rfl

/-- What is done with the corpus of a card's project, if it is known which one this is. -/
theorem kept_of_belongs {α : Type} (I : FileTree → Prop) {card : Card} {g : Corpus → Action α}
    (hbelongs : e.Belongs w.tree card c) (h : I w.tree) (hrest : I (after (g c) w).tree) :
    I (after (e.corpusOf card >>= g) w).tree := by
  refine kept_corpusOf_bind I h fun c' hc' => ?_
  rw [Belongs.unique hbelongs hc']
  exact hrest

theorem Request.readFirst_added {trees : List CardTree} (htag : IsTag e.tag) :
    (added trees).ReadFirst e w.tree ((added trees).ends e w) := by
  cases trees with
  | nil => exact readFirst_of_same
  | cons tree trees =>
    show (added (tree :: trees)).ReadFirst e w.tree (endOf (fun _ => .returned)
      (e.corpusOf tree.card >>= fun c => c.addCards (tree :: trees)) w)
    rcases endOf_corpusOf_bind (fun _ => .returned) tree.card
      (fun c => c.addCards (tree :: trees)) w with ⟨ending, hend⟩ | ⟨c, -, htag', hend⟩
    · rw [hend]
      exact readFirst_of_same
    · rw [hend]
      unfold endOf
      cases hadd : c.addCards (tree :: trees) w with
      | ok paths w' => exact readFirst_of_done (by simp) (by simp)
      | error f w' =>
        rcases error_of_addCards (htag' ▸ htag) hadd with hsame | hwriting
        · dsimp only
          rw [hsame]
          exact readFirst_of_same
        · refine readFirst_of_failed (fun key path hf => ?_) fun hf => absurd hwriting hf
          subst hf
          exact absurd hwriting (by simp [Failure.OfWriting])

theorem Request.readFirst (htag : IsTag e.tag) (hnames : w.tree.LegalNames)
    (hr : ∀ tree, r ≠ .removed tree) : r.ReadFirst e w.tree (r.ends e w) := by
  cases r with
  | generate project key =>
    exact readFirst_of_generateIn (c := e.corpus project) htag hnames key rfl
      (fun _ hf => hf) fun _ hloc => hloc
  | changed card =>
    show (changed card).ReadFirst e w.tree (endOf codeOf
      (e.corpusOf card >>= fun c => generateIn c card.key) w)
    rcases endOf_corpusOf_bind codeOf card (fun c => generateIn c card.key) w with
      ⟨ending, hend⟩ | ⟨c, hbelongs, htag', hend⟩
    · rw [hend]
      exact readFirst_of_same
    · rw [hend]
      refine readFirst_of_generateIn (htag' ▸ htag) hnames card.key hbelongs (fun _ hf => hf) ?_
      intro loc hloc
      obtain ⟨base, hbase, rfl⟩ := hbelongs
      rcases hloc with hloc | hloc | ⟨hmissing, -⟩
      · exact Or.inl hloc
      · exact Or.inr hloc
      · exact absurd (Project.folderAt_of_base? hbase) hmissing
  | removed tree => exact absurd rfl (hr tree)
  | added trees => exact readFirst_added htag

/-- Without a corpus nothing is taken out and nothing taken in. -/
theorem Request.same_of_not_isThere (hneeds : r.NeedsCorpus) (habout : r.About e w.tree c)
    (hthere : c.isThere w.tree ≠ .ok true) : (r.ends e w).2 = w.tree := by
  cases r with
  | generate project key => exact absurd hneeds id
  | changed card => exact absurd hneeds id
  | removed tree =>
    unfold ends
    rw [tree_endOf]
    exact kept_of_belongs (fun t => t = w.tree) habout rfl
      (same_of_removeCards hthere)
  | added trees =>
    obtain ⟨tree, htree, hbelongs⟩ := habout
    cases trees with
    | nil => exact absurd htree (by simp)
    | cons first trees =>
      cases htree
      unfold ends
      rw [tree_endOf]
      exact kept_of_belongs (fun t => t = w.tree) hbelongs rfl
        (same_of_addCards hthere)

/-- A request that does not come to write leaves all files as they were, and one that needs a
corpus does nothing without one. -/
theorem reads_first (htag : IsTag e.tag) (hnames : w.tree.LegalNames) :
    ((∀ tree, r ≠ .removed tree) → r.ReadFirst e w.tree (r.ends e w)) ∧
      ∀ c, r.NeedsCorpus → r.About e w.tree c →
        (w.tree.isFolder c.folder ≠ .ok true ∨ w.tree.isFile c.cardtreePath ≠ .ok true) →
          (r.ends e w).2 = w.tree :=
  ⟨Request.readFirst htag hnames, fun _ hneeds habout hnot =>
    Request.same_of_not_isThere hneeds habout (not_isThere hnot)⟩

/-- A project with one card, whose rows are no text, and no folder for the files of cards. -/
def unreadableTree : FileTree :=
  ⟨[("p", .folder
      [(".calc", .folder [("cardtree.lp", .file ⟨#[0xff]⟩)]),
        ("cardroot", .folder [("a", .folder [("index.json", .file (bytesOf "{}"))])])])],
    by simp only [Node.OrderedEntries, Node.Ordered]; decide⟩

theorem reads_first_unreadable :
    ((Request.generate (Path.ofString "/p") "a").ends smallEngine ⟨unreadableTree, [], []⟩).1 =
        .failed (.notText (smallEngine.corpus (Path.ofString "/p")).cardtreePath) ∧
      (Request.generate (Path.ofString "/p") "a").ReadFirst smallEngine unreadableTree
        ((Request.generate (Path.ofString "/p") "a").ends smallEngine
          ⟨unreadableTree, [], []⟩) := by
  have hnames : unreadableTree.LegalNames := legalNames_of_names (by decide)
  have hfirst := (reads_first (r := .generate (Path.ofString "/p") "a") (e := smallEngine)
    (w := ⟨unreadableTree, [], []⟩) (by decide) hnames).1 (by simp)
  exact ⟨by decide +kernel, hfirst⟩

/-! ## More than the folders of the program -/

/-- One file, and no project. -/
def strayTree : FileTree :=
  ⟨[("file", .file (bytesOf ""))], by simp only [Node.OrderedEntries, Node.Ordered]; decide⟩

def strayRequest : Request := .generate (Path.ofString "/missing/../file") ""

/-- A project with a corpus of no cards. -/
def bareTree : FileTree :=
  ⟨[("p", .folder
      [(".calc", .folder [("cardtree.lp", .file (bytesOf ""))]),
        (".cards", .folder []), ("cardroot", .folder [])])],
    by simp only [Node.OrderedEntries, Node.Ordered]; decide⟩

def nullRequest : Request := .added [.node ⟨"\x00", Path.ofString "/p/cardroot/x", none⟩ []]

/-- A generation fails where a file stands, and a folder on the way to it has been made; new cards
fail for a null character, and the rows have been written. -/
theorem folder_made_on_the_way :
    (strayRequest.ends smallEngine ⟨strayTree, [], []⟩).1 =
        .failed (.file ⟨.alreadyExists, Path.ofString "/missing/../file", none⟩) ∧
      strayTree.shapeAt ["missing"] = none ∧
      (strayRequest.ends smallEngine ⟨strayTree, [], []⟩).2.shapeAt ["missing"] = some .folder ∧
      (∃ e, (nullRequest.ends smallEngine ⟨bareTree, [], []⟩).1 = .failed (.file e) ∧
        e.fault = .nullCharacter) ∧
      bareTree.shapeAt ["p", ".calc", "cardtree.lp"] = some (.file (bytesOf "")) ∧
      (nullRequest.ends smallEngine ⟨bareTree, [], []⟩).2.shapeAt ["p", ".calc", "cardtree.lp"] =
        some (.file (bytesOf (ProgramFile.rowsText [ProgramFile.cardRow "\x00"]))) := by
  refine ⟨by decide +kernel, by decide +kernel, by decide +kernel, ?_, by decide +kernel,
    by decide +kernel⟩
  refine ⟨⟨.nullCharacter, ProgramFile.temporaryPath smallEngine.tag
    ((smallEngine.corpus (Path.ofString "/p")).cardFile ⟨"\x00", Path.ofString "/p", none⟩), none⟩,
    ?_, rfl⟩
  decide +kernel

end Engine

end CardLogic
