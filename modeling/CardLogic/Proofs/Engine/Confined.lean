import CardLogic.Proofs.Corpus.Confined
import CardLogic.Proofs.Engine.Generation
import CardLogic.Proofs.Engine.ReadsFirst
import CardLogic.Proofs.Project.Agreement

/-!
Which files telling of cards can touch.

When a caller tells of a card that has changed, of one that is gone or of new ones, then the files
for cards are brought up to date.  What all cards share and what the project holds itself is as
it was, also if something failed (`Request.confined_to_cards`).  This rests on two things.  A card
that has changed must have a key, for the empty text asks for everything.  And a key must be a
single segment: the keys of the store are, since they are names of folders, but a card that the
store does not know is taken as it is given.
-/

namespace CardLogic.Engine

open FileTree Corpus Project

variable {e : Engine} {c : Corpus} {t t' : FileTree} {w : Workspace} {r : Request}

namespace Request

/-- Telling of cards, which is anything but asking for a program. -/
def IsEvent : Request → Prop
  | generate _ _ => False
  | _ => True

/-- The trees of cards of which what is given may count. -/
def told : Request → List CardTree
  | removed tree => [tree]
  | added trees => trees
  | _ => []

/-- A card of the key is told of below one that the store does not have. -/
def Brings (c : Corpus) (t : FileTree) (r : Request) (key : String) : Prop :=
  ∃ tree ∈ r.told, ¬ c.project.HasFolder t tree.card.key ∧ ∃ card ∈ tree.cards, card.key = key

/-- The keys that an event may write or remove a file for. -/
def Meets (c : Corpus) (t : FileTree) (r : Request) (key : String) : Prop :=
  c.project.HasFolder t key ∨ r.Brings c t key

/-- Of a tree that was not found, the store does not have the card. -/
theorem meets_of_lookup {tree : CardTree} {keys : List String} {found : List (String × CardTree)}
    (hnames : t.LegalNames) (htold : tree ∈ r.told) (hkey : tree.card.key ∈ keys)
    (hfound : c.project.findCards keys t = .ok found)
    (hlookup : found.lookup tree.card.key = none) :
    ∀ card ∈ tree.cards, r.Meets c t card.key := by
  intro card hcard
  refine Or.inr ⟨tree, htold, fun hfolder => ?_, card, hcard, rfl⟩
  obtain ⟨tree', hsome⟩ := hfolder.exists_lookup (hfolder.legalName hnames).ne_empty hkey hfound
  rw [hlookup] at hsome
  exact absurd hsome (by simp)

theorem allKeys_meets (c : Corpus) (t : FileTree) (r : Request) :
    c.project.AllKeys (r.Meets c t) t := by
  have hkeys := allKeys_hasFolder c.project t
  exact ⟨fun cards hcards card hcard => Or.inl (hkeys.listed cards hcards card hcard),
    fun keys found hfound x hx card hcard => Or.inl (hkeys.found keys found hfound x hx card hcard)⟩

/-! ## One event -/

theorem onlyOfCards_changed {card : Card} (hne : card.key ≠ "") :
    c.OnlyOfCards ((changed card).Meets c w.tree) w.tree
      (after (generateIn c card.key) w).tree := by
  unfold generateIn
  rw [if_neg hne]
  refine Action.kept_read_bind _ (Confined.refl _ _ _) fun found hfound => ?_
  cases found with
  | none => exact Confined.refl _ _ _
  | some tree =>
    dsimp only
    rw [after_bind_pure]
    have hstore := allKeys_meets c w.tree (changed card)
    exact onlyOfCards_generate (hstore.of_findCard? hfound) hstore

theorem onlyOfCards_of_leaves (hnames : t.LegalNames) (hevent : r.IsEvent)
    (hne : ∀ card, r = changed card → card.key ≠ "") (habout : r.About e t c)
    (hleaves : r.Leaves e t t') : c.OnlyOfCards (r.Meets c t) t t' := by
  cases r with
  | generate project key => exact absurd hevent id
  | changed card =>
    obtain ⟨w, rfl, rfl⟩ := hleaves
    exact kept_of_belongs (c.OnlyOfCards _ w.tree) habout (Confined.refl _ _ _)
      (onlyOfCards_changed (hne card rfl))
  | removed tree =>
    obtain ⟨w, rfl, rfl⟩ := hleaves
    refine kept_of_belongs (c.OnlyOfCards _ w.tree) habout (Confined.refl _ _ _) ?_
    refine onlyOfCards_removeCards (fun found hfound hlookup => ?_) (allKeys_meets c _ _)
    exact meets_of_lookup hnames List.mem_cons_self List.mem_cons_self hfound hlookup
  | added trees =>
    obtain ⟨w, rfl, rfl⟩ := hleaves
    cases trees with
    | nil => exact Confined.refl _ _ _
    | cons tree trees =>
      obtain ⟨first, hfirst, hbelongs⟩ := habout
      cases hfirst
      refine kept_of_belongs (c.OnlyOfCards _ w.tree) hbelongs (Confined.refl _ _ _) ?_
      refine onlyOfCards_addCards (fun found hfound other hother hlookup => ?_)
        (allKeys_meets c _ _)
      exact meets_of_lookup hnames hother (List.mem_map.mpr ⟨other, hother, rfl⟩) hfound hlookup

/-- Telling of cards, done or failed, touches no files but the file of rows and the files of
cards the store has or the caller brings.  If no key that the caller brings has a slash, then
these are the file of rows and files directly in the folder of the cards' files; besides, under the
temporary name of the file of rows, a file that an earlier writer left behind may be gone or an
empty one be there. -/
theorem confined_to_cards (hnames : t.LegalNames) (hevent : r.IsEvent)
    (hne : ∀ card, r = changed card → card.key ≠ "") (habout : r.About e t c)
    (hleaves : r.Leaves e t t') :
    c.OnlyOfCards (r.Meets c t) t t' ∧
      ((∀ key, r.Brings c t key → '/' ∉ key.toList) →
        Confined c.Inside (· = (c.temporaryOf c.cardtreePath).location) t t') := by
  have honly := onlyOfCards_of_leaves hnames hevent hne habout hleaves
  refine ⟨honly, fun hbrings => honly.inside fun key hkey => ?_⟩
  rcases hkey with hfolder | hkey
  · exact (hfolder.legalName hnames).no_slash
  · exact hbrings key hkey

end Request

/-- A project with one card and a corpus, where the file of the shared rules has another text. -/
def keptTree : FileTree :=
  ⟨[("p", .folder
      [(".calc", .folder
        [("base.lp", .file (bytesOf "base")),
          ("cards", .folder [("a.lp", .file (bytesOf "a"))]),
          ("cardtree.lp", .file (bytesOf "#include \"cards/a.lp\".\n"))]),
        (".cards", .folder []),
        ("cardroot", .folder [("a", .folder [("index.json", .file (bytesOf "{}"))])])])],
    by simp only [Node.OrderedEntries, Node.Ordered]; decide⟩

def keptCorpus : Corpus := smallEngine.corpus (Path.ofString "/p")

/-- A card of a key, in the folder of the one card there is. -/
def strayCard (key : String) : CardTree :=
  .node ⟨key, Path.ofString "/p/cardroot/a", some []⟩ []

theorem belongs_strayCard (key : String) :
    smallEngine.Belongs keptTree (strayCard key).card keptCorpus := by
  have hbase : Project.base? keptTree (Path.ofString "/p/cardroot/a") =
      .ok (some (Path.ofString "/p")) := by decide +kernel
  exact ⟨Path.ofString "/p", hbase, rfl⟩

/-- A card that the store does not know is taken in, and nothing else is touched. -/
theorem confined_to_cards_new :
    (treeLeft (smallEngine.cardsAdded [strayCard "b"]) keptTree).shapeAt
        ["p", ".calc", "cards", "b.lp"] = some (.file (bytesOf "\n% b\n")) ∧
      Confined keptCorpus.Inside (· = (keptCorpus.temporaryOf keptCorpus.cardtreePath).location)
        keptTree (treeLeft (smallEngine.cardsAdded [strayCard "b"]) keptTree) := by
  have hnames : keptTree.LegalNames := legalNames_of_names (by decide)
  obtain ⟨-, hinside⟩ := Request.confined_to_cards (r := .added [strayCard "b"]) hnames trivial
    (by simp) ⟨_, rfl, belongs_strayCard "b"⟩ (mayLeave_treeLeft _ _)
  refine ⟨by decide +kernel, hinside ?_⟩
  rintro key ⟨tree, htree, -, card, hcard, rfl⟩
  rw [List.mem_singleton.mp htree] at hcard
  rw [List.mem_singleton.mp hcard]
  decide

/-- The file of the shared rules is overwritten for a new card and removed for a card that is
gone, where the keys lead there, and a main file is written for a changed card without a key. -/
theorem outside_of_cards :
    ¬ keptCorpus.Inside ["p", ".calc", "base.lp"] ∧ ¬ keptCorpus.Inside ["p", ".calc", "main.lp"] ∧
      keptTree.shapeAt ["p", ".calc", "base.lp"] = some (.file (bytesOf "base")) ∧
      keptTree.shapeAt ["p", ".calc", "main.lp"] = none ∧
      smallEngine.Belongs keptTree (strayCard "../base").card keptCorpus ∧
      smallEngine.Belongs keptTree (strayCard "").card keptCorpus ∧
      (treeLeft (smallEngine.cardsAdded [strayCard "../base"]) keptTree).shapeAt
        ["p", ".calc", "base.lp"] = some (.file (bytesOf "\n% ../base\n")) ∧
      (treeLeft (smallEngine.cardRemoved (strayCard "../base")) keptTree).shapeAt
        ["p", ".calc", "base.lp"] = none ∧
      (treeLeft (smallEngine.cardChanged (strayCard "").card) keptTree).shapeAt
        ["p", ".calc", "main.lp"] = some (.file (bytesOf ProgramFile.mainText)) := by
  have houtside : ∀ n, n ≠ ProgramFile.cardtreeName → ¬ keptCorpus.Inside ["p", ".calc", n] := by
    rintro n hn (hcardtree | ⟨m, hcards⟩)
    · have hwhere : keptCorpus.cardtreePath.location = ["p", ".calc", ProgramFile.cardtreeName] :=
        by decide +kernel
      rw [hwhere] at hcardtree
      exact hn (by simpa using hcardtree)
    · have hwhere : keptCorpus.cardsFolder.location = ["p", ".calc", "cards"] := by decide +kernel
      rw [hwhere] at hcards
      exact absurd (congrArg List.length hcards) (by simp)
  exact ⟨houtside _ (by decide), houtside _ (by decide), by decide +kernel, by decide +kernel,
    belongs_strayCard _, belongs_strayCard _, by decide +kernel, by decide +kernel,
    by decide +kernel⟩

end CardLogic.Engine
