import CardLogic.Engine
import CardLogic.Proofs.Corpus.Absence

/-!
Cards that are gone do not come back.

A caller asks for programs and tells of cards that come, change and go, in any order; some
requests fail, and some of these half way.  If a project does not have a key at any of these
moments, then nothing that stands for a card of this key comes into being
(`omitted_throughout`).  The cards that are told of do not matter, with one exception: of
added cards the store must know the keys, for unknown ones would be taken in as they are given.
-/

namespace CardLogic

namespace Project

variable {p : Project} {t : FileTree} {key : String} {P : String → Prop}

/-- All cards that a project gives have other keys than one it does not have. -/
theorem Lacks.allKeys (h : p.Lacks t key) (hne : key ≠ "") (hkeys : p.AllKeys P t) :
    p.AllKeys (fun other => P other ∧ other ≠ key) t := by
  refine ⟨fun cards hcards card hcard => ⟨hkeys.listed cards hcards card hcard, ?_⟩,
    fun keys found hfound x hx card hcard => ⟨hkeys.found keys found hfound x hx card hcard, ?_⟩⟩
  · rintro rfl
    exact h.listed cards hcards (List.mem_map_of_mem hcard)
  · obtain ⟨loc, hloc, hname⟩ := searched_of_found hfound hx hcard
    rw [hname]
    exact h.ne_of_searched hne hloc

theorem lacks_of_names (hnames : key ∉ Entries.names t.entries)
    (hfound : p.findCard? key t = .ok none) : p.Lacks t key := by
  refine ⟨fun cards hcards hmem => ?_, hfound⟩
  obtain ⟨card, hcard, rfl⟩ := List.mem_map.mp hmem
  obtain ⟨loc, hloc, hname⟩ := searched_of_mem_cards hcards hcard
  rw [hname] at hnames
  exact hnames (mem_names_of_searched hloc)

end Project

namespace Engine

open FileTree Corpus

/-- What a caller asks for or tells. -/
inductive Request where
  | generate (project : Path) (key : String)
  | changed (card : Card)
  | removed (tree : CardTree)
  | added (trees : List CardTree)

/-- An action can leave a tree where there was another, done or failed. -/
def MayLeave {α : Type} (action : Action α) (t t' : FileTree) : Prop :=
  ∃ w : Workspace, w.tree = t ∧ (after action w).tree = t'

/-- The corpus of the project that a card belongs to. -/
def Belongs (e : Engine) (t : FileTree) (card : Card) (c : Corpus) : Prop :=
  ∃ base, Project.base? t card.path = .ok (some base) ∧ c = e.corpus base

namespace Request

def Leaves (e : Engine) (t t' : FileTree) : Request → Prop
  | generate project key => MayLeave (e.generate project key) t t'
  | changed card => MayLeave (e.cardChanged card) t t'
  | removed tree => MayLeave (e.cardRemoved tree) t t'
  | added trees => MayLeave (e.cardsAdded trees) t t'

/-- The corpus that a request is about, if there is one. -/
def About (e : Engine) (t : FileTree) (c : Corpus) : Request → Prop
  | generate project _ => c = e.corpus project
  | changed card => e.Belongs t card c
  | removed tree => e.Belongs t tree.card c
  | added trees => ∃ tree ∈ trees.head?, e.Belongs t tree.card c

/-- The cards that are told of as added.  Of other cards the store need not know the keys. -/
def newCards : Request → List CardTree
  | added trees => trees
  | _ => []

/-- A request about the project at a place that does not have a key. -/
structure WithoutKey (home : Location) (key : String) (e : Engine) (t : FileTree)
    (r : Request) : Prop where
  tag : IsTag e.tag
  base : ∀ c, r.About e t c → FolderAt t c.project.base home
  lacks : ∀ c, r.About e t c → c.project.Lacks t key
  keys : ∀ c, r.About e t c → c.project.AllKeys PlainKey t
  known : ∀ c, r.About e t c → ∀ tree ∈ r.newCards, tree.card.key ≠ "" ∧
    c.project.Knows t tree.card.key

end Request

variable {e : Engine} {home : Location} {key : String} {t t' : FileTree} {w : Workspace}
  {c : Corpus}

/-! ## One request -/

/-- Telling which project a card belongs to changes nothing. -/
theorem kept_corpusOf_bind {α : Type} (I : FileTree → Prop) {card : Card} {g : Corpus → Action α}
    (h : I w.tree) (hrest : ∀ c, e.Belongs w.tree card c → I (after (g c) w).tree) :
    I (after (e.corpusOf card >>= g) w).tree := by
  have hcorpus : (after (e.corpusOf card) w).tree = w.tree ∧
      ∀ c w₁, e.corpusOf card w = .ok c w₁ → e.Belongs w.tree card c ∧ w₁ = w := by
    unfold after corpusOf Action.read Belongs
    simp only [bind, EStateM.bind]
    cases Project.base? w.tree card.path with
    | error f => exact ⟨rfl, fun c w₁ hc => absurd hc (by simp)⟩
    | ok found =>
      cases found with
      | none => exact ⟨rfl, fun c w₁ hc => by cases hc⟩
      | some base =>
        refine ⟨rfl, fun c w₁ hc => ?_⟩
        cases hc
        exact ⟨⟨base, rfl, rfl⟩, rfl⟩
  refine Action.kept_bind I (hcorpus.1.symm ▸ h) fun c w₁ hc => ?_
  obtain ⟨hbelongs, rfl⟩ := hcorpus.2 c w₁ hc
  exact hrest c hbelongs

section OfCorpus

variable (htag : IsTag c.tag) (hbase : FolderAt w.tree c.project.base c.home)
  (hstore : c.project.AllKeys (OtherKey key) w.tree)
include htag hbase hstore

/-- A card of any key may be asked for; it is written only if the project has it. -/
theorem omits_after_generateIn (h : Omits c.home key w.tree) (asked : String) :
    Omits c.home key (after (generateIn c asked) w).tree := by
  unfold generateIn
  by_cases hwhole : asked = ""
  · rw [if_pos hwhole, after_bind_pure]
    exact h.after_generate htag hbase ⟨by simp [Call.given], hstore⟩
  · rw [if_neg hwhole]
    refine Action.kept_read_bind _ h fun found hfound => ?_
    cases found with
    | none => exact h
    | some tree =>
      dsimp only
      rw [after_bind_pure]
      obtain ⟨all, hall, hlookup⟩ := Project.ok_of_findCard? hfound
      obtain ⟨before, behind, rfl, -⟩ := List.lookup_eq_some_iff.mp hlookup
      have hgiven : ∀ card ∈ tree.cards, OtherKey key card.key :=
        hstore.found _ _ hall (asked, tree) (by simp)
      refine h.after_generate htag hbase ⟨fun tree' htree' => ?_, hstore⟩
      rw [List.mem_singleton.mp htree']
      exact hgiven

end OfCorpus

namespace Request

variable {r : Request}

theorem WithoutKey.corpus (h : r.WithoutKey home key e t) (hkey : PlainKey key)
    (habout : r.About e t c) :
    c.home = home ∧ FolderAt t c.project.base c.home ∧ c.project.AllKeys (OtherKey key) t := by
  have hbase := h.base c habout
  have hhome : c.home = home := hbase.location_eq
  rw [hhome]
  exact ⟨rfl, hbase, (h.lacks c habout).allKeys hkey.ne_empty (h.keys c habout)⟩

/-- Added cards that the store knows are looked up, and what was found counts. -/
theorem WithoutKey.lookup_ne_none {trees : List CardTree}
    (h : (added trees).WithoutKey home key e t)
    (habout : (added trees).About e t c) {found : List (String × CardTree)}
    (hfound : c.project.findCards (trees.map fun tree => tree.card.key) t = .ok found) :
    ∀ tree ∈ trees, found.lookup tree.card.key ≠ none := by
  intro tree htree
  obtain ⟨hne, hknown⟩ := h.known c habout tree htree
  obtain ⟨tree', hlookup⟩ := hknown.exists_lookup hne (List.mem_map.mpr ⟨tree, htree, rfl⟩) hfound
  rw [hlookup]
  simp

/-- A request leaves a key omitted, whether it comes to its end or fails. -/
theorem omits_of_leaves (h : Omits home key t) (hkey : PlainKey key)
    (hr : r.WithoutKey home key e t)
    (hleaves : r.Leaves e t t') : Omits home key t' := by
  cases r with
  | generate project asked =>
    obtain ⟨w, rfl, rfl⟩ := hleaves
    obtain ⟨rfl, hbase, hstore⟩ := hr.corpus (c := e.corpus project) hkey rfl
    exact omits_after_generateIn hr.tag hbase hstore h asked
  | changed card =>
    obtain ⟨w, rfl, rfl⟩ := hleaves
    refine kept_corpusOf_bind _ h fun c habout => ?_
    obtain ⟨rfl, hbase, hstore⟩ := hr.corpus hkey habout
    obtain ⟨base, -, rfl⟩ := habout
    exact omits_after_generateIn hr.tag hbase hstore h card.key
  | removed tree =>
    obtain ⟨w, rfl, rfl⟩ := hleaves
    refine kept_corpusOf_bind _ h fun c habout => ?_
    obtain ⟨rfl, hbase, -⟩ := hr.corpus hkey habout
    obtain ⟨base, -, rfl⟩ := habout
    exact h.after_removeCards hr.tag hbase
  | added trees =>
    obtain ⟨w, rfl, rfl⟩ := hleaves
    cases trees with
    | nil => exact h
    | cons tree trees =>
      refine kept_corpusOf_bind _ h fun c hbelongs => ?_
      have habout : (added (tree :: trees)).About e w.tree c := ⟨tree, rfl, hbelongs⟩
      obtain ⟨rfl, hbase, hstore⟩ := hr.corpus hkey habout
      obtain ⟨base, -, rfl⟩ := hbelongs
      exact h.after_addCards hr.tag hbase hstore fun _ hfound => hr.lookup_ne_none habout hfound

end Request

/-! ## Any number of requests -/

/-- What a project's place can come to by requests, with anything happening in between outside
of the program folder, if the project does not have a key whenever something is asked. -/
inductive Asked (home : Location) (key : String) (t : FileTree) : FileTree → Prop
  | start : Asked home key t t
  | elsewhere {t₁ t' : FileTree} (before : Asked home key t t₁)
      (same : ∀ loc, programAt home <+: loc → t'.shapeAt loc = t₁.shapeAt loc) :
      Asked home key t t'
  | request {t₁ t' : FileTree} {e : Engine} {r : Request} (before : Asked home key t t₁)
      (without : r.WithoutKey home key e t₁) (leaves : r.Leaves e t₁ t') : Asked home key t t'

/-- Where a card has neither a file nor a row, and its key stays unknown, there is
neither of them after any requests, successful or not. -/
theorem omitted_throughout (hkey : PlainKey key) (h : Asked home key t t')
    (hstart : Omits home key t) : Omits home key t' := by
  induction h with
  | start => exact hstart
  | elsewhere _ same ih => exact ih.congr same
  | request _ without leaves ih => exact Request.omits_of_leaves ih hkey without leaves

/-! ## A small history -/

/-- A project with two cards, where a folder is in the way of the first one's file. -/
def blockedTree : FileTree :=
  ⟨[("p", .folder
      [(".calc", .folder [("cards", .folder [("a.lp", .folder [])])]),
        (".cards", .folder []),
        ("cardroot", .folder
          [("a", .folder [("index.json", .file (bytesOf "{}"))]),
            ("b", .folder [("index.json", .file (bytesOf "{}"))])])])],
    by simp only [Node.OrderedEntries, Node.Ordered]; decide⟩

def blockedEngine : Engine := ⟨Solver.Settings.default, fun _ => .timedOut, "12-34"⟩

def blockedCorpus : Corpus := blockedEngine.corpus (Path.ofString "/p")

def blockedCard : CardTree := .node ⟨"b", Path.ofString "/p/cardroot/b", none⟩ []

def treeLeft {α : Type} (action : Action α) (t : FileTree) : FileTree :=
  (after action ⟨t, [], []⟩).tree

def blockedGenerated : FileTree :=
  treeLeft (blockedEngine.generate (Path.ofString "/p") "") blockedTree

def blockedAdded : FileTree := treeLeft (blockedEngine.cardsAdded [blockedCard]) blockedGenerated

theorem mayLeave_treeLeft {α : Type} (action : Action α) (t : FileTree) :
    MayLeave action t (treeLeft action t) := ⟨⟨t, [], []⟩, rfl, rfl⟩

theorem withoutKey_blocked {r : Request} {t : FileTree}
    (habout : ∀ c, r.About blockedEngine t c → c = blockedCorpus)
    (hbase : FolderAt t blockedCorpus.project.base ["p"])
    (hnames : ∀ n ∈ Entries.names t.entries, PlainKey n ∧ n ≠ "k")
    (hfound : (blockedCorpus.project.findCard? "k" t).toOption.map Option.isSome = some false)
    (hknown : ∀ tree ∈ r.newCards, tree.card.key ≠ "" ∧
      blockedCorpus.project.Knows t tree.card.key) :
    r.WithoutKey ["p"] "k" blockedEngine t := by
  have hnone : blockedCorpus.project.findCard? "k" t = .ok none := by
    cases hfind : blockedCorpus.project.findCard? "k" t with
    | error f => rw [hfind] at hfound; exact absurd hfound (by simp [Except.toOption])
    | ok found => rw [hfind] at hfound; cases found with
      | none => rfl
      | some tree => exact absurd hfound (by simp [Except.toOption])
  refine ⟨by decide, fun c hc => ?_, fun c hc => ?_, fun c hc => ?_, fun c hc => ?_⟩ <;>
    rw [habout c hc]
  · exact hbase
  · exact Project.lacks_of_names (fun hmem => (hnames _ hmem).2 rfl) hnone
  · exact Project.allKeys_of_names fun n hn => (hnames n hn).1
  · exact hknown

theorem eq_of_belongs {t : FileTree} {card : Card} {c : Corpus}
    (hbase : Project.base? t card.path = .ok (some (Path.ofString "/p")))
    (h : blockedEngine.Belongs t card c) : c = blockedCorpus := by
  obtain ⟨base, hsome, rfl⟩ := h
  rw [hbase] at hsome
  cases hsome
  rfl

theorem knows_blocked : blockedCorpus.project.Knows blockedGenerated "b" := by
  have hkeys : (blockedCorpus.project.cards blockedGenerated).toOption.map (List.map Card.key) =
      some ["a", "b"] := by decide +kernel
  cases hcards : blockedCorpus.project.cards blockedGenerated with
  | error f => rw [hcards] at hkeys; exact absurd hkeys (by simp [Except.toOption])
  | ok cards =>
    rw [hcards] at hkeys
    refine Or.inl ⟨cards, hcards, ?_⟩
    rw [Option.some.inj hkeys]
    simp

/-- The first request fails half way, and then a card is added that is known. -/
theorem asked_blocked : Asked ["p"] "k" blockedTree blockedAdded := by
  have hgenerate : (Request.generate (Path.ofString "/p") "").WithoutKey ["p"] "k" blockedEngine
      blockedTree :=
    withoutKey_blocked (fun _ hc => hc) ⟨rfl, by decide +kernel⟩ (by decide +kernel)
      (by decide +kernel) (by simp [Request.newCards])
  have hadd : (Request.added [blockedCard]).WithoutKey ["p"] "k" blockedEngine
      blockedGenerated := by
    refine withoutKey_blocked (fun c hc => ?_) ⟨by decide +kernel, by decide +kernel⟩
      (by decide +kernel) (by decide +kernel) fun tree htree => ?_
    · obtain ⟨tree, htree, hbelongs⟩ := hc
      cases htree
      exact eq_of_belongs (by decide +kernel) hbelongs
    · rw [List.mem_singleton.mp htree]
      exact ⟨by decide, knows_blocked⟩
  exact (Asked.start.request hgenerate (mayLeave_treeLeft _ _)).request hadd (mayLeave_treeLeft _ _)

theorem omitted_throughout_blocked :
    (∃ f w, blockedEngine.generate (Path.ofString "/p") "" ⟨blockedTree, [], []⟩ = .error f w) ∧
      Asked ["p"] "k" blockedTree blockedAdded ∧ PlainKey "k" ∧ Omits ["p"] "k" blockedTree ∧
      blockedAdded.shapeAt ["p", ".calc", "cardtree.lp"] =
        some (.file (bytesOf (ProgramFile.rowsText (["a", "b"].map ProgramFile.cardRow)))) ∧
      Omits ["p"] "k" blockedAdded := by
  have hfails : ∃ f w,
      blockedEngine.generate (Path.ofString "/p") "" ⟨blockedTree, [], []⟩ = .error f w := by
    have hcheck : (match blockedEngine.generate (Path.ofString "/p") "" ⟨blockedTree, [], []⟩ with
        | .ok _ _ => true
        | .error _ _ => false) = false := by decide +kernel
    cases hgenerate : blockedEngine.generate (Path.ofString "/p") "" ⟨blockedTree, [], []⟩ with
    | ok outcome w => rw [hgenerate] at hcheck; exact absurd hcheck (by simp)
    | error f w => exact ⟨f, w, rfl⟩
  have hkey : PlainKey "k" := by decide
  have hstart : Omits ["p"] "k" blockedTree := by
    refine ⟨by decide +kernel, fun content rows hcontent => ?_⟩
    have hnone : blockedTree.shapeAt (sharedSlot ["p"] ProgramFile.cardtreeName).target = none := by
      decide +kernel
    rw [hnone] at hcontent
    exact absurd hcontent (by simp)
  exact ⟨hfails, asked_blocked, hkey, hstart, by decide +kernel,
    omitted_throughout hkey asked_blocked hstart⟩

end Engine

end CardLogic
