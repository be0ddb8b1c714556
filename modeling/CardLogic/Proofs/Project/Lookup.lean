import CardLogic.Project.Lookup
import CardLogic.Proofs.Project.Subtree
import CardLogic.Text.Lines
import Mathlib.Data.List.Nodup

/-!
Finding cards in a regular store.

A store is regular if every file of fields belongs to a card that the listing reaches and
keys are not repeated.  Then the look-up, which goes over all folders, and the listing,
which goes down from card to card, find the same cards: what is found for a key is the
tree of the one card of that key (`treeOf_of_findCards`), and nothing is found for a key
that no card has (`lookup_eq_none`).  To find the cards that are listed it is enough that no
two folders with a file of fields have one name (`findCard?_of_mem_cards`).
-/

namespace CardLogic.Project

open Entries

/-- A store in which every file of fields is a card's and every key is one card's. -/
structure Regular (p : Project) (home : Location) (cards : List Card) (t : FileTree) : Prop where
  names : t.LegalNames
  base : t.FolderAt p.base home
  readCards : p.cards t = .ok cards
  fields : ∀ loc, cardShapes t home (loc ++ [metadataName]) ≠ none →
    HoldsFields (cardShapes t home) loc ∧ ∃ card ∈ cards, card.path = p.cardRoot.below loc
  keys : (cards.map Card.key).Nodup
  oneLine : ∀ card ∈ cards, ∀ ch ∈ card.key.toList, Text.isBoundary ch = false

/-- No two folders that a look-up goes over have one name. -/
def FoundOnce (p : Project) (home : Location) (t : FileTree) : Prop :=
  ∀ loc loc', cardShapes t home (loc ++ [metadataName]) ≠ none →
    cardShapes t home (loc' ++ [metadataName]) ≠ none →
      (p.cardRoot.below loc).name = (p.cardRoot.below loc').name → loc = loc'

/-- The tree of a card: the cards at and below it, in the order of the listing. -/
structure TreeOf (cards : List Card) (card : Card) (tree : CardTree) : Prop where
  key : tree.card.key = card.key
  isPart : tree.cards <:+: cards
  mem_cards : ∀ other, other ∈ tree.cards ↔ other ∈ cards ∧ card.path.IsBelow other.path

/-! ## The folders that are gone over -/

theorem mem_cardFoldersIn {path : Path} {whole : Node} {es : Entries} {f : Path × Node} :
    f ∈ cardFoldersIn path whole es ↔
      ((∃ d, (metadataName, d) ∈ es) ∧ f = (path, whole)) ∨
        ∃ n d, (n, d) ∈ es ∧ f ∈ cardFolders (path.child n) d := by
  induction es with
  | nil => simp [cardFoldersIn]
  | cons e es ih =>
    obtain ⟨m, d⟩ := e
    rw [cardFoldersIn, List.mem_append, List.mem_append, ih]
    constructor
    · intro hmem
      rcases hmem with (h | h) | ⟨⟨d', hd'⟩, h⟩ | ⟨n, d', hn, h⟩
      · by_cases hm : m = metadataName
        · rw [if_pos hm] at h
          exact Or.inl ⟨⟨d, by simp [hm]⟩, List.mem_singleton.mp h⟩
        · rw [if_neg hm] at h
          exact absurd h (by simp)
      · exact Or.inr ⟨m, d, List.mem_cons_self, h⟩
      · exact Or.inl ⟨⟨d', List.mem_cons_of_mem _ hd'⟩, h⟩
      · exact Or.inr ⟨n, d', List.mem_cons_of_mem _ hn, h⟩
    · intro hmem
      rcases hmem with ⟨⟨d', hd'⟩, rfl⟩ | ⟨n, d', hn, h⟩
      · rcases List.mem_cons.mp hd' with he | hd'
        · cases he
          exact Or.inl (Or.inl (by simp))
        · exact Or.inr (Or.inl ⟨⟨d', hd'⟩, rfl⟩)
      · rcases List.mem_cons.mp hn with he | hn
        · cases he
          exact Or.inl (Or.inr h)
        · exact Or.inr (Or.inr ⟨n, d', hn, h⟩)

/-- A look-up goes over the folders with an entry of the name of a field file. -/
theorem mem_cardFolders {path : Path} {es : Entries} (hes : Node.OrderedEntries es) {q : Path}
    {d : Node} :
    (q, d) ∈ cardFolders path (.folder es) ↔
      ∃ loc, q = path.below loc ∧ find es loc = some d ∧
        shapeAt es (loc ++ [metadataName]) ≠ none := by
  rw [cardFolders, mem_cardFoldersIn]
  have htop : shapeAt es ([] ++ [metadataName]) ≠ none ↔ ∃ d, (metadataName, d) ∈ es := by
    rw [List.nil_append, shapeAt_singleton, Ne, Option.map_eq_none_iff]
    constructor
    · intro hne
      cases hget : get? es metadataName with
      | none => exact absurd hget hne
      | some d => exact ⟨d, mem_of_get? hget⟩
    · intro hfolder hnone
      obtain ⟨d, hd⟩ := hfolder
      rw [get?_of_mem hes hd] at hnone
      exact absurd hnone (by simp)
  constructor
  · intro hmem
    rcases hmem with ⟨hindex, heq⟩ | ⟨n, d', hn, h⟩
    · cases heq
      exact ⟨[], (Path.below_nil path).symm, rfl, htop.mpr hindex⟩
    · cases d' with
      | file c => exact absurd h (by simp [cardFolders])
      | folder sub =>
        have hlt : sizeOf sub < sizeOf es := by
          have := List.sizeOf_lt_of_mem hn
          simp only [Prod.mk.sizeOf_spec, Node.folder.sizeOf_spec] at this
          omega
        have hget := get?_of_mem hes hn
        obtain ⟨loc, rfl, hfind, hindex⟩ := (mem_cardFolders (ordered_of_get? hes hget)).mp h
        refine ⟨n :: loc, by rw [Path.below_cons], ?_, ?_⟩
        · rw [find, hget]
          exact hfind
        · rw [List.cons_append, shapeAt_cons, hget]
          exact hindex
  · intro hfolder
    obtain ⟨loc, rfl, hfind, hindex⟩ := hfolder
    cases loc with
    | nil =>
      cases hfind
      exact Or.inl ⟨htop.mp hindex, by rw [Path.below_nil]⟩
    | cons n rest =>
      right
      rw [find] at hfind
      rw [List.cons_append, shapeAt_cons] at hindex
      cases hget : get? es n with
      | none => rw [hget] at hfind; exact absurd hfind (by simp)
      | some d' =>
        rw [hget] at hfind hindex
        cases d' with
        | file c => exact absurd hindex (by simp)
        | folder sub =>
          have hn := mem_of_get? hget
          have hlt : sizeOf sub < sizeOf es := by
            have := List.sizeOf_lt_of_mem hn
            simp only [Prod.mk.sizeOf_spec, Node.folder.sizeOf_spec] at this
            omega
          refine ⟨n, .folder sub, hn, ?_⟩
          exact (mem_cardFolders (ordered_of_get? hes hget)).mpr
            ⟨rest, by rw [Path.below_cons], hfind, hindex⟩
termination_by sizeOf es

/-- If only one folder of those gone over has a name, then it is the first one. -/
theorem find?_cardFolders_of_only {root : Path} {es : Entries} (hes : Node.OrderedEntries es)
    {loc : Location} {d : Node} (hd : find es loc = some d)
    (hindex : shapeAt es (loc ++ [metadataName]) ≠ none)
    (honly : ∀ loc', shapeAt es (loc' ++ [metadataName]) ≠ none →
      (root.below loc').name = (root.below loc).name → loc' = loc) :
    (cardFolders root (.folder es)).find? (fun f => f.1.name = (root.below loc).name) =
      some (root.below loc, d) := by
  have hmem : (root.below loc, d) ∈ cardFolders root (.folder es) :=
    (mem_cardFolders hes).mpr ⟨loc, rfl, hd, hindex⟩
  cases hfind : (cardFolders root (.folder es)).find?
      (fun f => f.1.name = (root.below loc).name) with
  | none =>
    have hno := List.find?_eq_none.mp hfind _ hmem
    simp at hno
  | some f =>
    obtain ⟨q, d'⟩ := f
    have hname : q.name = (root.below loc).name := by simpa using List.find?_some hfind
    obtain ⟨loc', rfl, hd', hindex'⟩ := (mem_cardFolders hes).mp (List.mem_of_find?_eq_some hfind)
    cases honly loc' hindex' hname
    rw [hd] at hd'
    cases hd'
    rfl

/-! ## The keys that are looked for -/

theorem mem_wanted {keys : List String} {key : String} :
    key ∈ wanted keys ↔ key ∈ keys ∧ key ≠ "" := by
  unfold wanted
  rw [List.mem_mergeSort, List.mem_eraseDups, List.mem_filter, decide_eq_true_eq]

theorem pairwise_wanted (keys : List String) : (wanted keys).Pairwise (· ≤ ·) := by
  refine (List.pairwise_mergeSort (fun a b c hab hbc => ?_) (fun a b => ?_) _).imp
    of_decide_eq_true
  · exact decide_eq_true (String.le_trans (of_decide_eq_true hab) (of_decide_eq_true hbc))
  · simpa using String.le_total a b

/-- What is in order and holds each of the keys once is what is wanted. -/
theorem wanted_eq_of_perm {keys keys' : List String} (hsorted : keys'.Pairwise (· ≤ ·))
    (hperm : keys'.Perm (keys.filter (· ≠ "")).eraseDups) : wanted keys = keys' :=
  ((List.mergeSort_perm _ _).trans hperm.symm).eq_of_pairwise
    (fun _ _ _ _ => String.le_antisymm) (pairwise_wanted keys) hsorted

theorem wanted_singleton {key : String} (hne : key ≠ "") : wanted [key] = [key] := by
  unfold wanted
  rw [List.filter_cons_of_pos (by simpa using hne), List.filter_nil]
  simp [List.eraseDups_cons]

theorem findCards_congr {p : Project} {t t' : FileTree} {home : Location}
    (hbase : t.FolderAt p.base home) (hbase' : t'.FolderAt p.base home)
    (h : ∀ loc, cardShapes t' home loc = cardShapes t home loc) (keys : List String) :
    p.findCards keys t' = p.findCards keys t := by
  unfold findCards
  rw [entry?_cardRoot_congr hbase hbase' h]

/-- What a look-up found for a key that was looked for is what the first folder holds. -/
theorem lookup_readFound {folders : List (Path × Node)} {keys : List String}
    {found : List (String × CardTree)} (h : readFound folders keys = .ok found) {key : String} :
    (∀ path d, key ∈ keys → folders.find? (fun f => f.1.name = key) = some (path, d) →
      ∃ tree, readCard path d = .ok tree ∧ found.lookup key = some tree) ∧
    (folders.find? (fun f => f.1.name = key) = none → found.lookup key = none) := by
  induction keys generalizing found with
  | nil =>
    cases h
    exact ⟨fun _ _ hk => absurd hk (by simp), fun _ => rfl⟩
  | cons k ks ih =>
    rw [readFound] at h
    cases hfind : folders.find? (fun f => f.1.name = k) with
    | none =>
      rw [hfind] at h
      obtain ⟨hsome, hnone⟩ := ih h
      refine ⟨fun path d hk hf => ?_, hnone⟩
      rcases List.mem_cons.mp hk with rfl | hk
      · rw [hfind] at hf
        exact absurd hf (by simp)
      · exact hsome path d hk hf
    | some f =>
      obtain ⟨q, node⟩ := f
      rw [hfind] at h
      dsimp only at h
      obtain ⟨tree, hread, h⟩ := ok_of_bind h
      obtain ⟨rest, hrest, h⟩ := ok_of_bind h
      cases h
      obtain ⟨hsome, hnone⟩ := ih hrest
      by_cases hkey : key = k
      · subst hkey
        have hlookup : List.lookup key ((key, tree) :: rest) = some tree := List.lookup_cons_self
        refine ⟨fun path d _ hf => ?_, fun hf => ?_⟩
        · rw [hfind] at hf
          cases hf
          exact ⟨tree, hread, hlookup⟩
        · rw [hfind] at hf
          exact absurd hf (by simp)
      · have hlookup : List.lookup key ((k, tree) :: rest) = List.lookup key rest := by
          have hne : (key == k) = false := by simpa using hkey
          rw [List.lookup_cons, hne]
        rw [hlookup]
        refine ⟨fun path d hk hf => hsome path d ?_ hf, hnone⟩
        rcases List.mem_cons.mp hk with hk | hk
        · exact absurd hk hkey
        · exact hk

/-! ## Folders of different names -/

section FoundOnce

variable {p : Project} {home : Location} {cards : List Card} {ts : List CardTree} {t : FileTree}

/-- The folder of all cards, if there is a card. -/
theorem root_of_trees (hbase : t.FolderAt p.base home) (hts : p.trees t = .ok ts) (hne : ts ≠ []) :
    ∃ es, t.entry? p.cardRoot = .ok (some (.folder es)) ∧ Node.OrderedEntries es ∧
      readEach p.cardRoot es = .ok ts ∧ shapeAt es = cardShapes t home := by
  rcases trees_ok hts with rfl | ⟨home', es, hbase', hfind, hread⟩
  · exact absurd rfl hne
  · cases hbase'.resolve.symm.trans hbase.resolve
    refine ⟨es, ?_, ordered_of_find t.ordered hfind, hread, shapeAt_root hfind⟩
    unfold trees at hts
    rw [entry?_cardRoot hbase, hfind] at hts ⊢
    by_cases hlong : FileTree.pathLimit < p.cardRoot.toString.utf8ByteSize
    · rw [if_pos hlong] at hts
      exact absurd hts (by simp)
    · rw [if_neg hlong]

theorem FoundOnce.congr {t' : FileTree} (h : FoundOnce p home t)
    (hsame : ∀ loc, cardShapes t' home loc = cardShapes t home loc) : FoundOnce p home t' := by
  intro loc loc' hindex hindex'
  rw [hsame] at hindex hindex'
  exact h loc loc' hindex hindex'

theorem FoundOnce.find?_cardFolders (h : FoundOnce p home t) {es : Entries}
    (hes : Node.OrderedEntries es) (hshapes : shapeAt es = cardShapes t home) {loc : Location}
    {d : Node} (hd : find es loc = some d)
    (hindex : cardShapes t home (loc ++ [metadataName]) ≠ none) :
    (cardFolders p.cardRoot (.folder es)).find?
      (fun f => f.1.name = (p.cardRoot.below loc).name) = some (p.cardRoot.below loc, d) := by
  rw [← hshapes] at hindex
  refine find?_cardFolders_of_only hes hd hindex fun loc' hindex' hname => ?_
  rw [hshapes] at hindex hindex'
  exact h loc' loc hindex' hindex hname

/-- A card that is listed lies in the first folder of its name, and its tree can be read there. -/
theorem FoundOnce.exists_treeOf (h : FoundOnce p home t) (hbase : t.FolderAt p.base home)
    (hcards : p.cards t = .ok cards) {card : Card} (hcard : card ∈ cards) :
    ∃ es d tree, t.entry? p.cardRoot = .ok (some (.folder es)) ∧
      (cardFolders p.cardRoot (.folder es)).find? (fun f => f.1.name = card.key) =
        some (card.path, d) ∧
      readCard card.path d = .ok tree ∧ TreeOf cards card tree := by
  obtain ⟨loc, hloc⟩ := (mem_cards hbase hcards).mp hcard
  obtain ⟨ts, hts, rfl⟩ := trees_of_cards hcards
  have hne : ts ≠ [] := by
    rintro rfl
    exact absurd hcard (by simp [CardTree.listing])
  obtain ⟨es, hentry, hes, hread, hshapes⟩ := root_of_trees hbase hts hne
  obtain ⟨tree, hsubtree⟩ := readCard_of_reached hes hread (hshapes ▸ hloc.reached)
  have hmem := hsubtree.mem_iff_isBelow hes hread
  obtain ⟨⟨sub, hsub, hreadTree⟩, hpart, -⟩ := hsubtree
  have hindex : cardShapes t home (loc ++ [metadataName]) ≠ none := by
    obtain ⟨content, hcontent⟩ := hloc.reached.holdsFields
    rw [hcontent]
    simp
  rw [hloc.key, hloc.path]
  refine ⟨es, .folder sub, tree, hentry, h.find?_cardFolders hes hshapes hsub hindex, hreadTree,
    ?_, hpart, ?_⟩
  · obtain ⟨content, fields, children, -, -, -, rfl⟩ := readCard_eq_ok.mp hreadTree
    exact hloc.key.symm
  · rw [hloc.path]
    exact hmem

theorem findCard?_of_find? {key : String} {path : Path} {d sub : Node} {tree : CardTree}
    (hentry : t.entry? p.cardRoot = .ok (some d)) (hne : key ≠ "")
    (hfind : (cardFolders p.cardRoot d).find? (fun f => f.1.name = key) = some (path, sub))
    (hread : readCard path sub = .ok tree) : p.findCard? key t = .ok (some tree) := by
  have hfound : p.findCards [key] t = .ok [(key, tree)] := by
    unfold findCards
    rw [wanted_singleton hne, if_neg (by simp), hentry]
    simp only [readFound, hfind, hread]
    rfl
  unfold findCard?
  rw [hfound]
  exact congrArg Except.ok List.lookup_cons_self

/-- What is found for the key of a card that is listed is the card's tree. -/
theorem findCard?_of_mem_cards (h : FoundOnce p home t) (hbase : t.FolderAt p.base home)
    (hcards : p.cards t = .ok cards) {card : Card} (hcard : card ∈ cards) (hne : card.key ≠ "") :
    ∃ tree, p.findCard? card.key t = .ok (some tree) ∧ TreeOf cards card tree := by
  obtain ⟨es, d, tree, hentry, hfind, hread, htreeOf⟩ := h.exists_treeOf hbase hcards hcard
  exact ⟨tree, findCard?_of_find? hentry hne hfind hread, htreeOf⟩

/-- A tree right in the folder of all cards is found as it is listed. -/
theorem findCard?_of_mem_trees (h : FoundOnce p home t) (hbase : t.FolderAt p.base home)
    (hts : p.trees t = .ok ts) {tree : CardTree} (htree : tree ∈ ts) (hne : tree.card.key ≠ "") :
    p.findCard? tree.card.key t = .ok (some tree) := by
  obtain ⟨es, hentry, hes, hread, hshapes⟩ := root_of_trees hbase hts (List.ne_nil_of_mem htree)
  obtain ⟨n, d, hn, hfolder, hreadTree⟩ := (mem_readEach hread).mp htree
  obtain ⟨sub, -, rfl, -⟩ := isCardFolder_iff.mp hfolder
  obtain ⟨content, hcontent⟩ := (holdsFields_of_mem hes hn).mp hfolder
  have hindex : cardShapes t home ([n] ++ [metadataName]) ≠ none := by
    rw [← hshapes, hcontent]
    simp
  have hd : find es [n] = some (.folder sub) := by
    rw [find, get?_of_mem hes hn]
    rfl
  have hkey : tree.card.key = (p.cardRoot.below [n]).name := by
    obtain ⟨content', fields, children, -, -, -, rfl⟩ := readCard_eq_ok.mp hreadTree
    rfl
  rw [hkey] at hne ⊢
  exact findCard?_of_find? hentry hne (h.find?_cardFolders hes hshapes hd hindex) hreadTree

end FoundOnce

/-! ## A regular store -/

section Regular

variable {p : Project} {home : Location} {cards : List Card} {t : FileTree}

theorem Regular.legalName (h : Regular p home cards t) {card : Card} (hcard : card ∈ cards) :
    LegalName card.key :=
  legalName_of_mem_cards h.names h.readCards hcard

theorem Regular.eq_of_key (h : Regular p home cards t) {card other : Card} (hcard : card ∈ cards)
    (hother : other ∈ cards) (hkey : card.key = other.key) : card = other :=
  List.inj_on_of_nodup_map h.keys hcard hother hkey

/-- A store is as regular wherever it is the same. -/
theorem Regular.congr {t' : FileTree} (h : Regular p home cards t) (hnames : t'.LegalNames)
    (hbase : t'.FolderAt p.base home)
    (hsame : ∀ loc, cardShapes t' home loc = cardShapes t home loc) : Regular p home cards t' := by
  refine ⟨hnames, hbase, ?_, fun loc hloc => ?_, h.keys, h.oneLine⟩
  · rw [cards_congr h.base hbase hsame]
    exact h.readCards
  · unfold HoldsFields
    rw [hsame] at hloc ⊢
    exact h.fields loc hloc

/-- The card at each location that is reached. -/
theorem Regular.card_of_reached (h : Regular p home cards t) {loc : Location}
    (hloc : Reached (cardShapes t home) loc) :
    ∃ card ∈ cards, CardAt p.cardRoot (cardShapes t home) loc card := by
  have hne : cardShapes t home (loc ++ [metadataName]) ≠ none := by
    obtain ⟨content, hcontent⟩ := hloc.holdsFields
    rw [hcontent]
    simp
  obtain ⟨-, card, hcard, hpath⟩ := h.fields loc hne
  obtain ⟨loc', hloc'⟩ := (mem_cards h.base h.readCards).mp hcard
  have hsame : loc' = loc := Path.below_inj (hloc'.path.symm.trans hpath)
  subst hsame
  exact ⟨card, hcard, hloc'⟩

/-- Every folder that a look-up goes over is that of the one card of its name. -/
theorem Regular.foundOnce (h : Regular p home cards t) : FoundOnce p home t := by
  have hcard : ∀ loc, cardShapes t home (loc ++ [metadataName]) ≠ none →
      ∃ card ∈ cards,
        card.path = p.cardRoot.below loc ∧ card.key = (p.cardRoot.below loc).name := by
    intro loc hindex
    obtain ⟨-, card, hcard, hpath⟩ := h.fields loc hindex
    obtain ⟨loc', hloc'⟩ := (mem_cards h.base h.readCards).mp hcard
    exact ⟨card, hcard, hpath, by rw [hloc'.key, ← hloc'.path, hpath]⟩
  intro loc loc' hindex hindex' hname
  obtain ⟨card, hmem, hpath, hkey⟩ := hcard loc hindex
  obtain ⟨other, hother, hpath', hkey'⟩ := hcard loc' hindex'
  cases h.eq_of_key hmem hother (hkey.trans (hname.trans hkey'.symm))
  exact Path.below_inj (hpath.symm.trans hpath')

/-- Every look-up for a card's key finds the same. -/
theorem Regular.exists_lookup (h : Regular p home cards t) {card : Card} (hcard : card ∈ cards) :
    ∃ tree, TreeOf cards card tree ∧ ∀ keys found, p.findCards keys t = .ok found →
      card.key ∈ keys → found.lookup card.key = some tree := by
  obtain ⟨es, d, tree, hentry, hfirst, hread, htreeOf⟩ :=
    h.foundOnce.exists_treeOf h.base h.readCards hcard
  refine ⟨tree, htreeOf, fun keys found hfound hkey => ?_⟩
  have hwanted : card.key ∈ wanted keys := mem_wanted.mpr ⟨hkey, (h.legalName hcard).ne_empty⟩
  unfold findCards at hfound
  rw [if_neg (List.ne_nil_of_mem hwanted), hentry] at hfound
  obtain ⟨tree', hread', hlookup⟩ := (lookup_readFound hfound).1 card.path d hwanted hfirst
  rw [hread] at hread'
  cases hread'
  exact hlookup

/-- What a look-up finds for a card's key is the card's tree. -/
theorem treeOf_of_findCards (h : Regular p home cards t) {keys : List String}
    {found : List (String × CardTree)} (hfound : p.findCards keys t = .ok found) {card : Card}
    (hcard : card ∈ cards) (hkey : card.key ∈ keys) :
    ∃ tree, found.lookup card.key = some tree ∧ TreeOf cards card tree := by
  obtain ⟨tree, htreeOf, hlookup⟩ := h.exists_lookup hcard
  exact ⟨tree, hlookup keys found hfound hkey, htreeOf⟩

/-- Nothing is found for a key that no card has. -/
theorem lookup_eq_none (h : Regular p home cards t) {keys : List String}
    {found : List (String × CardTree)} (hfound : p.findCards keys t = .ok found) {key : String}
    (hkey : key ∉ cards.map Card.key) : found.lookup key = none := by
  unfold findCards at hfound
  by_cases hwanted : wanted keys = []
  · rw [if_pos hwanted] at hfound
    cases hfound
    rfl
  · rw [if_neg hwanted, entry?_cardRoot h.base] at hfound
    by_cases hlong : FileTree.pathLimit < p.cardRoot.toString.utf8ByteSize
    · rw [if_pos hlong] at hfound
      exact absurd hfound (by simp)
    · rw [if_neg hlong] at hfound
      cases hfind : t.find (home ++ [Card.rootFolder]) with
      | none => rw [hfind] at hfound; cases hfound; rfl
      | some d =>
        rw [hfind] at hfound
        refine (lookup_readFound hfound).2 (List.find?_eq_none.mpr fun f hf => ?_)
        cases d with
        | file c => exact absurd hf (by simp [cardFolders])
        | folder es =>
          have hes : Node.OrderedEntries es := ordered_of_find t.ordered hfind
          obtain ⟨q, d'⟩ := f
          obtain ⟨loc, rfl, -, hindex⟩ := (mem_cardFolders hes).mp hf
          rw [shapeAt_root hfind] at hindex
          obtain ⟨-, card, hcard, hpath⟩ := h.fields loc hindex
          obtain ⟨loc', hloc'⟩ := (mem_cards h.base h.readCards).mp hcard
          simp only [decide_eq_true_eq]
          intro heq
          subst heq
          refine hkey (List.mem_map.mpr ⟨card, hcard, ?_⟩)
          rw [hloc'.key, ← hloc'.path, hpath]

/-! ## Checking -/

/-- Whether a store is regular, as far as a look-up goes over it. -/
def isRegular (p : Project) (home : Location) (t : FileTree) : Bool :=
  match t.find (home ++ [Card.rootFolder]), p.cards t with
  | some (.folder es), .ok cards =>
    (Entries.names t.entries).all (fun n => decide (LegalName n)) &&
      decide (t.resolve p.base = .ok home) &&
      (cardFolders p.cardRoot (.folder es)).all (fun f =>
        isCardFolder f.2 && decide (f.1 ∈ cards.map Card.path)) &&
      decide (cards.map Card.key).Nodup &&
      cards.all (fun card => card.key.toList.all fun ch => !Text.isBoundary ch)
  | _, _ => false

theorem regular_of_isRegular (hcheck : isRegular p home t = true)
    (hcards : p.cards t = .ok cards) : Regular p home cards t := by
  unfold isRegular at hcheck
  rw [hcards] at hcheck
  split at hcheck
  case h_2 => exact absurd hcheck (by simp)
  next es cards' hfind hsame =>
  cases hsame
  simp only [Bool.and_eq_true, List.all_eq_true, decide_eq_true_eq, Bool.not_eq_true'] at hcheck
  obtain ⟨⟨⟨⟨hnames, hbase⟩, hfolders⟩, hkeys⟩, honeLine⟩ := hcheck
  have hes : Node.OrderedEntries es := ordered_of_find t.ordered hfind
  have hhome : t.shapeAt home = some .folder := by
    refine FileTree.shapeAt_above (List.cons_ne_nil Card.rootFolder []) ?_
    rw [FileTree.shapeAt_eq_folder.mpr ⟨es, hfind⟩]
    simp
  refine ⟨FileTree.legalNames_of_names hnames, ⟨hbase, hhome⟩, hcards, fun loc hloc => ?_, hkeys,
    honeLine⟩
  rw [← shapeAt_root hfind] at hloc ⊢
  obtain ⟨sub, hsub⟩ : ∃ sub, find es loc = some (.folder sub) :=
    FileTree.shapeAt_eq_folder.mp
      (FileTree.shapeAt_above (t := ⟨es, hes⟩) (List.cons_ne_nil metadataName []) hloc)
  obtain ⟨hcard, hpath⟩ :=
    hfolders (p.cardRoot.below loc, _) ((mem_cardFolders hes).mpr ⟨loc, rfl, hsub, hloc⟩)
  obtain ⟨card, hcardMem, hpath⟩ := List.mem_map.mp hpath
  refine ⟨?_, card, hcardMem, hpath⟩
  obtain ⟨sub', content, hnode, hget⟩ := isCardFolder_iff.mp hcard
  cases hnode
  exact ⟨content, by rw [Entries.shapeAt_append hsub, shapeAt_singleton, hget]; rfl⟩

end Regular

end CardLogic.Project
