import CardLogic.Proofs.Project.Cards
import Mathlib.Data.List.Basic

/-!
The card above a card.

What the program says of a card names the card above it, known from the path of the card's
folder alone: the name two folders up, unless the folder lies right in that of all cards.  The
reading of cards knows the card above from the folders it goes down through.  The two agree
at every depth and for every key, be it the name of the folder of all cards or that of a
folder of cards below a card: each step down adds two segments, and the first of them is never
the name that ends the way up (`parentKey?_of_reached`).  Every card
of a project has facts, and so the parent facts of a listing are the pairs of a card and a card
right below it, each once and in order (`parent_facts_eq_edges`).
-/

namespace CardLogic

namespace CardTree

mutual

/-- The cards below others, each after the one right above it, in the order of the listing. -/
def edges : CardTree → List (Card × Card)
  | node c children => edgesBelow c children

def edgesBelow (above : Card) : List CardTree → List (Card × Card)
  | [] => []
  | tree :: trees => (above, tree.card) :: (tree.edges ++ edgesBelow above trees)

end

/-- The tree lies in a folder of cards, and each card's own tree right below it. -/
inductive LiesIn : Path → CardTree → Prop
  | node {level : Path} {card : Card} {children : List CardTree}
      (path : card.path = level.child card.key)
      (below : ∀ child ∈ children,
        LiesIn ((level.child card.key).child Project.childrenFolder) child) :
      LiesIn level (.node card children)

end CardTree

/-- The facts that name the card above. -/
def Fact.isParent : Fact → Bool
  | .parent _ _ => true
  | _ => false

namespace Card

/-- Whether a card's path names a card above it. -/
def hasParent (card : Card) : Bool := (parentKey? card.path).isSome

/-! ## One card -/

theorem parentKey?_below (q : Path) (above n : String) :
    parentKey? (((q.child above).child Project.childrenFolder).child n) = some above := by
  have hcomponents : (((q.child above).child Project.childrenFolder).child n).components.reverse =
      n :: Project.childrenFolder :: above :: q.components.reverse := by
    unfold Path.components Path.child
    by_cases hanchor : q.anchor = .none
    · simp [hanchor]
    · simp [hanchor]
  have hne : ¬ Project.childrenFolder = rootFolder := by decide
  unfold parentKey?
  rw [hcomponents]
  exact if_neg hne

theorem parentKey?_top (p : Project) (n : String) : parentKey? (p.cardRoot.child n) = none := by
  have hcomponents : (p.cardRoot.child n).components.reverse =
      n :: rootFolder :: p.base.components.reverse := by
    unfold Path.components Project.cardRoot Path.child
    by_cases hanchor : p.base.anchor = .none
    · simp [hanchor]
    · simp [hanchor]
  unfold parentKey?
  rw [hcomponents]
  cases p.base.components.reverse with
  | nil => rfl
  | cons key rest => exact if_pos rfl

section Fields

variable {key : String} {fs : List Fact}

theorem filter_isParent_labelFacts {vs : List Value} (h : labelFacts key vs = .ok fs) :
    fs.filter Fact.isParent = [] := by
  induction vs generalizing fs with
  | nil => cases h; rfl
  | cons v vs ih =>
    obtain ⟨text, -, h⟩ := Except.ok_of_bind h
    obtain ⟨rest, hrest, h⟩ := Except.ok_of_bind h
    cases h
    exact (List.filter_cons_of_neg (by simp [Fact.isParent])).trans (ih hrest)

theorem filter_isParent_fieldFacts {field : Text × Value} (h : fieldFacts key field = .ok fs) :
    fs.filter Fact.isParent = [] := by
  unfold fieldFacts at h
  split at h
  · exact filter_isParent_labelFacts h
  · obtain ⟨text, -, rfl⟩ := Except.ok_of_map h
    rfl

/-- A card's fields say nothing of the card above, whatever their names and values. -/
theorem filter_isParent_metadataFacts {fields : Metadata} (h : metadataFacts key fields = .ok fs) :
    fs.filter Fact.isParent = [] := by
  induction fields generalizing fs with
  | nil => cases h; rfl
  | cons field fields ih =>
    obtain ⟨first, hfirst, h⟩ := Except.ok_of_bind h
    obtain ⟨rest, hrest, h⟩ := Except.ok_of_bind h
    cases h
    rw [List.filter_append, filter_isParent_fieldFacts hfirst, ih hrest, List.append_nil]

end Fields

theorem filter_isParent_facts {c : Card} {fs : List Fact} (h : c.facts = .ok fs) :
    fs.filter Fact.isParent = parentFacts c.key c.path := by
  obtain ⟨fields, hfields, rfl⟩ := Except.ok_of_map h
  have hparents : (parentFacts c.key c.path).filter Fact.isParent = parentFacts c.key c.path := by
    unfold parentFacts
    cases parentKey? c.path <;> rfl
  rw [List.filter_append, filter_isParent_metadataFacts hfields, hparents, List.nil_append]

/-- Only cards with a card above them have a parent fact. -/
theorem flatMap_parentFacts (cards : List Card) :
    cards.flatMap (fun card => parentFacts card.key card.path) =
      (cards.filter hasParent).flatMap fun card => parentFacts card.key card.path := by
  induction cards with
  | nil => rfl
  | cons card cards ih =>
    rw [List.flatMap_cons, ih]
    cases hkey : parentKey? card.path with
    | none =>
      have hnone : parentFacts card.key card.path = [] := by
        unfold parentFacts
        rw [hkey]
      rw [List.filter_cons_of_neg (by simp [hasParent, hkey]), hnone, List.nil_append]
    | some key => rw [List.filter_cons_of_pos (by simp [hasParent, hkey]), List.flatMap_cons]

end Card

/-! ## Trees -/

namespace CardTree

variable {level : Path} {tree : CardTree} {ts : List CardTree} {above : Card} {e : Card × Card}

mutual

/-- Every card but the uppermost has one card above it. -/
theorem map_snd_edges : ∀ tree : CardTree, tree.edges.map Prod.snd = listing tree.children
  | node c children => by
    rw [edges]
    exact map_snd_edgesBelow c children

theorem map_snd_edgesBelow (above : Card) :
    ∀ trees, (edgesBelow above trees).map Prod.snd = listing trees
  | [] => by rw [edgesBelow, listing, List.map_nil]
  | node c children :: trees => by
    rw [edgesBelow, listing, cards, List.map_cons, List.map_append, map_snd_edges,
      map_snd_edgesBelow]
    rfl

end

theorem cards_eq (tree : CardTree) : tree.cards = tree.card :: tree.edges.map Prod.snd := by
  rw [map_snd_edges]
  cases tree with
  | node c children => rw [cards]; rfl

theorem LiesIn.path_eq (h : LiesIn level tree) : tree.card.path = level.child tree.card.key := by
  cases h with
  | node path _ => exact path

theorem mem_edgesBelow :
    e ∈ edgesBelow above ts ↔ ∃ tree ∈ ts, e = (above, tree.card) ∨ e ∈ tree.edges := by
  induction ts with
  | nil => simp [edgesBelow]
  | cons tree ts ih => simp [edgesBelow, ih, or_assoc]

/-- The upper card of a pair is one of the tree, and the lower one lies right below it. -/
theorem LiesIn.of_mem_edges (h : LiesIn level tree) (he : e ∈ tree.edges) :
    e.1 ∈ tree.cards ∧ (∃ q, e.1.path = Path.child q e.1.key) ∧
      e.2.path = (e.1.path.child Project.childrenFolder).child e.2.key := by
  induction h with
  | @node level c children hpath hbelow ih =>
    rw [edges] at he
    rw [cards]
    obtain ⟨child, hchild, rfl | he⟩ := mem_edgesBelow.mp he
    · refine ⟨List.mem_cons_self, ⟨level, hpath⟩, ?_⟩
      rw [(hbelow child hchild).path_eq, hpath]
    · obtain ⟨hmem, hwhere⟩ := ih child hchild he
      exact ⟨List.mem_cons_of_mem c (mem_listing.mpr ⟨child, hchild, hmem⟩), hwhere⟩

theorem LiesIn.parentKey? (h : LiesIn level tree) (he : e ∈ tree.edges) :
    Card.parentKey? e.2.path = some e.1.key := by
  obtain ⟨-, ⟨q, hupper⟩, hlower⟩ := h.of_mem_edges he
  rw [hlower, hupper]
  exact Card.parentKey?_below q e.1.key e.2.key

end CardTree

namespace Project

open Entries CardTree

variable {p : Project} {t : FileTree} {home : Location} {ts : List CardTree}

theorem liesIn_of_readEach {path : Path} {es : Entries} (hes : Node.OrderedEntries es)
    {ts : List CardTree} (h : readEach path es = .ok ts) : ∀ tree ∈ ts, LiesIn path tree := by
  intro tree htree
  obtain ⟨n, d, hn, hd, hread⟩ := (mem_readEach h).mp htree
  obtain ⟨sub, -, rfl, -⟩ := isCardFolder_iff.mp hd
  obtain ⟨-, fields, children, -, -, hchildren, rfl⟩ := readCard_eq_ok.mp hread
  have hlt : sizeOf (childEntries sub) < sizeOf es := sizeOf_childEntries_lt hn
  have hsub := ordered_childEntries (ordered_of_get? hes (get?_of_mem hes hn))
  have hkey : (path.child n).name = n := Path.name_child path n
  refine .node (by rw [hkey]) fun child hchild => ?_
  dsimp only
  rw [hkey]
  exact liesIn_of_readEach hsub hchildren child hchild
termination_by sizeOf es

theorem liesIn_of_trees (h : p.trees t = .ok ts) : ∀ tree ∈ ts, LiesIn p.cardRoot tree := by
  rcases trees_ok h with rfl | ⟨home, es, -, hfind, hread⟩
  · exact fun tree htree => absurd htree (by simp)
  · exact liesIn_of_readEach (ordered_of_find t.ordered hfind) hread

/-! ## The folders that are reached -/

/-- The name two folders up is the key of the card above, and there is none just right below the
folder of all cards. -/
theorem parentKey?_of_reached {shapes : Location → Option Shape} {loc : Location}
    (h : Reached shapes loc) :
    (Card.parentKey? (p.cardRoot.below loc) = none ↔ ∃ n, loc = [n]) ∧
      ∀ above n, loc = above ++ [childrenFolder, n] → Reached shapes above ∧
        Card.parentKey? (p.cardRoot.below loc) = some (p.cardRoot.below above).name := by
  cases h with
  | @top n hn =>
    refine ⟨⟨fun _ => ⟨n, rfl⟩, fun _ => Card.parentKey?_top p n⟩, fun above m heq => ?_⟩
    exact absurd (congrArg List.length heq) (by simp)
  | @child loc n hloc hn =>
    rcases List.eq_nil_or_concat loc with rfl | ⟨rest, m, rfl⟩
    · exact absurd rfl hloc.ne_nil
    rw [List.concat_eq_append] at hloc ⊢
    have hparent : Card.parentKey? (p.cardRoot.below (rest ++ [m] ++ [childrenFolder, n])) =
        some (p.cardRoot.below (rest ++ [m])).name := by
      rw [Path.name_below_concat, Path.below_append, Path.below_append, Path.below_cons]
      exact Card.parentKey?_below (p.cardRoot.below rest) m n
    refine ⟨⟨fun hnone => ?_, fun hsingle => ?_⟩, fun above k heq => ?_⟩
    · rw [hparent] at hnone
      exact absurd hnone (by simp)
    · obtain ⟨k, heq⟩ := hsingle
      exact absurd (congrArg List.length heq) (by simp)
    · have hsame : rest ++ [m] = above := (List.append_inj' heq rfl).1
      rw [← hsame]
      exact ⟨hloc, hparent⟩

/-! ## The listing -/

/-- Cards of one folder are one card. -/
theorem eq_of_path {cards : List Card} (h : p.cards t = .ok cards) {card other : Card}
    (hcard : card ∈ cards) (hother : other ∈ cards) (hpath : card.path = other.path) :
    card = other := by
  obtain ⟨home, hbase⟩ := exists_folderAt_of_mem_cards h hcard
  obtain ⟨loc, hloc⟩ := (mem_cards hbase h).mp hcard
  obtain ⟨loc', hloc'⟩ := (mem_cards hbase h).mp hother
  have hsame : loc' = loc := Path.below_inj (hloc'.path.symm.trans (hpath.symm.trans hloc.path))
  subst hsame
  obtain ⟨content, fields, hcontent, hfields, hmeta⟩ := hloc.metadata
  obtain ⟨content', fields', hcontent', hfields', hmeta'⟩ := hloc'.metadata
  cases hcontent.symm.trans hcontent'
  cases hfields.symm.trans hfields'
  obtain ⟨key, path, metadata⟩ := card
  obtain ⟨key', path', metadata'⟩ := other
  simp only [Card.mk.injEq]
  exact ⟨hloc.key.trans hloc'.key.symm, hpath, hmeta.trans hmeta'.symm⟩

theorem mem_listing_iff {card : Card} :
    card ∈ CardTree.listing ts ↔
      (∃ tree ∈ ts, card = tree.card) ∨ card ∈ (ts.flatMap edges).map Prod.snd := by
  rw [mem_listing]
  have hcards : ∀ tree : CardTree, card ∈ tree.cards ↔
      card = tree.card ∨ card ∈ tree.edges.map Prod.snd := by
    intro tree
    rw [cards_eq, List.mem_cons]
  simp only [hcards, List.map_flatMap, List.mem_flatMap]
  constructor
  · intro h
    obtain ⟨tree, htree, heq | hmem⟩ := h
    · exact Or.inl ⟨tree, htree, heq⟩
    · exact Or.inr ⟨tree, htree, hmem⟩
  · intro h
    rcases h with ⟨tree, htree, heq⟩ | ⟨tree, htree, hmem⟩
    · exact ⟨tree, htree, Or.inl heq⟩
    · exact ⟨tree, htree, Or.inr hmem⟩

section Edges

variable (hlies : ∀ tree ∈ ts, LiesIn p.cardRoot tree)
include hlies

/-- A card right in the folder of all cards is none that lies below another one. -/
theorem parentKey?_top_of_mem {tree : CardTree} (htree : tree ∈ ts) :
    Card.parentKey? tree.card.path = none := by
  rw [(hlies tree htree).path_eq]
  exact Card.parentKey?_top p tree.card.key

theorem parentKey?_of_mem_edges {e : Card × Card} (he : e ∈ ts.flatMap edges) :
    Card.parentKey? e.2.path = some e.1.key := by
  obtain ⟨tree, htree, he⟩ := List.mem_flatMap.mp he
  exact (hlies tree htree).parentKey? he

/-- The cards that have a card above them are those of the pairs, each as often and in the same
order. -/
theorem map_snd_forest :
    (ts.flatMap edges).map Prod.snd =
      (CardTree.listing ts).filter Card.hasParent := by
  induction ts with
  | nil => rfl
  | cons tree ts ih =>
    have htree : LiesIn p.cardRoot tree := hlies tree List.mem_cons_self
    have hbelow : ∀ card ∈ tree.edges.map Prod.snd, card.hasParent = true := by
      intro card hcard
      obtain ⟨e, he, rfl⟩ := List.mem_map.mp hcard
      unfold Card.hasParent
      rw [htree.parentKey? he]
      rfl
    have htop : ¬ tree.card.hasParent = true := by
      unfold Card.hasParent
      rw [parentKey?_top_of_mem hlies List.mem_cons_self]
      simp
    rw [List.flatMap_cons, List.map_append, CardTree.listing, List.filter_append, cards_eq,
      List.filter_cons_of_neg htop, List.filter_eq_self.mpr hbelow,
      ih fun tree htree => hlies tree (List.mem_cons_of_mem _ htree)]

theorem filter_isParent_listing
    (hfacts : ∀ card ∈ CardTree.listing ts, card.facts = .ok card.factList) :
    ((CardTree.listing ts).flatMap Card.factList).filter Fact.isParent =
      (ts.flatMap edges).map fun e => .parent e.2.key e.1.key := by
  have hedge : ∀ e ∈ ts.flatMap edges,
      Card.parentFacts e.2.key e.2.path = [.parent e.2.key e.1.key] := by
    intro e he
    unfold Card.parentFacts
    rw [parentKey?_of_mem_edges hlies he]
  calc ((CardTree.listing ts).flatMap Card.factList).filter Fact.isParent
      = (CardTree.listing ts).flatMap fun card => Card.parentFacts card.key card.path := by
        rw [List.filter_flatMap]
        exact List.flatMap_congr fun card hcard => Card.filter_isParent_facts (hfacts card hcard)
    _ = ((ts.flatMap edges).map Prod.snd).flatMap fun card =>
          Card.parentFacts card.key card.path := by
        rw [map_snd_forest hlies]
        exact Card.flatMap_parentFacts (CardTree.listing ts)
    _ = (ts.flatMap edges).flatMap fun e => [.parent e.2.key e.1.key] := by
        rw [List.flatMap_map]
        exact List.flatMap_congr hedge
    _ = (ts.flatMap edges).map fun e => .parent e.2.key e.1.key :=
        List.flatMap_pure_eq_map _ _

/-- A card lies right below another one just if its folder does. -/
theorem mem_edges_iff (h : p.trees t = .ok ts) {above card : Card} :
    (above, card) ∈ ts.flatMap edges ↔ above ∈ CardTree.listing ts ∧ card ∈ CardTree.listing ts ∧
      card.path = (above.path.child childrenFolder).child card.key := by
  have hcards : p.cards t = .ok (CardTree.listing ts) := congrArg (Except.map CardTree.listing) h
  constructor
  · intro he
    obtain ⟨tree, htree, hmem⟩ := List.mem_flatMap.mp he
    obtain ⟨habove, -, hpath⟩ := (hlies tree htree).of_mem_edges hmem
    exact ⟨mem_listing.mpr ⟨tree, htree, habove⟩,
      mem_listing_iff.mpr (Or.inr (List.mem_map.mpr ⟨_, he, rfl⟩)), hpath⟩
  · intro hwhere
    obtain ⟨habove, hcard, hpath⟩ := hwhere
    obtain ⟨home, hbase⟩ := exists_folderAt_of_mem_cards hcards habove
    obtain ⟨loc, hloc⟩ := (mem_cards hbase hcards).mp habove
    rcases mem_listing_iff.mp hcard with ⟨tree, htree, rfl⟩ | hmem
    · -- Two names lead down from a card's folder, and only one from that of all cards.
      exfalso
      rw [(hlies tree htree).path_eq, hloc.path] at hpath
      have hlength : p.cardRoot.segments.length + 1 =
          p.cardRoot.segments.length + loc.length + 1 + 1 := by
        simpa [Path.child, Path.below] using congrArg (fun q => q.segments.length) hpath
      omega
    · obtain ⟨⟨other, _⟩, he, rfl⟩ := List.mem_map.mp hmem
      obtain ⟨tree, htree, hedge⟩ := List.mem_flatMap.mp he
      obtain ⟨hother, -, hpath'⟩ := (hlies tree htree).of_mem_edges hedge
      have hsame : other = above := by
        refine eq_of_path hcards (mem_listing.mpr ⟨tree, htree, hother⟩) habove ?_
        have hfolders := congrArg (fun q => q.parent.parent) (hpath'.symm.trans hpath)
        simpa using hfolders
      rw [← hsame]
      exact he

end Edges

/-- The key that a path names is that of the card above, and none just for the cards right in the
folder of all cards.  So the parent facts of all cards are the pairs of a card and a card right
below it, in the order of the listing, and every card has facts. -/
theorem parent_facts_eq_edges :
    (∀ home loc, t.FolderAt p.base home → Reached (cardShapes t home) loc →
      (Card.parentKey? (p.cardRoot.below loc) = none ↔ ∃ n, loc = [n]) ∧
        ∀ above n, loc = above ++ [childrenFolder, n] → Reached (cardShapes t home) above ∧
          Card.parentKey? (p.cardRoot.below loc) = some (p.cardRoot.below above).name) ∧
      ∀ ts, p.trees t = .ok ts →
        (∀ card ∈ CardTree.listing ts,
          (Card.parentKey? card.path = none ↔ card.path = p.cardRoot.child card.key) ∧
            (card.path ≠ p.cardRoot.child card.key →
              ∃ above ∈ CardTree.listing ts, Card.parentKey? card.path = some above.key ∧
                card.path = (above.path.child childrenFolder).child card.key)) ∧
        (∀ above card, (above, card) ∈ ts.flatMap edges ↔
          above ∈ CardTree.listing ts ∧ card ∈ CardTree.listing ts ∧
            card.path = (above.path.child childrenFolder).child card.key) ∧
        (ts.flatMap edges).map Prod.snd = (CardTree.listing ts).filter Card.hasParent ∧
        ∃ facts, (CardTree.listing ts).mapM Card.facts = .ok facts ∧
          facts.flatten.filter Fact.isParent =
            (ts.flatMap edges).map fun e => .parent e.2.key e.1.key := by
  refine ⟨fun home loc _ hloc => parentKey?_of_reached hloc, fun ts hts => ?_⟩
  have hlies := liesIn_of_trees hts
  have hcards : p.cards t = .ok (CardTree.listing ts) :=
    congrArg (Except.map CardTree.listing) hts
  have hfacts : ∀ card ∈ CardTree.listing ts, card.facts = .ok card.factList :=
    fun card hcard => Card.facts_eq_ok (isWritable_of_mem_cards hcards hcard)
  refine ⟨fun card hcard => ?_, fun above card => mem_edges_iff hlies hts, map_snd_forest hlies,
    _, Except.mapM_eq_ok hfacts, filter_isParent_listing hlies hfacts⟩
  have htop : card.path = p.cardRoot.child card.key → Card.parentKey? card.path = none := by
    intro hpath
    rw [hpath]
    exact Card.parentKey?_top p card.key
  rcases mem_listing_iff.mp hcard with ⟨tree, htree, rfl⟩ | hmem
  · have hpath := (hlies tree htree).path_eq
    exact ⟨⟨fun _ => hpath, htop⟩, fun hne => absurd hpath hne⟩
  · obtain ⟨⟨above, _⟩, he, rfl⟩ := List.mem_map.mp hmem
    have hkey := parentKey?_of_mem_edges hlies he
    obtain ⟨habove, -, hpath⟩ := (mem_edges_iff hlies hts).mp he
    refine ⟨⟨fun hnone => ?_, htop⟩, fun _ => ⟨above, habove, hkey, hpath⟩⟩
    rw [hkey] at hnone
    exact absurd hnone (by simp)

/-- Cards named like the folder of all cards and like a folder of cards below a card, in a project
whose path starts anywhere. -/
def sentinelTree : FileTree :=
  ⟨[("cardroot", .folder
      [("c", .folder
        [("c", .folder
          [("cardroot", .folder
            [("c", .folder [("x", .folder [("index.json", .file (bytesOf "{}"))])]),
              ("index.json", .file (bytesOf "{}"))])]),
          ("index.json", .file (bytesOf "{}"))]),
        ("cardroot", .folder [("index.json", .file (bytesOf "{}"))])])],
    by simp only [Node.OrderedEntries, Node.Ordered]; decide⟩

theorem parent_facts_eq_edges_sentinels :
    ∃ ts, trees ⟨Path.ofString ""⟩ sentinelTree = .ok ts ∧
      (CardTree.listing ts).map Card.key = ["c", "cardroot", "x", "cardroot"] ∧
      ∃ facts, (CardTree.listing ts).mapM Card.facts = .ok facts ∧
        facts.flatten.filter Fact.isParent =
          [.parent "cardroot" "c", .parent "x" "cardroot"] := by
  have hshown : (trees ⟨Path.ofString ""⟩ sentinelTree).toOption.map (fun ts =>
      ((CardTree.listing ts).map Card.key, (ts.flatMap edges).map fun e => (e.2.key, e.1.key))) =
      some (["c", "cardroot", "x", "cardroot"], [("cardroot", "c"), ("x", "cardroot")]) := by
    decide +kernel
  cases hts : trees ⟨Path.ofString ""⟩ sentinelTree with
  | error e => rw [hts] at hshown; exact absurd hshown (by simp [Except.toOption])
  | ok ts =>
    rw [hts] at hshown
    obtain ⟨hkeys, hedges⟩ := Prod.mk.inj (Option.some.inj hshown)
    obtain ⟨-, -, -, facts, hfacts, hparents⟩ := parent_facts_eq_edges.2 ts hts
    refine ⟨ts, rfl, hkeys, facts, hfacts, ?_⟩
    rw [hparents]
    have hmap := congrArg (List.map fun k : String × String => Fact.parent k.1 k.2) hedges
    rw [List.map_map] at hmap
    exact hmap

end Project

end CardLogic
