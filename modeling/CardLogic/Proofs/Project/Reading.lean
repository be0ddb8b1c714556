import CardLogic.Proofs.Project.Subtree
import Mathlib.Data.List.Sort

/-!
When the reading of cards comes to its end, and in which order the cards come.

A reading breaks off only at a folder that is reached, with a file of fields that cannot be read
(`error_of_readEach`), so it comes to its end just if there is none (`readEach_ok_iff`).

The cards of a listing come in the order of their paths, segment by segment
(`pairwise_listing`): a folder lists its entries in the order of their names, and a card comes
before those below it.  A listing is therefore known by which cards are in it, and a listing with
one card more is the old one with this card put in (`insert_of_mem_iff`).
-/

namespace CardLogic.Project

open Entries

/-! ## Readings that break off -/

theorem error_of_bind {ε α β : Type} {x : Except ε α} {f : α → Except ε β} {e : ε}
    (h : x >>= f = .error e) : x = .error e ∨ ∃ a, x = .ok a ∧ f a = .error e := by
  cases x with
  | error e' => exact Or.inl (congrArg Except.error (Except.error.inj h))
  | ok a => exact Or.inr ⟨a, rfl, h⟩

/-- A card whose folder is read to no end: its fields cannot be read, or the cards below it. -/
theorem error_of_readCard {path : Path} {sub : Entries} {content : ByteArray} {e : Failure}
    (hcontent : get? sub metadataName = some (.file content))
    (h : readCard path (.folder sub) = .error e) :
    readFields (path.child metadataName) content = .error e ∨
      readEach (path.child childrenFolder) (childEntries sub) = .error e := by
  rw [readCard, readBelow_eq] at h
  have hfields : readMetadata path sub = readFields (path.child metadataName) content := by
    unfold readMetadata
    rw [hcontent]
  rw [hfields] at h
  rcases error_of_bind h with h | ⟨fields, -, h⟩
  · exact Or.inl h
  · rcases error_of_bind h with h | ⟨children, -, h⟩
    · exact Or.inr h
    · exact absurd h (by simp [pure, Except.pure])

theorem exists_error_of_readEach {path : Path} {es : Entries} {e : Failure}
    (h : readEach path es = .error e) :
    ∃ n d, (n, d) ∈ es ∧ isCardFolder d = true ∧ readCard (path.child n) d = .error e := by
  induction es with
  | nil => exact absurd h (by simp [readEach, pure, Except.pure])
  | cons entry es ih =>
    obtain ⟨n, d⟩ := entry
    rw [readEach] at h
    by_cases hd : isCardFolder d = true
    · rw [if_pos hd] at h
      rcases error_of_bind h with h | ⟨first, -, h⟩
      · exact ⟨n, d, List.mem_cons_self, hd, h⟩
      · rcases error_of_bind h with h | ⟨rest, -, h⟩
        · obtain ⟨m, d', hm, hd', hread⟩ := ih h
          exact ⟨m, d', List.mem_cons_of_mem _ hm, hd', hread⟩
        · exact absurd h (by simp [pure, Except.pure])
    · rw [if_neg hd] at h
      obtain ⟨m, d', hm, hd', hread⟩ := ih h
      exact ⟨m, d', List.mem_cons_of_mem _ hm, hd', hread⟩

/-- The file of fields at a location cannot be read. -/
def Unreadable (root : Path) (shapes : Location → Option Shape) (e : Failure) (loc : Location) :
    Prop :=
  ∃ content, shapes (loc ++ [metadataName]) = some (.file content) ∧
    readFields ((root.below loc).child metadataName) content = .error e

/-- A reading that breaks off has reached a folder whose fields cannot be read. -/
theorem error_of_readEach {path : Path} {es : Entries} (hes : Node.OrderedEntries es)
    {e : Failure} (h : readEach path es = .error e) :
    ∃ loc, Reached (shapeAt es) loc ∧ Unreadable path (shapeAt es) e loc := by
  obtain ⟨n, d, hn, hd, hread⟩ := exists_error_of_readEach h
  have hfields := (holdsFields_of_mem hes hn).mp hd
  obtain ⟨sub, content, rfl, hcontent⟩ := isCardFolder_iff.mp hd
  have hget := get?_of_mem hes hn
  rcases error_of_readCard hcontent hread with hread | hread
  · refine ⟨[n], .top hfields, content, ?_, hread⟩
    rw [List.singleton_append, shapeAt_cons, hget]
    dsimp only
    rw [shapeAt_singleton, hcontent]
    rfl
  · have hlt : sizeOf (childEntries sub) < sizeOf es := sizeOf_childEntries_lt hn
    have hsub := ordered_childEntries (ordered_of_get? hes hget)
    obtain ⟨loc, hloc, inner, hinner, hread⟩ := error_of_readEach hsub hread
    rw [shapeAt_below hes hn (by simp)] at hinner
    rw [← Path.below_cons, ← Path.below_cons] at hread
    exact ⟨n :: childrenFolder :: loc, ((reached_below hes hn).mp hloc).cons hfields, inner,
      hinner, hread⟩
termination_by sizeOf es

/-- A reading comes to its end just if the fields of every card can be read. -/
theorem readEach_ok_iff {path : Path} {es : Entries} (hes : Node.OrderedEntries es) :
    (∃ ts, readEach path es = .ok ts) ↔
      ∀ loc, Reached (shapeAt es) loc → ∀ e, ¬ Unreadable path (shapeAt es) e loc := by
  constructor
  · intro hok loc hloc e hunreadable
    obtain ⟨ts, hts⟩ := hok
    obtain ⟨content, hcontent, herror⟩ := hunreadable
    obtain ⟨tree, hsubtree⟩ := readCard_of_reached hes hts hloc
    obtain ⟨sub, hsub, hread⟩ := hsubtree.read
    obtain ⟨content', fields, -, hcontent', hfields, -⟩ := readCard_eq_ok.mp hread
    have hsame : shapeAt es (loc ++ [metadataName]) = some (.file content') := by
      rw [shapeAt_append hsub, shapeAt_singleton, hcontent']
      rfl
    cases hcontent.symm.trans hsame
    rw [hfields] at herror
    exact absurd herror (by simp)
  · intro h
    cases hts : readEach path es with
    | ok ts => exact ⟨ts, rfl⟩
    | error e =>
      obtain ⟨loc, hloc, hunreadable⟩ := error_of_readEach hes hts
      exact absurd hunreadable (h loc hloc e)

/-- If a project's cards can be read, then so can the fields in every folder that is reached. -/
theorem readable_of_cards {p : Project} {t : FileTree} {home : Location}
    (hbase : t.FolderAt p.base home) {cards : List Card} (h : p.cards t = .ok cards)
    {loc : Location} (hloc : Reached (cardShapes t home) loc) (e : Failure) :
    ¬ Unreadable p.cardRoot (cardShapes t home) e loc := by
  obtain ⟨content, hcontent⟩ := hloc.holdsFields
  have habove : t.shapeAt (home ++ [Card.rootFolder]) = some .folder := by
    refine FileTree.shapeAt_above (by simp : loc ++ [metadataName] ≠ []) ?_
    rw [List.append_assoc]
    exact ne_of_eq_of_ne hcontent (by simp)
  obtain ⟨es, hfind⟩ := FileTree.shapeAt_eq_folder.mp habove
  have hes : Node.OrderedEntries es := ordered_of_find t.ordered hfind
  obtain ⟨ts, hts, -⟩ := trees_of_cards h
  unfold trees at hts
  rw [entry?_cardRoot hbase, hfind] at hts
  by_cases hlong : FileTree.pathLimit < p.cardRoot.toString.utf8ByteSize
  · rw [if_pos hlong] at hts
    exact absurd hts (by simp)
  · rw [if_neg hlong] at hts
    rw [← shapeAt_root hfind] at hloc ⊢
    exact (readEach_ok_iff hes).mp ⟨ts, hts⟩ loc hloc e

/-! ## The order of a listing -/

/-- The path of a card comes before that of another one, segment by segment. -/
def Before (card other : Card) : Prop := card.path.segments < other.path.segments

instance : Std.Irrefl Before := ⟨fun card => List.lt_irrefl card.path.segments⟩

instance : Std.Antisymm Before := ⟨fun _ _ h h' => absurd h' (List.lt_asymm h)⟩

instance : Trans Before Before Before := ⟨fun h h' => List.lt_trans h h'⟩

theorem before_of_lt {path : Path} {n m : String} (hnm : n < m) {a b : Location}
    {card other : Card} (hcard : card.path = path.below (n :: a))
    (hother : other.path = path.below (m :: b)) : Before card other := by
  unfold Before
  rw [hcard, hother]
  exact List.append_left_lt (List.cons_lt_cons_iff.mpr (Or.inl hnm))

theorem before_below {path : Path} {a : Location} (ha : a ≠ []) {card other : Card}
    (hcard : card.path = path) (hother : other.path = path.below a) : Before card other := by
  unfold Before
  rw [hcard, hother]
  obtain ⟨n, rest, rfl⟩ := List.exists_cons_of_ne_nil ha
  have hlt : path.segments ++ [] < path.segments ++ n :: rest :=
    List.append_left_lt (List.nil_lt_cons n rest)
  rwa [List.append_nil] at hlt

/-- Where the cards of the first entry lie. -/
theorem path_of_mem_cards {path : Path} {n : String} {sub : Entries}
    (hsub : Node.OrderedEntries sub)
    {tree : CardTree} (h : readCard (path.child n) (.folder sub) = .ok tree) {card : Card}
    (hcard : card ∈ tree.cards) : ∃ rest, card.path = path.below (n :: rest) := by
  obtain ⟨content, fields, children, -, -, hchildren, rfl⟩ := readCard_eq_ok.mp h
  rw [CardTree.cards] at hcard
  rcases List.mem_cons.mp hcard with rfl | hcard
  · exact ⟨[], by rw [Path.below_cons, Path.below_nil]⟩
  · obtain ⟨loc, hloc⟩ := (mem_listing_readEach (ordered_childEntries hsub) hchildren).mp hcard
    exact ⟨childrenFolder :: loc, by rw [hloc.path, Path.below_cons, Path.below_cons]⟩

/-- The cards of a listing come in the order of their paths. -/
theorem pairwise_listing {path : Path} : ∀ {es : Entries}, Node.OrderedEntries es →
    ∀ {ts : List CardTree}, readEach path es = .ok ts → (CardTree.listing ts).Pairwise Before
  | [], _, _, h => by
    cases h
    exact List.Pairwise.nil
  | (n, d) :: es, ⟨hlt, hd, hrest⟩, ts, h => by
    rcases ok_of_readEach_cons h with ⟨hfolder, first, rest, hread, hts, rfl⟩ | ⟨-, hts⟩
    · obtain ⟨sub, -, rfl, -⟩ := isCardFolder_iff.mp hfolder
      have hsmaller : sizeOf (childEntries sub) < sizeOf ((n, Node.folder sub) :: es) :=
        sizeOf_childEntries_lt List.mem_cons_self
      rw [CardTree.listing, List.pairwise_append]
      refine ⟨?_, pairwise_listing hrest hts, fun card hcard other hother => ?_⟩
      · obtain ⟨content, fields, children, -, -, hchildren, rfl⟩ := readCard_eq_ok.mp hread
        have hsub := ordered_childEntries hd
        rw [CardTree.cards, List.pairwise_cons]
        refine ⟨fun other hother => ?_, pairwise_listing hsub hchildren⟩
        obtain ⟨loc, hloc⟩ := (mem_listing_readEach hsub hchildren).mp hother
        have hpath : other.path = (path.child n).below (childrenFolder :: loc) := by
          rw [hloc.path, Path.below_cons]
        exact before_below (List.cons_ne_nil _ _) rfl hpath
      · obtain ⟨a, ha⟩ := path_of_mem_cards hd hread hcard
        obtain ⟨loc, hloc⟩ := (mem_listing_readEach hrest hts).mp hother
        obtain ⟨m, hm, hcase⟩ := hloc.reached.cases_cons
        obtain ⟨d', hd'⟩ := exists_entry hm
        have hnm : n < m := hlt (m, d') hd'
        rcases hcase with rfl | ⟨l, rfl, -⟩
        · exact before_of_lt hnm ha hloc.path
        · exact before_of_lt hnm ha hloc.path
    · exact pairwise_listing hrest hts
termination_by es => sizeOf es

theorem pairwise_cards {p : Project} {t : FileTree} {cards : List Card}
    (h : p.cards t = .ok cards) : cards.Pairwise Before := by
  obtain ⟨ts, hts, rfl⟩ := trees_of_cards h
  rcases trees_ok hts with rfl | ⟨home, es, -, hfind, hread⟩
  · exact List.Pairwise.nil
  · exact pairwise_listing (ordered_of_find t.ordered hfind) hread

/-- A listing with one card more is the old one with this card put in. -/
theorem insert_of_mem_iff {cards cards' : List Card} (h : cards.Pairwise Before)
    (h' : cards'.Pairwise Before) {card : Card} (hnew : card ∉ cards)
    (hmem : ∀ c, c ∈ cards' ↔ c ∈ cards ∨ c = card) :
    ∃ before behind, cards = before ++ behind ∧ cards' = before ++ card :: behind := by
  obtain ⟨before, behind, rfl⟩ := List.append_of_mem ((hmem card).mpr (Or.inr rfl))
  have hne : ∀ c ∈ before ++ behind, c ≠ card := by
    intro c hc heq
    subst heq
    have hnodup : (before ++ c :: behind).Nodup := h'.nodup
    rw [List.nodup_middle, List.nodup_cons] at hnodup
    exact hnodup.1 hc
  refine ⟨before, behind, ?_, rfl⟩
  refine List.Pairwise.eq_of_mem_iff h (h'.sublist ?_) fun c => ?_
  · exact List.Sublist.append (List.Sublist.refl before) (List.sublist_cons_self card behind)
  · have hc := hmem c
    rw [List.mem_append, List.mem_cons] at hc
    rw [List.mem_append]
    constructor
    · intro hcards
      rcases hc.mpr (Or.inl hcards) with hbefore | rfl | hbehind
      · exact Or.inl hbefore
      · exact absurd hcards hnew
      · exact Or.inr hbehind
    · intro hsides
      rcases hc.mp (hsides.imp_right Or.inr) with hcards | heq
      · exact hcards
      · exact absurd heq (hne c (List.mem_append.mpr hsides))

end CardLogic.Project
