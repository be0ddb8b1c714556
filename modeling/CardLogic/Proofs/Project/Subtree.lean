import CardLogic.Proofs.Project.Cards

/-!
The cards at and below a card.

The folder of a card that is reached can be read by itself.  The cards that this gives are a
part of the listing that the project gives, and just the part whose folders lie at and
below the card's (`Subtree.mem_iff_isBelow`).
-/

namespace CardLogic

/-- A path at or below another one. -/
def Path.IsBelow (p q : Path) : Prop := ∃ loc, q = p.below loc

theorem Path.isBelow_below {p : Path} {a b : Location} :
    (p.below a).IsBelow (p.below b) ↔ a <+: b := by
  constructor
  · intro hbelow
    obtain ⟨loc, h⟩ := hbelow
    rw [← Path.below_append] at h
    exact ⟨loc, (Path.below_inj h).symm⟩
  · intro hbelow
    obtain ⟨loc, rfl⟩ := hbelow
    exact ⟨loc, Path.below_append p a loc⟩

namespace Project

open Entries

theorem infix_listing {ts : List CardTree} {tree : CardTree} (h : tree ∈ ts) :
    tree.cards <:+: CardTree.listing ts := by
  induction ts with
  | nil => exact absurd h (by simp)
  | cons first rest ih =>
    rw [CardTree.listing]
    rcases List.mem_cons.mp h with rfl | h
    · exact (List.prefix_append _ _).isInfix
    · exact (ih h).trans (List.suffix_append _ _).isInfix

/-- The tree of a card that is reached: it can be read, it is a part of the listing, and it is
the part at and below the card's folder. -/
structure Subtree (path : Path) (es : Entries) (ts : List CardTree) (loc : Location)
    (tree : CardTree) : Prop where
  read : ∃ sub, Entries.find es loc = some (.folder sub) ∧
    readCard (path.below loc) (.folder sub) = .ok tree
  isPart : tree.cards <:+: CardTree.listing ts
  mem_cards : ∀ card, card ∈ tree.cards ↔ ∃ rest, CardAt path (shapeAt es) (loc ++ rest) card

theorem readCard_of_reached {path : Path} {es : Entries} (hes : Node.OrderedEntries es)
    {ts : List CardTree} (h : readEach path es = .ok ts) {loc : Location}
    (hloc : Reached (shapeAt es) loc) : ∃ tree, Subtree path es ts loc tree := by
  obtain ⟨n, hn, hcase⟩ := hloc.cases_cons
  obtain ⟨d, hd⟩ := exists_entry hn
  have hget := get?_of_mem hes hd
  have hfolder := (holdsFields_of_mem hes hd).mpr hn
  obtain ⟨sub, content, rfl, hcontent⟩ := isCardFolder_iff.mp hfolder
  obtain ⟨tree, htree, hread⟩ := exists_readCard h hd hfolder
  have hsub := ordered_childEntries (ordered_of_get? hes hget)
  rcases hcase with rfl | ⟨l, rfl, hl⟩
  · refine ⟨tree, ⟨sub, ?_, hread⟩, infix_listing htree, fun card => ?_⟩
    · rw [Entries.find, hget]
      rfl
    · exact mem_cards_of_children hes hd hread
        (fun children hchildren card => mem_listing_readEach hsub hchildren) card
  · obtain ⟨-, fields, children, -, -, hchildren, rfl⟩ := readCard_eq_ok.mp hread
    have hlt : l.length < (n :: childrenFolder :: l).length := by
      simp only [List.length_cons]
      omega
    obtain ⟨tree, ⟨inner, hinner, hreadInner⟩, hpart, hmem⟩ :=
      readCard_of_reached hsub hchildren ((reached_below hes hd).mpr hl)
    have hbelow : ((path.child n).child childrenFolder).below l =
        path.below (n :: childrenFolder :: l) := by
      rw [Path.below_cons, Path.below_cons]
    rw [hbelow] at hreadInner
    refine ⟨tree, ⟨inner, ?_, hreadInner⟩, hpart.trans ?_, fun card => ?_⟩
    · rw [Entries.find, hget]
      dsimp only
      rw [← find_childEntries sub hl.ne_nil]
      exact hinner
    · refine List.IsInfix.trans ?_ (infix_listing htree)
      rw [CardTree.cards]
      exact (List.suffix_cons _ _).isInfix
    · rw [hmem]
      exact exists_congr fun rest => cardAt_below hes hd hcontent
termination_by loc.length

/-- The cards of the tree are those of the listing whose folders lie at and below it. -/
theorem Subtree.mem_iff_isBelow {path : Path} {es : Entries} (hes : Node.OrderedEntries es)
    {ts : List CardTree} (h : readEach path es = .ok ts) {loc : Location} {tree : CardTree}
    (htree : Subtree path es ts loc tree) (card : Card) :
    card ∈ tree.cards ↔ card ∈ CardTree.listing ts ∧ (path.below loc).IsBelow card.path := by
  rw [htree.mem_cards, mem_listing_readEach hes h]
  constructor
  · intro ⟨rest, hrest⟩
    refine ⟨⟨loc ++ rest, hrest⟩, ?_⟩
    rw [hrest.path, Path.isBelow_below]
    exact List.prefix_append loc rest
  · intro ⟨⟨other, hother⟩, hbelow⟩
    rw [hother.path, Path.isBelow_below] at hbelow
    obtain ⟨rest, rfl⟩ := hbelow
    exact ⟨rest, hother⟩

end Project

end CardLogic
