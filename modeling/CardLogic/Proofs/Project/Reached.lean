import CardLogic.Project.Cards
import CardLogic.Proofs.FileTree.Walk

/-!
Which folders the reading of cards reaches.

A card lies right in the folder of all cards, or two folders below a card that is reached,
and it is reached if its folder holds a file of fields.  `Reached` says this about the
shapes of a tree alone, so what a change to the tree does to the cards is read off the
shapes it changes.  The listing holds the card of each folder reached and no others
(`mem_listing_readEach`).
-/

namespace CardLogic

theorem CardTree.mem_listing {ts : List CardTree} {card : Card} :
    card ∈ listing ts ↔ ∃ tree ∈ ts, card ∈ tree.cards := by
  induction ts with
  | nil => simp [listing]
  | cons t ts ih => simp [listing, ih]

namespace Project

open Entries

theorem ok_of_bind {ε α β : Type} {x : Except ε α} {f : α → Except ε β} {b : β}
    (h : x >>= f = .ok b) : ∃ a, x = .ok a ∧ f a = .ok b := by
  cases x with
  | error e => exact absurd h (by simp [bind, Except.bind])
  | ok a => exact ⟨a, rfl, h⟩

/-- Whether a folder holds a file of fields. -/
def HoldsFields (shapes : Location → Option Shape) (loc : Location) : Prop :=
  ∃ content, shapes (loc ++ [metadataName]) = some (.file content)

/-- The folders of cards, below the folder of all cards. -/
inductive Reached (shapes : Location → Option Shape) : Location → Prop where
  | top {n : String} : HoldsFields shapes [n] → Reached shapes [n]
  | child {loc : Location} {n : String} : Reached shapes loc →
      HoldsFields shapes (loc ++ [childrenFolder, n]) →
      Reached shapes (loc ++ [childrenFolder, n])

namespace Reached

variable {shapes shapes' : Location → Option Shape} {loc : Location}

theorem ne_nil (h : Reached shapes loc) : loc ≠ [] := by
  cases h <;> simp

theorem holdsFields (h : Reached shapes loc) : HoldsFields shapes loc := by
  cases h <;> assumption

/-- Only the files of fields on the way to a card count. -/
theorem congr (h : Reached shapes loc)
    (hfields : ∀ l, l <+: loc → HoldsFields shapes l → HoldsFields shapes' l) :
    Reached shapes' loc := by
  induction h with
  | top hn => exact .top (hfields _ List.prefix_rfl hn)
  | child _ hn ih =>
    refine .child (ih fun l hl => hfields l ?_) (hfields _ List.prefix_rfl hn)
    exact hl.trans (List.prefix_append _ _)

theorem cons {n : String} (hn : HoldsFields shapes [n])
    (h : Reached (fun l => shapes (n :: childrenFolder :: l)) loc) :
    Reached shapes (n :: childrenFolder :: loc) := by
  induction h with
  | top hm => exact .child (.top hn) hm
  | child _ hm ih => exact .child ih hm

/-- The way to a card, seen from its start. -/
theorem cases_cons (h : Reached shapes loc) :
    ∃ n, HoldsFields shapes [n] ∧
      (loc = [n] ∨ ∃ l, loc = n :: childrenFolder :: l ∧
        Reached (fun m => shapes (n :: childrenFolder :: m)) l) := by
  induction h with
  | @top n hn => exact ⟨n, hn, Or.inl rfl⟩
  | @child loc m _ hm ih =>
    obtain ⟨n, hn, rfl | ⟨l, rfl, hl⟩⟩ := ih
    · exact ⟨n, hn, Or.inr ⟨[m], rfl, .top hm⟩⟩
    · exact ⟨n, hn, Or.inr ⟨l ++ [childrenFolder, m], rfl, .child hl hm⟩⟩

end Reached

/-- The card at a location below the folder of all cards. -/
structure CardAt (root : Path) (shapes : Location → Option Shape) (loc : Location) (card : Card) :
    Prop where
  reached : Reached shapes loc
  key : card.key = (root.below loc).name
  path : card.path = root.below loc
  metadata : ∃ content fields, shapes (loc ++ [metadataName]) = some (.file content) ∧
    readFields ((root.below loc).child metadataName) content = .ok fields ∧
    card.metadata = some fields

/-! ## One level -/

/-- The entries that hold the cards below a card with these entries. -/
def childEntries (es : Entries) : Entries :=
  match get? es childrenFolder with
  | some (.folder sub) => sub
  | _ => []

theorem readBelow_eq (path : Path) (es : Entries) :
    readBelow path es = readEach path (childEntries es) := by
  induction es with
  | nil => rfl
  | cons e es ih =>
    obtain ⟨n, d⟩ := e
    unfold readBelow childEntries
    rw [get?]
    by_cases hn : n = childrenFolder
    · rw [if_pos hn, if_pos hn]
      cases d with
      | file c => rfl
      | folder sub => rfl
    · rw [if_neg hn, if_neg hn, ih]
      rfl

theorem ordered_childEntries {es : Entries} (hes : Node.OrderedEntries es) :
    Node.OrderedEntries (childEntries es) := by
  unfold childEntries
  split
  · next sub hsub => exact ordered_of_get? hes hsub
  · trivial

theorem find_childEntries (es : Entries) {loc : Location} (hloc : loc ≠ []) :
    find (childEntries es) loc = find es (childrenFolder :: loc) := by
  have hnone : find [] loc = none := by
    cases loc with
    | nil => exact absurd rfl hloc
    | cons n rest => rfl
  unfold childEntries
  rw [find]
  cases get? es childrenFolder with
  | none => exact hnone
  | some d =>
    cases d with
    | file c => simp only [if_neg hloc, hnone]
    | folder sub => rfl

theorem shapeAt_childEntries (es : Entries) {loc : Location} (hloc : loc ≠ []) :
    shapeAt (childEntries es) loc = shapeAt es (childrenFolder :: loc) := by
  unfold shapeAt
  rw [find_childEntries es hloc]

theorem sizeOf_childEntries_lt {es : Entries} {n : String} {sub : Entries}
    (h : (n, Node.folder sub) ∈ es) : sizeOf (childEntries sub) < sizeOf es := by
  have hsub : sizeOf (n, Node.folder sub) < sizeOf es := List.sizeOf_lt_of_mem h
  have hle : sizeOf (childEntries sub) ≤ sizeOf sub := by
    unfold childEntries
    split
    · next lvl hlvl =>
      have hmem : sizeOf (childrenFolder, Node.folder lvl) < sizeOf sub :=
        List.sizeOf_lt_of_mem (mem_of_get? hlvl)
      simp only [Prod.mk.sizeOf_spec, Node.folder.sizeOf_spec] at hmem
      omega
    · cases sub with
      | nil => simp
      | cons e es =>
        simp only [List.nil.sizeOf_spec, List.cons.sizeOf_spec]
        omega
  simp only [Prod.mk.sizeOf_spec, Node.folder.sizeOf_spec] at hsub
  omega

/-- A card read from its folder: the fields from its file, the cards below from theirs. -/
theorem readCard_eq_ok {path : Path} {sub : Entries} {tree : CardTree} :
    readCard path (.folder sub) = .ok tree ↔
      ∃ content fields children, get? sub metadataName = some (.file content) ∧
        readFields (path.child metadataName) content = .ok fields ∧
        readEach (path.child childrenFolder) (childEntries sub) = .ok children ∧
        tree = .node ⟨path.name, path, some fields⟩ children := by
  rw [readCard, readBelow_eq]
  unfold readMetadata
  cases hget : get? sub metadataName with
  | none => simp [bind, Except.bind]
  | some d =>
    cases d with
    | folder es => simp [bind, Except.bind]
    | file content =>
      cases hfields : readFields (path.child metadataName) content with
      | error e => simp [bind, Except.bind, hfields]
      | ok fields =>
        cases hchildren : readEach (path.child childrenFolder) (childEntries sub) with
        | error e => simp [bind, Except.bind, hfields]
        | ok children =>
          simp only [bind, Except.bind, pure, Except.pure, hfields, Except.ok.injEq,
            Option.some.injEq, Node.file.injEq]
          constructor
          · intro heq
            subst heq
            exact ⟨content, fields, children, rfl, hfields, rfl, rfl⟩
          · intro h
            obtain ⟨_, fields', _, rfl, hfields', rfl, rfl⟩ := h
            rw [hfields] at hfields'
            cases hfields'
            rfl

theorem isCardFolder_iff {d : Node} :
    isCardFolder d = true ↔ ∃ sub content, d = .folder sub ∧
      get? sub metadataName = some (.file content) := by
  cases d with
  | file c => simp [isCardFolder]
  | folder sub =>
    unfold isCardFolder
    cases hget : get? sub metadataName with
    | none => simp [hget]
    | some d => cases d <;> simp [Node.isFile, hget]

/-- The trees read from a folder's entries, seen from the first entry. -/
theorem ok_of_readEach_cons {path : Path} {n : String} {d : Node} {es : Entries}
    {ts : List CardTree} (h : readEach path ((n, d) :: es) = .ok ts) :
    (isCardFolder d = true ∧ ∃ first rest, readCard (path.child n) d = .ok first ∧
      readEach path es = .ok rest ∧ ts = first :: rest) ∨
      (¬ isCardFolder d = true ∧ readEach path es = .ok ts) := by
  rw [readEach] at h
  by_cases hd : isCardFolder d = true
  · rw [if_pos hd] at h
    obtain ⟨first, hfirst, h⟩ := ok_of_bind h
    obtain ⟨rest, hrest, h⟩ := ok_of_bind h
    cases h
    exact Or.inl ⟨hd, first, rest, hfirst, hrest, rfl⟩
  · rw [if_neg hd] at h
    exact Or.inr ⟨hd, h⟩

/-- The trees read from a folder are those of its entries that are cards'. -/
theorem mem_readEach {path : Path} {es : Entries} {ts : List CardTree}
    (h : readEach path es = .ok ts) {tree : CardTree} :
    tree ∈ ts ↔ ∃ n d, (n, d) ∈ es ∧ isCardFolder d = true ∧
      readCard (path.child n) d = .ok tree := by
  induction es generalizing ts with
  | nil =>
    cases h
    simp
  | cons e es ih =>
    obtain ⟨n, d⟩ := e
    rcases ok_of_readEach_cons h with ⟨hd, first, rest, hcard, hrest, rfl⟩ | ⟨hd, hrest⟩
    · rw [List.mem_cons, ih hrest]
      constructor
      · intro hmem
        rcases hmem with rfl | ⟨m, d', hm, hd', hread⟩
        · exact ⟨n, d, List.mem_cons_self, hd, hcard⟩
        · exact ⟨m, d', List.mem_cons_of_mem _ hm, hd', hread⟩
      · intro ⟨m, d', hm, hd', hread⟩
        rcases List.mem_cons.mp hm with he | hm
        · cases he
          exact Or.inl (Except.ok.inj (hread.symm.trans hcard))
        · exact Or.inr ⟨m, d', hm, hd', hread⟩
    · rw [ih hrest]
      constructor
      · intro ⟨m, d', hm, hd', hread⟩
        exact ⟨m, d', List.mem_cons_of_mem _ hm, hd', hread⟩
      · intro ⟨m, d', hm, hd', hread⟩
        rcases List.mem_cons.mp hm with he | hm
        · cases he
          exact absurd hd' hd
        · exact ⟨m, d', hm, hd', hread⟩

theorem exists_readCard {path : Path} {es : Entries} {ts : List CardTree}
    (h : readEach path es = .ok ts) {n : String} {d : Node} (hn : (n, d) ∈ es)
    (hd : isCardFolder d = true) : ∃ tree, tree ∈ ts ∧ readCard (path.child n) d = .ok tree := by
  induction es generalizing ts with
  | nil => exact absurd hn (by simp)
  | cons e es ih =>
    obtain ⟨m, d'⟩ := e
    rcases ok_of_readEach_cons h with ⟨-, first, rest, hcard, hrest, rfl⟩ | ⟨hd', hrest⟩
    · rcases List.mem_cons.mp hn with he | hn
      · cases he
        exact ⟨first, List.mem_cons_self, hcard⟩
      · obtain ⟨tree, htree, hread⟩ := ih hrest hn
        exact ⟨tree, List.mem_cons_of_mem _ htree, hread⟩
    · rcases List.mem_cons.mp hn with he | hn
      · cases he
        exact absurd hd hd'
      · exact ih hrest hn

/-! ## All levels -/

theorem holdsFields_of_mem {es : Entries} (hes : Node.OrderedEntries es) {n : String} {d : Node}
    (hn : (n, d) ∈ es) : isCardFolder d = true ↔ HoldsFields (shapeAt es) [n] := by
  rw [isCardFolder_iff]
  unfold HoldsFields
  simp only [List.singleton_append, shapeAt_cons, get?_of_mem hes hn]
  cases d with
  | file c => simp
  | folder sub =>
    simp only [Node.folder.injEq]
    cases hget : get? sub metadataName with
    | none => simp [hget]
    | some d =>
      cases d with
      | file c => simp [hget]
      | folder inner => simp [hget, shapeAt_nil]

theorem shapeAt_below {es : Entries} (hes : Node.OrderedEntries es) {n : String} {sub : Entries}
    (hn : (n, Node.folder sub) ∈ es) {loc : Location} (hloc : loc ≠ []) :
    shapeAt (childEntries sub) loc = shapeAt es (n :: childrenFolder :: loc) := by
  rw [shapeAt_cons, get?_of_mem hes hn, shapeAt_childEntries sub hloc]

theorem reached_below {es : Entries} (hes : Node.OrderedEntries es) {n : String} {sub : Entries}
    (hn : (n, Node.folder sub) ∈ es) {loc : Location} :
    Reached (shapeAt (childEntries sub)) loc ↔
      Reached (fun l => shapeAt es (n :: childrenFolder :: l)) loc := by
  have hsame : ∀ l, HoldsFields (shapeAt (childEntries sub)) l ↔
      HoldsFields (fun m => shapeAt es (n :: childrenFolder :: m)) l := by
    intro l
    unfold HoldsFields
    rw [shapeAt_below hes hn (by simp)]
  exact ⟨fun h => h.congr fun l _ => (hsame l).mp, fun h => h.congr fun l _ => (hsame l).mpr⟩

theorem cardAt_below {path : Path} {es : Entries} (hes : Node.OrderedEntries es) {n : String}
    {sub : Entries} (hn : (n, Node.folder sub) ∈ es) {content : ByteArray}
    (hcontent : get? sub metadataName = some (.file content)) {loc : Location} {card : Card} :
    CardAt ((path.child n).child childrenFolder) (shapeAt (childEntries sub)) loc card ↔
      CardAt path (shapeAt es) (n :: childrenFolder :: loc) card := by
  have hbelow : ((path.child n).child childrenFolder).below loc =
      path.below (n :: childrenFolder :: loc) := by
    rw [Path.below_cons, Path.below_cons]
  have hshape : shapeAt (childEntries sub) (loc ++ [metadataName]) =
      shapeAt es (n :: childrenFolder :: loc ++ [metadataName]) :=
    shapeAt_below hes hn (by simp)
  have hfields : HoldsFields (shapeAt es) [n] :=
    (holdsFields_of_mem hes hn).mp (isCardFolder_iff.mpr ⟨sub, content, rfl, hcontent⟩)
  constructor
  · intro h
    obtain ⟨hreached, hkey, hpath, hmeta⟩ := h
    rw [hbelow] at hkey hpath hmeta
    rw [hshape] at hmeta
    exact ⟨((reached_below hes hn).mp hreached).cons hfields, hkey, hpath, hmeta⟩
  · intro h
    obtain ⟨hreached, hkey, hpath, hmeta⟩ := h
    rw [← hbelow] at hkey hpath hmeta
    rw [← hshape] at hmeta
    refine ⟨?_, hkey, hpath, hmeta⟩
    obtain ⟨m, -, hm | ⟨l, hl, hreached⟩⟩ := hreached.cases_cons
    · exact absurd hm (by simp)
    · cases hl
      exact (reached_below hes hn).mpr hreached

/-- The entry of a folder that holds a file of fields. -/
theorem exists_entry {es : Entries} {n : String} (h : HoldsFields (shapeAt es) [n]) :
    ∃ d, (n, d) ∈ es := by
  obtain ⟨content, hcontent⟩ := h
  rw [List.singleton_append, shapeAt_cons] at hcontent
  cases hget : get? es n with
  | none => rw [hget] at hcontent; exact absurd hcontent (by simp)
  | some d => exact ⟨d, mem_of_get? hget⟩

theorem cardAt_top {path : Path} {es : Entries} (hes : Node.OrderedEntries es) {n : String}
    {sub : Entries} (hn : (n, Node.folder sub) ∈ es) {content : ByteArray}
    (hcontent : get? sub metadataName = some (.file content)) {fields : Metadata}
    (hfields : readFields ((path.child n).child metadataName) content = .ok fields) {card : Card} :
    CardAt path (shapeAt es) [n] card ↔
      card = ⟨(path.child n).name, path.child n, some fields⟩ := by
  have hshape : shapeAt es ([n] ++ [metadataName]) = some (.file content) := by
    rw [List.singleton_append, shapeAt_cons, get?_of_mem hes hn]
    dsimp only
    rw [shapeAt_singleton, hcontent]
    rfl
  constructor
  · intro ⟨_, hkey, hpath, content', fields', hcontent', hfields', hmeta⟩
    rw [hshape] at hcontent'
    cases hcontent'
    rw [Path.below_singleton, hfields] at hfields'
    cases hfields'
    obtain ⟨key, cardPath, metadata⟩ := card
    simp only at hkey hpath hmeta
    subst hkey hpath hmeta
    rfl
  · intro h
    subst h
    exact ⟨.top ⟨content, hshape⟩, rfl, rfl, content, fields, hshape, hfields, rfl⟩

/-- The cards of a tree are those at and below its folder, if this holds of the cards below. -/
theorem mem_cards_of_children {path : Path} {es : Entries} (hes : Node.OrderedEntries es)
    {n : String} {sub : Entries} (hn : (n, Node.folder sub) ∈ es) {tree : CardTree}
    (hread : readCard (path.child n) (.folder sub) = .ok tree)
    (hbelow : ∀ children, readEach ((path.child n).child childrenFolder) (childEntries sub) =
        .ok children → ∀ card, card ∈ CardTree.listing children ↔
          ∃ loc, CardAt ((path.child n).child childrenFolder) (shapeAt (childEntries sub)) loc card)
    (card : Card) :
    card ∈ tree.cards ↔ ∃ rest, CardAt path (shapeAt es) (n :: rest) card := by
  obtain ⟨content, fields, children, hcontent, hfields, hchildren, rfl⟩ := readCard_eq_ok.mp hread
  rw [CardTree.cards, List.mem_cons, hbelow children hchildren]
  constructor
  · intro h
    rcases h with htop | ⟨loc, hloc⟩
    · exact ⟨[], (cardAt_top hes hn hcontent hfields).mpr htop⟩
    · exact ⟨childrenFolder :: loc, (cardAt_below hes hn hcontent).mp hloc⟩
  · intro ⟨rest, h⟩
    obtain ⟨m, -, heq | ⟨loc, heq, -⟩⟩ := h.reached.cases_cons
    · cases heq
      exact Or.inl ((cardAt_top hes hn hcontent hfields).mp h)
    · cases heq
      exact Or.inr ⟨loc, (cardAt_below hes hn hcontent).mpr h⟩

/-- The listing of a folder of cards holds the card of each folder reached and no others. -/
theorem mem_listing_readEach {path : Path} {es : Entries} (hes : Node.OrderedEntries es)
    {ts : List CardTree} (h : readEach path es = .ok ts) {card : Card} :
    card ∈ CardTree.listing ts ↔ ∃ loc, CardAt path (shapeAt es) loc card := by
  have htree : ∀ {n : String} {sub : Entries} {tree : CardTree}, (n, Node.folder sub) ∈ es →
      readCard (path.child n) (.folder sub) = .ok tree →
        (card ∈ tree.cards ↔ ∃ rest, CardAt path (shapeAt es) (n :: rest) card) := by
    intro n sub tree hn hread
    refine mem_cards_of_children hes hn hread (fun children hchildren card => ?_) card
    have hsub := ordered_childEntries (ordered_of_get? hes (get?_of_mem hes hn))
    have hlt : sizeOf (childEntries sub) < sizeOf es := sizeOf_childEntries_lt hn
    exact mem_listing_readEach hsub hchildren
  rw [CardTree.mem_listing]
  constructor
  · intro ⟨tree, hmem, hcard⟩
    obtain ⟨n, d, hn, hd, hread⟩ := (mem_readEach h).mp hmem
    obtain ⟨sub, -, rfl, -⟩ := isCardFolder_iff.mp hd
    obtain ⟨rest, hrest⟩ := (htree hn hread).mp hcard
    exact ⟨n :: rest, hrest⟩
  · intro ⟨loc, hloc⟩
    obtain ⟨n, hn, hcase⟩ := hloc.reached.cases_cons
    obtain ⟨d, hd⟩ := exists_entry hn
    have hfolder := (holdsFields_of_mem hes hd).mpr hn
    obtain ⟨tree, hmem, hread⟩ := exists_readCard h hd hfolder
    obtain ⟨sub, -, rfl, -⟩ := isCardFolder_iff.mp hfolder
    refine ⟨tree, hmem, (htree hd hread).mpr ?_⟩
    rcases hcase with heq | ⟨l, heq, -⟩
    · exact ⟨[], heq ▸ hloc⟩
    · exact ⟨childrenFolder :: l, heq ▸ hloc⟩
termination_by sizeOf es

end Project

end CardLogic
