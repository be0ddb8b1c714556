import CardLogic.Engine
import CardLogic.Proofs.Corpus.Generation

/-!
What a caller who asks for a whole program gets.
-/

namespace CardLogic.Engine

open FileTree ProgramFile

theorem generateIn_whole {c : Corpus} {w w' : Workspace} {outcome : Outcome (List Path)} :
    generateIn c "" w = .ok outcome w' ↔
      ∃ paths, c.generate none w = .ok paths w' ∧ outcome = .done paths := by
  unfold generateIn
  rw [if_pos rfl]
  constructor
  · intro h
    obtain ⟨paths, w₁, hgenerate, hpure⟩ := Action.ok_of_bind h
    cases hpure
    exact ⟨paths, hgenerate, rfl⟩
  · intro hpaths
    obtain ⟨paths, hgenerate, rfl⟩ := hpaths
    rw [Action.bind_of_ok hgenerate]
    rfl

theorem parsed_absolute {p : Path} (h : p.Parsed) : p.absolute.Parsed := by
  unfold Path.absolute
  split
  · exact h
  · exact h

/-- A whole program that was asked for and came to be: its files hold just what the cards and
the rule files call for, whatever lay there before, everything else is as it was, and
asking again with the same cards changes nothing. -/
theorem generate_whole {e : Engine} {project : Path} {w w' : Workspace} {cards : List Card}
    {outcome : Outcome (List Path)} (hproject : project.Parsed) (htag : Corpus.IsTag e.tag)
    (hnames : w.tree.LegalNames) (hcards : (e.corpus project).project.cards w.tree = .ok cards)
    (hkeys : (cards.map Card.key).Nodup) (h : e.generate project "" w = .ok outcome w') :
    outcome = .done (Corpus.wholePaths (e.corpus project) cards) ∧
      (∃ home, (e.corpus project).Holds home cards w'.tree ∧
        (e.corpus project).OnlyCorpus home cards w.tree w'.tree) ∧
      ((∃ home, FolderAt w.tree (e.corpus project).project.base home) →
        (e.corpus project).project.cards w'.tree = .ok cards) ∧
      ∀ w₁ : Workspace, w₁.tree = w'.tree →
        (e.corpus project).project.cards w₁.tree = .ok cards →
          ∃ w₂, e.generate project "" w₁ = .ok outcome w₂ ∧ w₂.tree = w₁.tree := by
  obtain ⟨paths, hgenerate, rfl⟩ := generateIn_whole.mp h
  obtain ⟨home, cards', rules, t₁, hwhole, rfl⟩ := Corpus.whole_of_generate hnames hgenerate
  have hsame : cards' = cards := Except.ok.inj (hwhole.readCards.symm.trans hcards)
  subst hsame
  have hlegal : ∀ card ∈ cards', LegalName card.key :=
    fun _ hcard => Project.legalName_of_mem_cards hnames hcards hcard
  refine ⟨?_, ⟨home, ?_, ?_⟩, ?_, ?_⟩
  · rw [Corpus.map_path_sharedFiles]
  · exact hwhole.holds htag (parsed_absolute hproject) hnames hkeys
  · exact hwhole.onlyCorpus htag hkeys
  · exact fun hbase => hwhole.cards_eq hbase
  · intro w₁ hw₁ hcards₁
    rw [← hw₁] at hwhole
    obtain ⟨w₂, hagain, htree⟩ := hwhole.again htag hkeys hlegal hcards₁
    exact ⟨w₂, generateIn_whole.mpr ⟨_, hagain, rfl⟩, htree⟩

/-- A project with one card and one rule file, and a card's file of an earlier time. -/
def smallTree : FileTree :=
  ⟨[("p", .folder
      [(".calc", .folder [("cards", .folder [("old.lp", .file (bytesOf "old"))])]),
        (".cards", .folder [("modules", .folder [("m", .folder
          [("calculations", .folder [("r.lp", .file (bytesOf ""))])])])]),
        ("cardroot", .folder [("a", .folder [("index.json", .file (bytesOf "{}"))])])])],
    by simp only [Node.OrderedEntries, Node.Ordered]; decide⟩

def smallEngine : Engine := ⟨Solver.Settings.default, fun _ => .timedOut, "12-34"⟩

theorem generate_whole_small :
    ∃ cards outcome w',
      (smallEngine.corpus (Path.ofString "/p")).project.cards smallTree = .ok cards ∧
      cards.map Card.key = ["a"] ∧
      smallEngine.generate (Path.ofString "/p") "" ⟨smallTree, [], []⟩ = .ok outcome w' ∧
      outcome = .done (Corpus.wholePaths (smallEngine.corpus (Path.ofString "/p")) cards) ∧
      ∃ home, (smallEngine.corpus (Path.ofString "/p")).Holds home cards w'.tree := by
  have hread : ∃ cards,
      (smallEngine.corpus (Path.ofString "/p")).project.cards smallTree = .ok cards ∧
        cards.map Card.key = ["a"] := by
    have hkeys : ((smallEngine.corpus (Path.ofString "/p")).project.cards smallTree).toOption.map
        (List.map Card.key) = some ["a"] := by decide +kernel
    cases hcards : (smallEngine.corpus (Path.ofString "/p")).project.cards smallTree with
    | error e => rw [hcards] at hkeys; exact absurd hkeys (by simp [Except.toOption])
    | ok cards => rw [hcards] at hkeys; exact ⟨cards, rfl, Option.some.inj hkeys⟩
  have hrun : ∃ outcome w',
      smallEngine.generate (Path.ofString "/p") "" ⟨smallTree, [], []⟩ = .ok outcome w' := by
    have hok : (match smallEngine.generate (Path.ofString "/p") "" ⟨smallTree, [], []⟩ with
        | .ok _ _ => true
        | .error _ _ => false) = true := by decide +kernel
    cases hgenerate : smallEngine.generate (Path.ofString "/p") "" ⟨smallTree, [], []⟩ with
    | error e w => rw [hgenerate] at hok; exact absurd hok (by simp)
    | ok outcome w => exact ⟨outcome, w, rfl⟩
  obtain ⟨cards, hcards, hkeys⟩ := hread
  obtain ⟨outcome, w', hgenerate⟩ := hrun
  have hnames : smallTree.LegalNames := legalNames_of_names (by decide)
  have htag : Corpus.IsTag smallEngine.tag := by decide
  obtain ⟨houtcome, ⟨home, hholds, -⟩, -⟩ := generate_whole (Path.parsed_ofString "/p") htag
    hnames hcards (by rw [hkeys]; decide) hgenerate
  exact ⟨cards, outcome, w', hcards, hkeys, hgenerate, houtcome, home, hholds⟩

end CardLogic.Engine
