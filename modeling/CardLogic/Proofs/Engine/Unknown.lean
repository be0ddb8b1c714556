import CardLogic.Proofs.Engine.Generation
import CardLogic.Proofs.Engine.ReadsFirst
import CardLogic.Proofs.Project.Agreement
import CardLogic.Proofs.Project.Written

/-!
Which keys are answered as unknown.

A request about a card asks the look-up, a generation of everything goes by the listing.  In a
store whose fields can all be read, the keys that are answered as unknown are those that no
folder with a file of fields has for its name, and everything that is listed is known.  The
converse is another matter: a key is known too if the folder of its name lies where no card is
listed, and then there is an answer about a card that no whole program holds.
-/

namespace CardLogic.Engine

open Project

variable {α : Type} {e : Engine} {c : Corpus} {project : Path} {key : String}
  {found : Option CardTree} {cards : List Card} {w w' : Workspace}

/-- An action is answered with the message that there is no card of this key. -/
def Refuses (action : Action (Outcome α)) (key : String) (w : Workspace) : Prop :=
  ∃ w', action w = .ok (.rejected (unknownCard key)) w'

/-! ## Requests about a card -/

theorem refuses_generateIn_iff (hne : key ≠ "")
    (hfind : c.project.findCard? key w.tree = .ok found) :
    Refuses (generateIn c key) key w ↔ found = none := by
  unfold Refuses generateIn
  rw [if_neg hne, Action.bind_of_ok (Action.read_of_ok hfind)]
  cases found with
  | none => exact ⟨fun _ => rfl, fun _ => ⟨_, rfl⟩⟩
  | some tree =>
    refine ⟨fun hrefused => ?_, fun hnone => absurd hnone (by simp)⟩
    obtain ⟨w', hrejected⟩ := hrefused
    obtain ⟨paths, w₁, -, hdone⟩ := Action.ok_of_bind hrejected
    cases hdone

theorem head?_unknownCard (key : String) : (unknownCard key).toList.head? = some 'N' := by
  unfold unknownCard
  rw [String.toList_append, String.toList_append]
  rfl

theorem rejectionMessage_ne_unknownCard (key : String) :
    Solver.rejectionMessage ≠ unknownCard key := by
  intro heq
  have hhead : Solver.rejectionMessage.toList.head? = some 'C' := rfl
  rw [heq, head?_unknownCard] at hhead
  exact absurd hhead (by decide)

/-- What the solver refuses is never taken for an unknown card. -/
theorem run_ne_unknownCard (settings : Solver.Settings) (solver : Solver.Program) (main : Path)
    (key key' : String) :
    (Solver.run settings solver main key).1 ≠ .rejected (unknownCard key') := by
  have hclassify : ∀ output errors code,
      (Solver.classify output errors code).1 ≠ .rejected (unknownCard key') := by
    intro output errors code
    unfold Solver.classify
    split
    · exact fun h => by cases h
    · split
      · exact fun h => rejectionMessage_ne_unknownCard key' (Outcome.rejected.inj h)
      · exact fun h => by cases h
  unfold Solver.run
  dsimp only
  cases solver (Solver.invocation settings main key) with
  | finished output errors code =>
    exact hclassify (output.map Text.ofString) (errors.map Text.ofString) code
  | notStarted reason => exact fun h => by cases h
  | timedOut => exact fun h => by cases h

theorem refuses_run_iff (hne : key ≠ "")
    (hfind : (e.corpus project).project.findCard? key w.tree = .ok found) :
    Refuses (e.run project key) key w ↔ found = none := by
  unfold Refuses run
  rw [if_neg hne]
  dsimp only
  rw [Action.bind_of_ok (Action.read_of_ok hfind)]
  cases found with
  | none => exact ⟨fun _ => rfl, fun _ => ⟨_, rfl⟩⟩
  | some tree =>
    refine ⟨fun hrefused => ?_, fun hnone => absurd hnone (by simp)⟩
    obtain ⟨w', hrejected⟩ := hrefused
    obtain ⟨_, w₁, -, hrejected⟩ := Action.ok_of_bind hrejected
    obtain ⟨_, w₂, -, hanswer⟩ := Action.ok_of_bind hrejected
    injection hanswer with houtcome
    exact absurd houtcome (run_ne_unknownCard _ _ _ _ _)

/-! ## All keys -/

/-- The paths of a whole program: the files of the cards that are listed, and those that all
cards share. -/
theorem paths_of_generate_whole {outcome : Outcome (List Path)}
    (hcards : (e.corpus project).project.cards w.tree = .ok cards)
    (h : e.generate project "" w = .ok outcome w') :
    outcome = .done (Corpus.wholePaths (e.corpus project) cards) := by
  obtain ⟨paths, hgenerate, rfl⟩ := generateIn_whole.mp h
  obtain ⟨cards', others, t₁, hsteps, rfl⟩ := Corpus.steps_of_generate hgenerate
  cases hcards.symm.trans hsteps.readCards
  obtain ⟨rules, -, rfl⟩ := Corpus.otherFiles_none.mp hsteps.readOthers
  rw [Corpus.map_path_sharedFiles]

/-- In a store whose fields can all be read, the two requests about a card answer the same keys
as unknown, those that no folder with a file of fields has for its name.  No key of a card that
is listed is among them.  They are all keys that are not listed just if every such folder has
the name of a listed card, and what is listed is what a whole program holds. -/
theorem refuses_iff_not_hasFolder {p : Project} {o : Option Node}
    (hproject : (e.corpus project).project = p) (hentry : w.tree.entry? p.cardRoot = .ok o)
    (hread : p.AllReadable w.tree) :
    ∃ cards, p.cards w.tree = .ok cards ∧
      (∀ key, key ≠ "" →
        (p.findCard? key w.tree = .ok none ↔ ¬ p.HasFolder w.tree key) ∧
        (Refuses (e.generate project key) key w ↔ ¬ p.HasFolder w.tree key) ∧
        (Refuses (e.run project key) key w ↔ ¬ p.HasFolder w.tree key) ∧
        (key ∈ cards.map Card.key → p.HasFolder w.tree key)) ∧
      ((∀ key, key ≠ "" →
          (Refuses (e.generate project key) key w ↔ key ∉ cards.map Card.key)) ↔
        ∀ key, key ≠ "" → p.HasFolder w.tree key → key ∈ cards.map Card.key) ∧
      ∀ outcome w', e.generate project "" w = .ok outcome w' →
        outcome = .done (Corpus.wholePaths (e.corpus project) cards) := by
  subst hproject
  obtain ⟨cards, hcards⟩ := hread.exists_cards hentry
  have hkey : ∀ key, key ≠ "" →
      ((e.corpus project).project.findCard? key w.tree = .ok none ↔
        ¬ (e.corpus project).project.HasFolder w.tree key) ∧
      (Refuses (e.generate project key) key w ↔
        ¬ (e.corpus project).project.HasFolder w.tree key) ∧
      (Refuses (e.run project key) key w ↔
        ¬ (e.corpus project).project.HasFolder w.tree key) := by
    intro key hne
    obtain ⟨found, hfind, hiff⟩ := hread.exists_findCard? hentry hne
    exact ⟨hread.findCard?_eq_none_iff hentry hne, (refuses_generateIn_iff hne hfind).trans hiff,
      (refuses_run_iff hne hfind).trans hiff⟩
  refine ⟨cards, hcards, fun key hne => ?_, ?_, ?_⟩
  · obtain ⟨hlookUp, hgenerate, hrun⟩ := hkey key hne
    exact ⟨hlookUp, hgenerate, hrun, hasFolder_of_mem_cards hcards⟩
  · rw [← hread.agree_iff hentry hcards]
    refine forall₂_congr fun key hne => ?_
    obtain ⟨hlookUp, hgenerate, -⟩ := hkey key hne
    rw [hlookUp, hgenerate]
  · exact fun outcome w' hgenerate => paths_of_generate_whole hcards hgenerate

/-- A card with a folder of its own beside the one for the cards below it. -/
def besideTree : FileTree :=
  ⟨[("p", .folder [("cardroot", .folder [("a", .folder
      [("index.json", .file (bytesOf "{}")),
        ("x", .folder [("index.json", .file (bytesOf "{}"))])])])])],
    by simp only [Node.OrderedEntries, Node.Ordered]; decide⟩

def besideProject : Project := ⟨Path.ofString "/p"⟩

theorem allReadable_beside : besideProject.AllReadable besideTree :=
  allReadable_of_isReadable rfl (by decide +kernel)

theorem refuses_iff_not_hasFolder_beside :
    besideProject.AllReadable besideTree ∧ besideProject.HasFolder besideTree "x" ∧
      ¬ Refuses (smallEngine.generate (Path.ofString "/p") "x") "x" ⟨besideTree, [], []⟩ ∧
      Refuses (smallEngine.generate (Path.ofString "/p") "b") "b" ⟨besideTree, [], []⟩ ∧
      Refuses (smallEngine.run (Path.ofString "/p") "b") "b" ⟨besideTree, [], []⟩ := by
  obtain ⟨cards, -, hkeys, -, -⟩ := @refuses_iff_not_hasFolder smallEngine (Path.ofString "/p")
    ⟨besideTree, [], []⟩ besideProject _ rfl rfl allReadable_beside
  have hx : besideProject.HasFolder besideTree "x" :=
    ⟨["a", "x"], ⟨_, rfl, by decide +kernel⟩, by decide⟩
  have hb : ¬ besideProject.HasFolder besideTree "b" := by
    rintro ⟨loc, hloc, hname⟩
    exact absurd (hname ▸ mem_names_of_searched hloc) (by decide)
  obtain ⟨-, hgenerateX, -⟩ := hkeys "x" (by decide)
  obtain ⟨-, hgenerateB, hrunB, -⟩ := hkeys "b" (by decide)
  exact ⟨allReadable_beside, hx, fun hrefused => hgenerateX.mp hrefused hx, hgenerateB.mpr hb,
    hrunB.mpr hb⟩

/-- The card that is found beside the cards below a card is not listed, and a generation of
everything, which comes to its end, leaves no file for it; but one for its key is answered. -/
theorem found_but_not_listed :
    besideProject.AllReadable besideTree ∧
      listed "/p" besideTree = some [("a", "/p/cardroot/a", some 0)] ∧
      foundAt "/p" "x" besideTree = some (some "/p/cardroot/a/x") ∧
      (endOf codeOf (smallEngine.generate (Path.ofString "/p") "x") ⟨besideTree, [], []⟩).1 =
        .answered 200 ∧
      (endOf codeOf (smallEngine.generate (Path.ofString "/p") "") ⟨besideTree, [], []⟩).1 =
        .answered 200 ∧
      (endOf codeOf (smallEngine.generate (Path.ofString "/p") "") ⟨besideTree, [], []⟩).2.shapeAt
        ["p", ".calc", "cards", "x.lp"] = none :=
  ⟨allReadable_beside, by decide +kernel, by decide +kernel, by decide +kernel,
    by decide +kernel, by decide +kernel⟩

end CardLogic.Engine
