/-!
The tree of files and folders.

A folder keeps its entries in the order of their names, each name once, and a tree
carries the proof of that.  So a listing needs no sorting, and two trees with the same
files and folders are the same tree.

`find` is the view of a tree: what stands at a location.  Setting an entry shows at its
location (`find_set_self`), changes the folders above it in that entry alone
(`find_set_above`) and nothing elsewhere (`find_set_of_apart`).
-/

namespace CardLogic

inductive Node where
  | file (content : ByteArray)
  | folder (entries : List (String × Node))
  deriving Inhabited

abbrev Entries := List (String × Node)

/-- The names that lead from the top of a tree to an entry. -/
abbrev Location := List String

namespace Node

mutual

/-- Every folder lists its entries in the strict order of their names. -/
def Ordered : Node → Prop
  | file _ => True
  | folder entries => OrderedEntries entries

def OrderedEntries : Entries → Prop
  | [] => True
  | (n, d) :: es => (∀ e ∈ es, n < e.1) ∧ d.Ordered ∧ OrderedEntries es

end

def isFile : Node → Bool
  | file _ => true
  | folder _ => false

def isFolder : Node → Bool
  | file _ => false
  | folder _ => true

end Node

namespace Entries

def get? : Entries → String → Option Node
  | [], _ => none
  | (n, d) :: es, name => if n = name then some d else get? es name

def put : Entries → String → Option Node → Entries
  | [], name, o => o.toList.map (name, ·)
  | (n, d) :: es, name, o =>
    if name < n then o.toList.map (name, ·) ++ (n, d) :: es
    else if name = n then o.toList.map (name, ·) ++ es
    else (n, d) :: put es name o

/-- What stands at a location below a folder; the empty location is the folder itself. -/
def find (es : Entries) : Location → Option Node
  | [] => some (.folder es)
  | name :: rest =>
    match get? es name with
    | none => none
    | some (.file c) => if rest = [] then some (.file c) else none
    | some (.folder sub) => find sub rest

/-- The entries with the entry at a location below set, or removed.  Nothing changes if
the location is empty or leads through anything but folders. -/
def set (es : Entries) (o : Option Node) : Location → Entries
  | [] => es
  | name :: rest =>
    if rest = [] then put es name o
    else
      match get? es name with
      | some (.folder sub) => put es name (some (.folder (set sub o rest)))
      | _ => es

/-! ## One folder -/

theorem get?_eq_none_of_lt {es : Entries} {name : String} (h : ∀ e ∈ es, name < e.1) :
    get? es name = none := by
  induction es with
  | nil => rfl
  | cons e es ih =>
    obtain ⟨n, d⟩ := e
    have hn : name < n := h (n, d) (by simp)
    have hne : ¬ n = name := fun heq => String.lt_irrefl name (heq ▸ hn)
    simp [get?, hne, ih fun e he => h e (by simp [he])]

theorem get?_put_self {es : Entries} (hes : Node.OrderedEntries es) (name : String)
    (o : Option Node) : get? (put es name o) name = o := by
  induction es with
  | nil => cases o <;> simp [put, get?]
  | cons e es ih =>
    obtain ⟨n, d⟩ := e
    obtain ⟨hlt, _, hrest⟩ := hes
    rw [put]
    split
    · next h =>
      cases o with
      | some d' => simp [get?]
      | none =>
        refine get?_eq_none_of_lt fun e he => ?_
        rcases List.mem_cons.mp (by simpa using he) with rfl | he
        · exact h
        · exact String.lt_trans h (hlt e he)
    · split
      · next h =>
        subst h
        cases o with
        | some d' => simp [get?]
        | none => simpa using get?_eq_none_of_lt hlt
      · next h _ =>
        have hne : ¬ n = name := by grind
        simp [get?, hne, ih hrest]

theorem get?_put_of_ne {es : Entries} {name other : String} (h : other ≠ name)
    (o : Option Node) : get? (put es name o) other = get? es other := by
  have h' : ¬ name = other := fun e => h e.symm
  induction es with
  | nil => cases o <;> simp [put, get?, h']
  | cons e es ih =>
    obtain ⟨n, d⟩ := e
    rw [put]
    split
    · cases o <;> simp [get?, h']
    · split
      · next hn => subst hn; cases o <;> simp [get?, h']
      · simp [get?, ih]

theorem mem_put {es : Entries} {name : String} {o : Option Node} {e : String × Node}
    (h : e ∈ put es name o) : e ∈ es ∨ (e.1 = name ∧ o = some e.2) := by
  induction es with
  | nil => cases o <;> simp_all [put]
  | cons f es ih =>
    obtain ⟨n, d⟩ := f
    rw [put] at h
    split at h
    · cases o <;> simp_all
      rcases h with rfl | h | h <;> simp_all
    · split at h
      · cases o <;> simp_all
        rcases h with rfl | h <;> simp_all
      · rcases List.mem_cons.mp h with rfl | h
        · simp
        · rcases ih h with h | h
          · simp [h]
          · exact Or.inr h

theorem ordered_put {es : Entries} (hes : Node.OrderedEntries es) (name : String)
    {o : Option Node} (ho : ∀ d, o = some d → d.Ordered) :
    Node.OrderedEntries (put es name o) := by
  induction es with
  | nil => cases o <;> simp_all [put, Node.OrderedEntries]
  | cons e es ih =>
    obtain ⟨n, d⟩ := e
    obtain ⟨hlt, hd, hrest⟩ := hes
    rw [put]
    split
    · next h =>
      cases o with
      | none => exact ⟨hlt, hd, hrest⟩
      | some d' =>
        refine ⟨fun e he => ?_, ho d' rfl, hlt, hd, hrest⟩
        rcases List.mem_cons.mp he with rfl | he
        · exact h
        · exact String.lt_trans h (hlt e he)
    · split
      · next h =>
        subst h
        cases o with
        | none => simpa using hrest
        | some d' => exact ⟨hlt, ho d' rfl, hrest⟩
      · next h1 h2 =>
        refine ⟨fun e he => ?_, hd, ih hrest⟩
        rcases mem_put he with he | ⟨he, _⟩
        · exact hlt e he
        · rw [he]; grind

theorem ordered_of_get? {es : Entries} (hes : Node.OrderedEntries es) {name : String} {d : Node}
    (h : get? es name = some d) : d.Ordered := by
  induction es with
  | nil => simp [get?] at h
  | cons e es ih =>
    obtain ⟨n, d'⟩ := e
    obtain ⟨_, hd, hrest⟩ := hes
    rw [get?] at h
    split at h
    · cases h; exact hd
    · exact ih hrest h

/-! ## Locations -/

theorem ordered_set {es : Entries} (hes : Node.OrderedEntries es) (loc : Location)
    {o : Option Node} (ho : ∀ d, o = some d → d.Ordered) :
    Node.OrderedEntries (set es o loc) := by
  induction loc generalizing es with
  | nil => exact hes
  | cons name rest ih =>
    rw [set]
    split
    · exact ordered_put hes name ho
    · split
      · next sub hsub =>
        refine ordered_put hes name ?_
        rintro d ⟨⟩
        exact ih (ordered_of_get? hes hsub)
      · exact hes

theorem ordered_of_find {es : Entries} (hes : Node.OrderedEntries es) {loc : Location} {d : Node}
    (h : find es loc = some d) : d.Ordered := by
  induction loc generalizing es with
  | nil => cases h; exact hes
  | cons name rest ih =>
    rw [find] at h
    split at h
    · exact absurd h (by simp)
    · split at h
      · cases h; trivial
      · exact absurd h (by simp)
    · next sub hsub => exact ih (ordered_of_get? hes hsub) h

theorem find_append (es : Entries) (a b : Location) :
    find es (a ++ b) =
      match find es a with
      | some (.folder sub) => find sub b
      | some (.file c) => if b = [] then some (.file c) else none
      | none => none := by
  induction a generalizing es with
  | nil => rfl
  | cons name rest ih =>
    rw [List.cons_append, find, find]
    split
    · rfl
    · by_cases hr : rest = []
      · subst hr; simp
      · simp [hr]
    · next sub _ => exact ih sub

/-- A folder above a location sees the entry set inside it. -/
theorem find_set_above {es sub : Entries} (hes : Node.OrderedEntries es) {a b : Location}
    (ha : find es a = some (.folder sub)) (hb : b ≠ []) (o : Option Node) :
    find (set es o (a ++ b)) a = some (.folder (set sub o b)) := by
  induction a generalizing es with
  | nil => cases ha; rfl
  | cons name rest ih =>
    rw [find] at ha
    split at ha
    · exact absurd ha (by simp)
    · split at ha <;> simp at ha
    · next s1 hs1 =>
      have hne : rest ++ b ≠ [] := by simp [hb]
      rw [List.cons_append, set, if_neg hne, hs1, find, get?_put_self hes]
      exact ih (ordered_of_get? hes hs1) ha

/-- The entry set at a location stands there. -/
theorem find_set_self {es sub : Entries} (hes : Node.OrderedEntries es) {a : Location}
    (ha : find es a = some (.folder sub)) (name : String) (o : Option Node) :
    find (set es o (a ++ [name])) (a ++ [name]) = o := by
  have hsub : Node.OrderedEntries sub := ordered_of_find hes ha
  rw [find_append, find_set_above hes ha (by simp) o]
  simp only [set, if_true, find]
  rw [get?_put_self hsub]
  cases o with
  | none => rfl
  | some d => cases d <;> rfl

/-- Nothing changes at a location that is neither above nor below the one set. -/
theorem find_set_of_apart {es : Entries} (hes : Node.OrderedEntries es) {loc other : Location}
    (h1 : ¬ loc <+: other) (h2 : ¬ other <+: loc) (o : Option Node) :
    find (set es o loc) other = find es other := by
  induction loc generalizing es other with
  | nil => exact absurd (List.nil_prefix) h1
  | cons name rest ih =>
    cases other with
    | nil => exact absurd (List.nil_prefix) h2
    | cons n r =>
      by_cases hn : n = name
      · subst hn
        have h1' : ¬ rest <+: r := fun h => h1 (List.cons_prefix_cons.mpr ⟨rfl, h⟩)
        have h2' : ¬ r <+: rest := fun h => h2 (List.cons_prefix_cons.mpr ⟨rfl, h⟩)
        have hrest : rest ≠ [] := fun h => h1' (h ▸ List.nil_prefix)
        rw [set, if_neg hrest]
        split
        · next sub hsub =>
          rw [find, find, get?_put_self hes, hsub]
          exact ih (ordered_of_get? hes hsub) h1' h2'
        · rfl
      · rw [set]
        split
        · rw [find, find, get?_put_of_ne hn]
        · split
          · rw [find, find, get?_put_of_ne hn]
          · rfl

end Entries

/-- A tree of files and folders, known by the entries at its top. -/
structure FileTree where
  entries : Entries
  ordered : Node.OrderedEntries entries

namespace FileTree

def empty : FileTree := ⟨[], trivial⟩

instance : Inhabited FileTree := ⟨empty⟩

def find (t : FileTree) (loc : Location) : Option Node := t.entries.find loc

def set (t : FileTree) (loc : Location) (o : Option Node) (ho : ∀ d, o = some d → d.Ordered) :
    FileTree :=
  ⟨t.entries.set o loc, Entries.ordered_set t.ordered loc ho⟩

def setFile (t : FileTree) (loc : Location) (content : ByteArray) : FileTree :=
  t.set loc (some (.file content)) (by rintro d ⟨⟩; trivial)

def setEmptyFolder (t : FileTree) (loc : Location) : FileTree :=
  t.set loc (some (.folder [])) (by rintro d ⟨⟩; trivial)

def remove (t : FileTree) (loc : Location) : FileTree :=
  t.set loc none (by simp)

end FileTree

end CardLogic
