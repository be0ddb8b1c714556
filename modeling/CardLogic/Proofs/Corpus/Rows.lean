import CardLogic.Corpus.Basic
import CardLogic.Proofs.FileTree.Walk
import CardLogic.Proofs.Text.Lines
import Mathlib.Data.List.Basic

/-!
The rows of a file that includes others.

Rows that are written are the lines of the file (`linesOf?_rowsText`) and are read again as
they were, and a row belongs to one key alone (`cardRow_inj`).  Adding rows to rows keeps what is
there, puts what is new behind it (`mergeRows_eq_append`) and repeats nothing (`nodup_mergeRows`).
The file of rows is as it was just if nothing was new (`bytesOf_mergeRows_iff`).
-/

namespace CardLogic

theorem Text.unified_of_not_mem {s : List Char} (h : '\r' ∉ s) : unified s = s := by
  induction s with
  | nil => rfl
  | cons c s ih =>
    have hc : c ≠ '\r' := fun he => h (he ▸ List.mem_cons_self)
    have hs : '\r' ∉ s := fun he => h (List.mem_cons_of_mem c he)
    rw [unified, if_neg hc, ih hs]
    intro t ht
    exact absurd ht hc

theorem bytesOf_of_isWhole {text : Text} (h : text.isWhole = true) :
    bytesOf text = text.toString.toByteArray := by
  rw [bytesOf, if_pos h]
  rfl

/-- Bytes that were written from a text are read as that text, but for the line ends. -/
theorem textOf?_bytesOf {text : Text} (h : text.isWhole = true) :
    textOf? (bytesOf text) = some (String.ofList (Text.unified text.chars)) := by
  have hvalid : text.toString.toByteArray.IsValidUTF8 := text.toString.isValidUTF8
  have hfrom : String.fromUTF8? text.toString.toByteArray = some text.toString := by
    unfold String.fromUTF8?
    exact dif_pos hvalid
  unfold textOf?
  rw [bytesOf_of_isWhole h, hfrom, Option.map_some, Text.toString, String.toList_ofList]

namespace ProgramFile

/-- A row: one line, and not a blank one. -/
structure IsRow (row : String) : Prop where
  oneLine : Text.OneLine row.toList
  notBlank : Text.allBlank row.toList = false

theorem toList_rowsText (rows : List String) :
    (rowsText rows).toList = (rows.map String.toList).flatMap (· ++ ['\n']) := by
  unfold rowsText
  rw [String.toList_join, List.flatMap_map, List.flatMap_map]
  refine List.flatMap_congr fun row _ => ?_
  rw [String.toList_append]
  congr 1

theorem bytesOf_inj {s s' : String} (h : bytesOf s = bytesOf s') : s = s' := by
  rw [bytesOf_of_isWhole (Text.isWhole_ofString s), bytesOf_of_isWhole (Text.isWhole_ofString s'),
    Text.toString_ofString, Text.toString_ofString] at h
  exact String.toByteArray_inj.mp h

/-- The file of more rows is another file. -/
theorem rowsText_append_inj {rows more : List String}
    (h : rowsText (rows ++ more) = rowsText rows) : more = [] := by
  cases more with
  | nil => rfl
  | cons row more =>
    have hlist := congrArg String.toList h
    rw [toList_rowsText, toList_rowsText, List.map_append, List.flatMap_append,
      List.append_right_eq_self] at hlist
    simp at hlist

theorem carriageReturn_not_mem_rowsText {rows : List String} (h : ∀ row ∈ rows, IsRow row) :
    '\r' ∉ (rowsText rows).toList := by
  rw [toList_rowsText]
  intro hmem
  obtain ⟨l, hl, hc⟩ := List.mem_flatMap.mp hmem
  obtain ⟨row, hrow, rfl⟩ := List.mem_map.mp hl
  rcases List.mem_append.mp hc with hc | hc
  · exact absurd ((h row hrow).oneLine '\r' hc) (by decide)
  · exact absurd hc (by decide)

/-- The lines of a file that is a text. -/
def linesOf? (content : ByteArray) : Option (List String) :=
  (textOf? content).map fun text => (Text.lines text.toList).map String.ofList

theorem oneLine_of_linesOf? {content : ByteArray} {rows : List String}
    (h : linesOf? content = some rows) {row : String} (hrow : row ∈ rows) :
    Text.OneLine row.toList := by
  unfold linesOf? at h
  obtain ⟨text, -, rfl⟩ := Option.map_eq_some_iff.mp h
  obtain ⟨l, hl, rfl⟩ := List.mem_map.mp hrow
  rw [String.toList_ofList]
  exact Text.oneLine_of_mem_lines hl

/-- Rows that are written are the lines of the file. -/
theorem linesOf?_rowsText {rows : List String} (h : ∀ row ∈ rows, IsRow row) :
    linesOf? (bytesOf (rowsText rows)) = some rows := by
  have hlines : Text.lines (rowsText rows).toList = rows.map String.toList := by
    rw [toList_rowsText]
    refine Text.lines_flatMap (fun l hl => ?_) rfl
    obtain ⟨row, hrow, rfl⟩ := List.mem_map.mp hl
    exact (h row hrow).oneLine
  have hback : String.ofList ∘ String.toList = id := by
    funext row
    exact String.ofList_toList
  unfold linesOf?
  rw [textOf?_bytesOf (Text.isWhole_ofString _), Text.chars_ofString,
    Text.unified_of_not_mem (carriageReturn_not_mem_rowsText h), Option.map_some,
    String.toList_ofList, hlines, List.map_map, hback, List.map_id]

/-- The rows of a file are its lines but the blank ones, if it is a text. -/
theorem readRows_of_file {t : FileTree} {p : Path} {loc : Location} {content : ByteArray}
    (hr : t.resolve p = .ok loc) (h : t.shapeAt loc = some (.file content)) :
    readRows t p =
      match linesOf? content with
      | some lines => .ok (lines.filter fun row => !Text.allBlank row.toList)
      | none => .error (.notText p) := by
  have hfile : t.isFile p = .ok true := by
    unfold FileTree.isFile FileTree.entry?
    rw [hr]
    dsimp only
    rw [FileTree.shapeAt_eq_file.mp h]
    rfl
  have hblank : (fun row : String => !Text.allBlank row.toList) ∘ String.ofList =
      fun l => !Text.allBlank l := by
    funext l
    simp only [Function.comp_apply, String.toList_ofList]
  unfold readRows FileTree.readText linesOf?
  rw [hfile, FileTree.readBytes_of_file hr h]
  dsimp only
  cases textOf? content with
  | none => rfl
  | some text =>
    rw [Option.map_some]
    dsimp only
    rw [List.filter_map, hblank]
    rfl

theorem readRows_of_linesOf? {t : FileTree} {p : Path} {loc : Location} {content : ByteArray}
    {rows : List String} (hr : t.resolve p = .ok loc)
    (h : t.shapeAt loc = some (.file content)) (hrows : linesOf? content = some rows) :
    readRows t p = .ok (rows.filter fun row => !Text.allBlank row.toList) := by
  rw [readRows_of_file hr h, hrows]

/-- One file has the same rows in two trees. -/
theorem readRows_congr {t t' : FileTree} {p : Path} {loc : Location} {content : ByteArray}
    (hr : t.resolve p = .ok loc) (hr' : t'.resolve p = .ok loc)
    (h : t.shapeAt loc = some (.file content)) (h' : t'.shapeAt loc = some (.file content)) :
    readRows t' p = readRows t p := by
  rw [readRows_of_file hr h, readRows_of_file hr' h']

theorem readRows_of_rowsText {t : FileTree} {p : Path} {loc : Location} {rows : List String}
    (hr : t.resolve p = .ok loc) (h : t.shapeAt loc = some (.file (bytesOf (rowsText rows))))
    (hrows : ∀ row ∈ rows, IsRow row) : readRows t p = .ok rows := by
  rw [readRows_of_linesOf? hr h (linesOf?_rowsText hrows), List.filter_eq_self.mpr]
  intro row hrow
  rw [(hrows row hrow).notBlank]
  rfl

/-- Rows that were read are lines of the file at the path, if there is any row. -/
theorem readRows_ok {t : FileTree} {p : Path} {rows : List String} (h : readRows t p = .ok rows) :
    rows = [] ∨ ∃ loc content lines, t.resolve p = .ok loc ∧
      t.shapeAt loc = some (.file content) ∧ linesOf? content = some lines ∧
      rows = lines.filter fun row => !Text.allBlank row.toList := by
  have hnot : t.isFile p = .ok false → rows = [] := by
    intro hfile
    unfold readRows at h
    rw [hfile] at h
    exact (Except.ok.inj h).symm
  cases hfile : t.isFile p with
  | error e =>
    unfold readRows at h
    rw [hfile] at h
    exact absurd h (by simp [bind, Except.bind])
  | ok b =>
    cases b with
    | false => exact Or.inl (hnot hfile)
    | true =>
      right
      obtain ⟨loc, content, hr, hloc⟩ := FileTree.isFile_eq_true.mp hfile
      rw [readRows_of_file hr hloc] at h
      cases hlines : linesOf? content with
      | none => rw [hlines] at h; exact absurd h (by simp)
      | some lines =>
        rw [hlines] at h
        exact ⟨loc, content, lines, hr, hloc, hlines, (Except.ok.inj h).symm⟩

theorem isRow_of_readRows {t : FileTree} {p : Path} {rows : List String}
    (h : readRows t p = .ok rows) {row : String} (hrow : row ∈ rows) : IsRow row := by
  rcases readRows_ok h with rfl | ⟨loc, content, lines, -, -, hlines, rfl⟩
  · exact absurd hrow (by simp)
  · obtain ⟨hmem, hblank⟩ := List.mem_filter.mp hrow
    exact ⟨oneLine_of_linesOf? hlines hmem, by simpa using hblank⟩

/-! ## The row of a card -/

theorem toList_cardRow (key : String) :
    (cardRow key).toList = "#include \"cards/".toList ++ key.toList ++ ".lp\".".toList := by
  have hbegin : "#include \"".toList ++ (cardsFolder ++ "/").toList =
      "#include \"cards/".toList := by decide
  have hend : ".lp".toList ++ "\".".toList = ".lp\".".toList := by decide
  unfold cardRow includeRow cardName
  rw [← hbegin, ← hend]
  simp only [String.toList_append, List.append_assoc]

theorem cardRow_inj {k k' : String} (h : cardRow k = cardRow k') : k = k' := by
  have hlist := congrArg String.toList h
  rw [toList_cardRow, toList_cardRow] at hlist
  exact String.toList_inj.mp (List.append_cancel_left (List.append_cancel_right hlist))

theorem isRow_cardRow {key : String} (h : ∀ ch ∈ key.toList, Text.isBoundary ch = false) :
    IsRow (cardRow key) := by
  refine ⟨?_, ?_⟩
  · rw [toList_cardRow]
    have hbegin : Text.OneLine "#include \"cards/".toList := by decide
    have hend : Text.OneLine ".lp\".".toList := by decide
    exact (hbegin.append h).append hend
  · have hhash : '#' ∈ (cardRow key).toList := by
      rw [toList_cardRow]
      exact List.mem_append_left _ (List.mem_append_left _ (by decide))
    unfold Text.allBlank
    exact List.all_eq_false.mpr ⟨'#', hhash, by decide⟩

theorem isRow_cardRow_iff {key : String} : IsRow (cardRow key) ↔ Text.OneLine key.toList := by
  refine ⟨fun h ch hch => h.oneLine ch ?_, isRow_cardRow⟩
  rw [toList_cardRow]
  exact List.mem_append_left _ (List.mem_append_right _ hch)

end ProgramFile

/-! ## Rows that are added -/

namespace Corpus

open ProgramFile

theorem mem_mergeRows {rows keys : List String} {row : String} :
    row ∈ mergeRows rows keys ↔ row ∈ rows ∨ ∃ k ∈ keys, row = cardRow k := by
  induction keys generalizing rows with
  | nil => simp [mergeRows]
  | cons k ks ih =>
    rw [mergeRows, ih]
    by_cases hk : cardRow k ∈ rows
    · rw [if_pos hk]
      constructor
      · intro hmem
        rcases hmem with h | ⟨k', hk', rfl⟩
        · exact Or.inl h
        · exact Or.inr ⟨k', List.mem_cons_of_mem k hk', rfl⟩
      · intro hmem
        rcases hmem with h | ⟨k', hk', rfl⟩
        · exact Or.inl h
        · rcases List.mem_cons.mp hk' with rfl | hk'
          · exact Or.inl hk
          · exact Or.inr ⟨k', hk', rfl⟩
    · rw [if_neg hk]
      simp only [List.mem_append, List.mem_cons, List.not_mem_nil, or_false, exists_eq_or_imp,
        or_assoc]

theorem mergeRows_eq_self {rows keys : List String} (h : ∀ k ∈ keys, cardRow k ∈ rows) :
    mergeRows rows keys = rows := by
  induction keys with
  | nil => rfl
  | cons k ks ih =>
    rw [mergeRows, if_pos (h k List.mem_cons_self)]
    exact ih fun k' hk' => h k' (List.mem_cons_of_mem k hk')

/-- The rows that were there stay where they are. -/
theorem exists_mergeRows_eq_append (rows keys : List String) :
    ∃ more, mergeRows rows keys = rows ++ more := by
  induction keys generalizing rows with
  | nil => exact ⟨[], (List.append_nil rows).symm⟩
  | cons k ks ih =>
    rw [mergeRows]
    by_cases hk : cardRow k ∈ rows
    · rw [if_pos hk]
      exact ih rows
    · rw [if_neg hk]
      obtain ⟨more, hmore⟩ := ih (rows ++ [cardRow k])
      exact ⟨cardRow k :: more, by rw [hmore, List.append_assoc, List.singleton_append]⟩

/-- Rows of keys that have none yet come behind those that are there. -/
theorem mergeRows_eq_append {rows keys : List String} (hnew : ∀ k ∈ keys, cardRow k ∉ rows)
    (hkeys : keys.Nodup) : mergeRows rows keys = rows ++ keys.map cardRow := by
  induction keys generalizing rows with
  | nil => exact (List.append_nil rows).symm
  | cons k ks ih =>
    obtain ⟨hk, hrest⟩ := List.nodup_cons.mp hkeys
    rw [mergeRows, if_neg (hnew k List.mem_cons_self), ih ?_ hrest, List.append_assoc,
      List.singleton_append, List.map_cons]
    intro k' hk' hmem
    rcases List.mem_append.mp hmem with hmem | hmem
    · exact hnew k' (List.mem_cons_of_mem k hk') hmem
    · cases cardRow_inj (List.mem_singleton.mp hmem)
      exact hk hk'

/-- The file of rows is as it was just if the rows to be added were there. -/
theorem bytesOf_mergeRows_iff {rows keys : List String} :
    bytesOf (rowsText (mergeRows rows keys)) = bytesOf (rowsText rows) ↔
      ∀ k ∈ keys, cardRow k ∈ rows := by
  constructor
  · intro hsame k hk
    obtain ⟨more, hmore⟩ := exists_mergeRows_eq_append rows keys
    rw [hmore] at hsame
    have hnothing := rowsText_append_inj (bytesOf_inj hsame)
    rw [hnothing, List.append_nil] at hmore
    rw [← hmore]
    exact mem_mergeRows.mpr (Or.inr ⟨k, hk, rfl⟩)
  · intro hthere
    rw [mergeRows_eq_self hthere]

theorem nodup_mergeRows {rows : List String} (h : rows.Nodup) (keys : List String) :
    (mergeRows rows keys).Nodup := by
  induction keys generalizing rows with
  | nil => exact h
  | cons k ks ih =>
    rw [mergeRows]
    refine ih ?_
    by_cases hk : cardRow k ∈ rows
    · rw [if_pos hk]
      exact h
    · rw [if_neg hk, List.nodup_append]
      refine ⟨h, by simp, ?_⟩
      intro a ha b hb heq
      subst heq
      exact hk (List.mem_singleton.mp hb ▸ ha)

end Corpus

end CardLogic
