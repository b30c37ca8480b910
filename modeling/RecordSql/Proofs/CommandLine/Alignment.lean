import Mathlib.Algebra.GroupWithZero.Nat
import Mathlib.Data.List.Forall2
import Mathlib.Data.String.Basic
import RecordSql.CommandLine.Run

/-!
# Alignment of tables

The lines of a table are aligned: each cell stands whole in the place of its column. Places are
counted in characters, but widths in bytes, of which no text has fewer.

* `Table.getElem?_widths`: the width of a column is the number of bytes of its longest text.
* `Table.aligned_intercalate`: cells that fill their columns start at the places of these.
* `Report.table_aligned`: when there is a table of rows, and what its lines show.
* `run_runStatement_of_no_table`: what becomes of a program that gets rows without a table.
-/

namespace RecordSql

namespace Text

theorem length_le_utf8ByteSize (s : String) : s.length ≤ s.utf8ByteSize := by
  rw [← String.utf8Len_toList, ← String.length_toList]
  induction s.toList with
  | nil => exact Nat.le_refl 0
  | cons c cs ih =>
    have hc := c.utf8Size_pos
    rw [List.length_cons, String.utf8Len_cons]
    omega

theorem length_padRight {width : Nat} {s : String} (h : s.length ≤ width) :
    (padRight width s).length = width := by
  rw [padRight, String.length_append, String.length_ofList, List.length_replicate]
  omega

theorem utf8ByteSize_rule (c : Char) (width : Nat) :
    (rule c width).utf8ByteSize = width * c.utf8Size := by
  rw [rule, String.utf8ByteSize_ofList]
  induction width with
  | zero => exact (Nat.zero_mul _).symm
  | succ width ih => rw [List.replicate_succ, String.utf8Len_cons, ih, Nat.succ_mul]

@[simp] theorem length_rule (c : Char) (width : Nat) : (rule c width).length = width := by
  simp [rule]

end Text

namespace CommandLine

namespace Table

/-! ## Widths -/

/-- The texts of a column: its name, and its cells in the rows that have it. -/
def column (names : List String) (rows : List (List String)) (j : Nat) : List String :=
  names[j]?.toList ++ rows.filterMap fun row => row[j]?

@[simp] theorem length_widen (ws : List Nat) (texts : List String) :
    (widen ws texts).length = ws.length := by
  induction ws generalizing texts with
  | nil => rfl
  | cons w ws ih =>
    cases texts with
    | nil => rfl
    | cons s texts => simp [widen, ih]

theorem getElem?_widen {ws : List Nat} {j w : Nat} (h : ws[j]? = some w) (texts : List String) :
    (widen ws texts)[j]? = some ((texts[j]?.map String.utf8ByteSize).elim w (max w)) := by
  induction ws generalizing texts j with
  | nil => simp at h
  | cons w' ws ih =>
    cases texts with
    | nil => simpa [widen] using h
    | cons s texts =>
      cases j with
      | zero =>
        obtain rfl := Option.some.inj h
        rfl
      | succ j => exact ih (j := j) h texts

theorem getElem?_foldl_widen {ws : List Nat} {j w : Nat} (h : ws[j]? = some w)
    (rows : List (List String)) :
    (rows.foldl widen ws)[j]? =
      (w :: (rows.filterMap fun row => row[j]?).map String.utf8ByteSize).max? := by
  induction rows generalizing ws w with
  | nil => exact h
  | cons row rows ih =>
    rw [List.foldl_cons, ih (getElem?_widen h row), List.filterMap_cons]
    cases row[j]? with
    | none => rfl
    | some s => simp only [List.map_cons, List.max?_cons', List.foldl_cons]; rfl

@[simp] theorem length_widths (names : List String) (rows : List (List String)) :
    (widths names rows).length = names.length := by
  have hfold : ∀ ws : List Nat, (rows.foldl widen ws).length = ws.length := by
    induction rows with
    | nil => exact fun _ => rfl
    | cons row rows ih => exact fun ws => (ih _).trans (length_widen ws row)
  exact (hfold _).trans (List.length_map _)

/-- The width of a column is the number of bytes of its longest text. -/
theorem getElem?_widths {names : List String} {j : Nat} (hj : j < names.length)
    (rows : List (List String)) :
    (widths names rows)[j]? = ((column names rows j).map String.utf8ByteSize).max? := by
  have hname : (names.map String.utf8ByteSize)[j]? = some names[j].utf8ByteSize := by simp [hj]
  rw [widths, getElem?_foldl_widen hname, column, List.getElem?_eq_getElem hj]
  rfl

/-- Every text has room in its column. -/
theorem forall₂_length_le {names : List String} {rows : List (List String)} {texts : List String}
    (hlength : texts.length = names.length) (htexts : texts = names ∨ texts ∈ rows) :
    List.Forall₂ (fun s w => s.length ≤ w) texts (widths names rows) := by
  refine List.forall₂_iff_get.mpr ⟨by simpa using hlength, fun j hj hwidth => ?_⟩
  have hname : j < names.length := hlength ▸ hj
  have hmax := getElem?_widths hname rows
  rw [List.getElem?_eq_getElem hwidth] at hmax
  have hcolumn : texts[j] ∈ column names rows j := by
    rw [column, List.mem_append, Option.mem_toList, List.mem_filterMap]
    obtain rfl | hrow := htexts
    · exact .inl (List.getElem?_eq_getElem hj)
    · exact .inr ⟨texts, hrow, List.getElem?_eq_getElem hj⟩
  exact (Text.length_le_utf8ByteSize _).trans
    ((List.max?_eq_some_iff.mp hmax.symm).2 _ (List.mem_map_of_mem hcolumn))

/-! ## Lines -/

/-- The line has the cells in the places of their columns: each fills its width, and starts behind
    the columns before it and the gaps of three characters between them. -/
structure Aligned (ws : List Nat) (cells : List String) (line : String) : Prop where
  widths : cells.map String.length = ws
  length : line.length = ws.sum + 3 * (ws.length - 1)
  starts : ∀ {j cell}, cells[j]? = some cell → ∃ before after, line = before ++ cell ++ after ∧
    before.length = (ws.take j).sum + 3 * j

/-- The line shows the texts, each of them whole and with nothing but spaces behind it in the place
    of its column. -/
def Shows (ws : List Nat) (texts : List String) (line : String) : Prop :=
  ∃ cells, Aligned ws cells line ∧
    List.Forall₂ (fun text cell => ∃ n, cell = text ++ String.ofList (List.replicate n ' '))
      texts cells

theorem length_intercalate {gap : String} (hgap : gap.length = 3) (cells : List String) :
    (gap.intercalate cells).length =
      (cells.map String.length).sum + 3 * (cells.length - 1) := by
  induction cells with
  | nil => rfl
  | cons cell cells ih =>
    cases cells with
    | nil => simp
    | cons next cells =>
      rw [String.intercalate_cons_cons, String.length_append, String.length_append, ih, hgap]
      simp only [List.map_cons, List.sum_cons, List.length_cons]
      omega

theorem exists_intercalate_eq {gap : String} (hgap : gap.length = 3) {cells : List String} {j : Nat}
    {cell : String} (h : cells[j]? = some cell) :
    ∃ before after, gap.intercalate cells = before ++ cell ++ after ∧
      before.length = ((cells.map String.length).take j).sum + 3 * j := by
  induction cells generalizing j with
  | nil => simp at h
  | cons first cells ih =>
    cases j with
    | zero =>
      obtain rfl := Option.some.inj h
      cases cells with
      | nil => exact ⟨"", "", by simp, rfl⟩
      | cons next cells =>
        refine ⟨"", gap ++ gap.intercalate (next :: cells), ?_, rfl⟩
        rw [String.intercalate_cons_cons, String.empty_append, String.append_assoc]
    | succ j =>
      have hrest : cells[j]? = some cell := h
      obtain ⟨before, after, hcells, hbefore⟩ := ih hrest
      obtain ⟨next, cells, rfl⟩ :=
        List.exists_cons_of_ne_nil (List.ne_nil_of_mem (List.mem_of_getElem? hrest))
      refine ⟨first ++ gap ++ before, after, ?_, ?_⟩
      · rw [String.intercalate_cons_cons, hcells]
        simp only [String.append_assoc]
      · rw [String.length_append, String.length_append, hbefore, hgap]
        simp only [List.map_cons, List.take_succ_cons, List.sum_cons]
        omega

theorem aligned_intercalate {gap : String} (hgap : gap.length = 3) {ws : List Nat}
    {cells : List String} (h : cells.map String.length = ws) :
    Aligned ws cells (gap.intercalate cells) where
  widths := h
  length := by rw [length_intercalate hgap, ← h, List.length_map]
  starts hcell := by
    rw [← h]
    exact exists_intercalate_eq hgap hcell

theorem aligned_separator (ws : List Nat) :
    Aligned ws (ws.map (Text.rule '─')) (separator ws) :=
  aligned_intercalate rfl (by simp [Function.comp_def])

theorem shows_line {ws : List Nat} {texts : List String}
    (h : List.Forall₂ (fun s w => s.length ≤ w) texts ws) : Shows ws texts (line ws texts) := by
  refine ⟨_, aligned_intercalate rfl ?_, ?_⟩
  · induction h with
    | nil => rfl
    | cons hroom _ ih => simpa [Text.length_padRight hroom] using ih
  · induction h with
    | nil => exact .nil
    | cons _ _ ih => exact .cons ⟨_, rfl⟩ ih

/-- Rows have lines just if no column is too wide. -/
theorem lines?_eq_none_iff {names : List String} {rows : List (List String)} :
    lines? names rows = none ↔ ∃ w ∈ widths names rows, maxWidth < w := by
  simp [lines?]

theorem lines?_of_le {names : List String} {rows : List (List String)}
    (h : ∀ w ∈ widths names rows, w ≤ maxWidth) :
    lines? names rows = some (line (widths names rows) names :: separator (widths names rows) ::
      rows.map (line (widths names rows))) :=
  if_pos (by simpa using h)

end Table

namespace Report

/-- **Aligned tables.** Take rows that all have as many columns, of which the first names them, with
    any names and values. The width of a column is the number of bytes of its longest text.

    - There is a table of the rows just if no column is too wide.
    - All of its lines, from the names to the last row, have the characters of all columns and of a
      gap of three between any two. Their cells start at the same places, and each is the whole text
      with nothing but spaces behind it. -/
theorem table_aligned {first : Row} {rest : List Row} {k : Nat}
    (h : ∀ r ∈ first :: rest, r.columns.length = k) :
    let rows := first :: rest
    let names := first.columns.map Prod.fst
    let ws := Table.widths names (rows.map Table.cells)
    (ws.length = k ∧ ∀ j < k,
      ws[j]? = ((Table.column names (rows.map Table.cells) j).map String.utf8ByteSize).max?) ∧
    (rows? .table rows = none ↔ ∃ w ∈ ws, Table.maxWidth < w) ∧
    ((∀ w ∈ ws, w ≤ Table.maxWidth) → ∃ header separator body,
      rows? .table rows =
        some (header :: separator :: body ++ ["", toString rows.length ++ " row(s) returned"]) ∧
      Table.Shows ws names header ∧ Table.Aligned ws (ws.map (Text.rule '─')) separator ∧
      List.Forall₂ (fun r line => Table.Shows ws (Table.cells r) line) rows body) := by
  intro rows names ws
  have hnames : names.length = k := by simpa [names] using h first List.mem_cons_self
  have hrows : rows? .table rows = (Table.lines? names (rows.map Table.cells)).map fun lines =>
      lines ++ ["", toString rows.length ++ " row(s) returned"] := rfl
  refine ⟨⟨?_, fun j hj => ?_⟩, ?_, fun hfits => ?_⟩
  · rw [Table.length_widths, hnames]
  · exact Table.getElem?_widths (hnames ▸ hj) _
  · rw [hrows, Option.map_eq_none_iff, Table.lines?_eq_none_iff]
  · refine ⟨Table.line ws names, Table.separator ws, (rows.map Table.cells).map (Table.line ws),
      ?_, ?_, Table.aligned_separator ws, ?_⟩
    · rw [hrows, Table.lines?_of_le hfits]
      rfl
    · exact Table.shows_line (Table.forall₂_length_le rfl (.inl rfl))
    · simp only [List.forall₂_map_right_iff, List.forall₂_same]
      intro r hr
      have hcells : (Table.cells r).length = names.length := by
        rw [Table.cells, List.length_map, h r hr, hnames]
      exact Table.shows_line (Table.forall₂_length_le hcells (.inr (List.mem_map_of_mem hr)))

/-- Rows whose texts have more bytes than characters, of which the widest are in different rows. -/
theorem table_aligned_letters :
    let first : Row := ⟨[("Größe", .text "中文"), ("n", .null)]⟩
    let second : Row := ⟨[("Größe", .text ""), ("n", .int 12)]⟩
    let rows := [first, second]
    let names := ["Größe", "n"]
    let ws := Table.widths names (rows.map Table.cells)
    (∀ r ∈ rows, r.columns.length = 2) ∧ ws = [7, 4] ∧ (∀ w ∈ ws, w ≤ Table.maxWidth) ∧
      ∃ header separator body,
        rows? .table rows =
          some (header :: separator :: body ++ ["", toString rows.length ++ " row(s) returned"]) ∧
        Table.Shows ws names header ∧ Table.Aligned ws (ws.map (Text.rule '─')) separator ∧
        List.Forall₂ (fun r line => Table.Shows ws (Table.cells r) line) rows body := by
  intro first second rows names ws
  have hcolumns : ∀ r ∈ rows, r.columns.length = 2 := by decide
  have hws : ws = [7, 4] := by decide +kernel
  have hfits : ∀ w ∈ ws, w ≤ Table.maxWidth := by
    rw [hws]
    decide
  exact ⟨hcolumns, hws, hfits, (table_aligned hcolumns).2.2 hfits⟩

/-- A text of more bytes than a column can have leaves its row without a table. -/
theorem table_of_long_text {name s : String} (h : Table.maxWidth < s.utf8ByteSize) :
    rows? .table [⟨[(name, .text s)]⟩] = none := by
  have hwide : ∃ w ∈ Table.widths [name] [[s]], Table.maxWidth < w :=
    ⟨max name.utf8ByteSize s.utf8ByteSize, List.mem_singleton.mpr rfl, lt_max_of_lt_right h⟩
  show (Table.lines? [name] [[s]]).map _ = none
  rw [Table.lines?_eq_none_iff.mpr hwide]
  rfl

/-- The shortest such text of letters. -/
theorem table_of_long_text_letters :
    let row : Row := ⟨[("Id", .text (Text.rule 'x' 65536))]⟩
    (∀ r ∈ [row], r.columns.length = 1) ∧ rows? .table [row] = none := by
  refine ⟨by simp, table_of_long_text ?_⟩
  rw [Text.utf8ByteSize_rule]
  decide

end Report

/-! ## Rows without a table -/

theorem Program.run_get_bind {δ α : Type} (f : Console δ → Program δ α) (console : Console δ) :
    StateT.run (ExceptT.run (get >>= f : Program δ α)) console =
      StateT.run (ExceptT.run (f console)) console := rfl

theorem Program.run_perform_of_ok {δ η α : Type} {a : Action (Link δ η) α} {link : Link Unit η}
    {console : Console δ} {x : α} {l : Link δ η}
    (h : a.run { link with database := console.database } = (.ok x, l)) :
    StateT.run (ExceptT.run (perform a link)) console =
      (.ok (x, { l with database := () }), { console with database := l.database }) := by
  rw [perform, run_get_bind, h]
  rfl

/-- Rows without a table end the program before any of them is printed, and the connection is not
    closed. -/
theorem run_runStatement_of_no_table {δ η : Type} {db : Database δ η} {url : String}
    {statement : Statement} {console : Console δ} {rows : List Row} {l : Link δ η}
    (hquery : (Command.query { statement } (Link.connection db url)).run
      { database := console.database } = (.ok rows, l))
    (hrows : Report.rows? .table rows = none) :
    StateT.run (ExceptT.run (runStatement db url .table statement true)) console =
      (.error .tooWide, { console with database := l.database }) := by
  have hperform : StateT.run (ExceptT.run (Program.perform
      (Command.query { statement } (Link.connection db url)) { database := () })) console =
      (.ok (rows, { l with database := () }), { console with database := l.database }) :=
    Program.run_perform_of_ok hquery
  unfold runStatement
  simp only [if_true, ExceptT.run_bind, StateT.run_bind, hperform]
  dsimp only [bind]
  rw [hrows]
  rfl

end CommandLine

end RecordSql
