import HouseStyle.Proofs.Profile.Reordering
import HouseStyle.Proofs.Style.Additions

/-!
Documents that grow. Sections, styles and tables come behind those that are there, and rows behind
the other rows of their table, while a profile looks at what stands in front: the first section, and
of the first table its borders and its first row. Once that is there nothing of its kind takes its
place. A style counts wherever it stands, but under an id and a name that are both taken it is not
found, and then the listing alone shows it.
-/

namespace HouseStyle

/-! A style that others hide. -/

namespace Sheet

variable {sheet : Sheet} {added : Style}

/-- A look-up by one of the keys finds nothing new under a key that is taken. -/
theorem or_of_taken (find? : String → Option Style) (key : String)
    (taken : (find? key).isSome = true) (other : String) :
    (find? other).or (if key = other then some added else none) = find? other := by
  by_cases same : key = other
  · obtain ⟨first, found⟩ := Option.isSome_iff_exists.mp taken
    rw [← same, found, Option.some_or]
  · rw [if_neg same, Option.or_none]

theorem answersAlike_add (idTaken : (sheet.byId? added.id).isSome = true)
    (nameTaken : (sheet.byName? added.name).isSome = true) :
    sheet.AnswersAlike (sheet.add added) where
  byId := by
    funext id
    rw [byId?_add, or_of_taken sheet.byId? added.id idTaken]
  byName := by
    funext name
    rw [byName?_add, or_of_taken sheet.byName? added.name nameTaken]

theorem details_add (alike : sheet.AnswersAlike (sheet.add added)) :
    (sheet.add added).details =
      sheet.details ++ if added.isParagraph then [sheet.detail added] else [] := by
  rw [details, details, toList_add, List.filter_append, List.map_append, alike.detail_eq,
    List.filter_singleton]
  cases added.isParagraph <;> rfl

end Sheet

/--
The profile of a document with one more style, whose id and whose name are both taken, be it by two
different styles: at most the listing differs. A paragraph style has its entry behind the others
there, and a style of another kind has none.
-/
theorem Document.profile_of_hidden_style (document : Document) (style : Style)
    (idTaken : (document.sheet.byId? style.id).isSome = true)
    (nameTaken : (document.sheet.byName? style.name).isSome = true) (options : ProfileOptions) :
    (document.addStyle style).profile options =
      { document.profile options with
        details := (document.profile options).details.map fun listing =>
          listing ++ if style.isParagraph then [document.sheet.detail style] else [] } := by
  have alike := Sheet.answersAlike_add idTaken nameTaken
  have profiled := document.profile_of_answersAlike (document.sheet.add style) alike options
  have listing : (if options.detailed then some (document.sheet.add style).details else none) =
      (document.profile options).details.map fun listing =>
        listing ++ if style.isParagraph then [document.sheet.detail style] else [] := by
    rw [document.details_profile, Sheet.details_add alike]
    cases options.detailed <;> rfl
  rw [listing] at profiled
  exact profiled

def mixed : Style :=
  { Style.plain "h" with
    name := "Normal", basedOn := some "n", font := ⟨some "Courier", none, none, some false⟩ }

/-- Neither running text nor headings nor the header of the table take anything from the style. -/
theorem entangled_with_mixed :
    (Document.entangled.sheet.byId? "h").isSome = true ∧
    (Document.entangled.sheet.byName? "Normal").isSome = true ∧
    (Document.entangled.addStyle mixed).profile
        ⟨ProfileOptions.standardTargets, [], true, true⟩ =
      { Document.entangled.profile ⟨ProfileOptions.standardTargets, [], true, true⟩ with
        details := some
          [⟨"n", "Normal", some "Arial", none, none, none, some "Heading 1"⟩,
           ⟨"h", "Heading 1", some "Arial", none, none, none, some "Normal"⟩,
           ⟨"n", "Note", none, none, none, none, none⟩,
           ⟨"h", "Normal", some "Courier", none, none, none, some "Normal"⟩] } := by
  have idTaken : (Document.entangled.sheet.byId? "h").isSome = true := by decide +kernel
  have nameTaken : (Document.entangled.sheet.byName? "Normal").isSome = true := by
    decide +kernel
  refine ⟨idTaken, nameTaken, ?_⟩
  rw [Document.profile_of_hidden_style Document.entangled mixed idTaken nameTaken]
  decide +kernel

/-! Additions in a row. -/

/-- One addition to a document; a row goes to the table at a place. -/
inductive Edit where
  | addSection (part : Section)
  | addStyle (style : Style)
  | addTable (table : Table)
  | addRow (place : Nat) (row : Row)

namespace Edit

def section? : Edit → Option Section
  | addSection part => some part
  | _ => none

def style? : Edit → Option Style
  | addStyle style => some style
  | _ => none

def table? : Edit → Option Table
  | addTable table => some table
  | _ => none

def isRow : Edit → Bool
  | addRow .. => true
  | _ => false

end Edit

namespace Document

-- Where there is no table at the place of a row, there is nothing to add it to.
def edit (document : Document) : Edit → Document
  | .addSection part => document.addSection part
  | .addStyle style => document.addStyle style
  | .addTable table => document.addTable table
  | .addRow place row =>
    { document with tables := document.tables.modify place fun table => table.addRow row }

def run (document : Document) (edits : List Edit) : Document := edits.foldl edit document

theorem run_cons (document : Document) (edit : Edit) (rest : List Edit) :
    document.run (edit :: rest) = (document.edit edit).run rest := rfl

def Settled (document : Document) : Edit → Prop
  | .addSection _ => document.sections ≠ []
  | .addStyle _ => False
  | .addTable _ => document.tables ≠ []
  | .addRow place _ =>
    place = 0 → ∃ table, document.tables.head? = some table ∧ table.rows ≠ []

/-- A run beside the same run without some additions that were settled when they were made. -/
inductive Thins : Document → List Edit → List Edit → Prop
  | done (document : Document) : Thins document [] []
  | leaveOut {document : Document} {edit : Edit} {rest kept : List Edit}
      (settled : document.Settled edit) (later : Thins (document.edit edit) rest kept) :
      Thins document (edit :: rest) kept
  | keep {document : Document} {edit : Edit} {rest kept : List Edit}
      (later : Thins (document.edit edit) rest kept) :
      Thins document (edit :: rest) (edit :: kept)

/-- What a profile looks at: of the first table, the borders and the first row if it has one. -/
structure Front where
  part : Option Section
  sheet : Sheet
  table : Option (TableBorders × Option Row)

def front (document : Document) : Front where
  part := document.sections.head?
  sheet := document.sheet
  table := document.tables.head?.map fun table => (table.borders, table.rows.head?)

namespace Front

def document (front : Front) : Document where
  sections := front.part.toList
  sheet := front.sheet
  tables := front.table.toList.map fun table => ⟨table.1, table.2.toList⟩

def edit (front : Front) : Edit → Front
  | .addSection part => { front with part := front.part.or (some part) }
  | .addStyle style => { front with sheet := front.sheet.add style }
  | .addTable table =>
    { front with table := front.table.or (some (table.borders, table.rows.head?)) }
  | .addRow 0 row =>
    { front with table := front.table.map fun table => (table.1, table.2.or (some row)) }
  | .addRow (_ + 1) _ => front

end Front

theorem profile_front (document : Document) (options : ProfileOptions) :
    document.front.document.profile options = document.profile options := by
  obtain ⟨sections, sheet, tables⟩ := document
  rcases sections with _ | ⟨part, parts⟩ <;>
    rcases tables with _ | ⟨⟨borders, _ | ⟨row, rows⟩⟩, tables⟩ <;> rfl

theorem profile_of_front (left right : Document) (same : left.front = right.front)
    (options : ProfileOptions) : left.profile options = right.profile options := by
  rw [← left.profile_front, same, right.profile_front]

theorem front_edit (document : Document) (edit : Edit) :
    (document.edit edit).front = document.front.edit edit := by
  obtain ⟨sections, sheet, tables⟩ := document
  cases edit with
  | addSection part => simp [Document.edit, addSection, front, Front.edit]
  | addStyle style => rfl
  | addTable table => cases tables <;> rfl
  | addRow place row =>
    rcases tables with _ | ⟨⟨borders, rows⟩, tables⟩ <;> cases place <;>
      simp [Document.edit, Table.addRow, front, Front.edit]

theorem front_run (document : Document) (edits : List Edit) :
    (document.run edits).front = edits.foldl Front.edit document.front := by
  induction edits generalizing document with
  | nil => rfl
  | cons edit rest ih =>
    rw [run_cons, ih, front_edit, List.foldl_cons]

theorem edit_front_of_settled (document : Document) (edit : Edit)
    (settled : document.Settled edit) : document.front.edit edit = document.front := by
  cases edit with
  | addSection part =>
    obtain ⟨first, rest, listed⟩ := List.exists_cons_of_ne_nil settled
    simp [front, Front.edit, listed]
  | addStyle style => exact settled.elim
  | addTable table =>
    obtain ⟨first, rest, listed⟩ := List.exists_cons_of_ne_nil settled
    simp [front, Front.edit, listed]
  | addRow place row =>
    cases place with
    | zero =>
      obtain ⟨table, first, held⟩ := settled rfl
      obtain ⟨top, rows, listed⟩ := List.exists_cons_of_ne_nil held
      simp [front, Front.edit, first, listed]
    | succ place => rfl

theorem front_run_of_settled (document : Document) (edits : List Edit)
    (settled : ∀ edit ∈ edits, document.Settled edit) :
    (document.run edits).front = document.front := by
  rw [front_run]
  induction edits with
  | nil => rfl
  | cons edit rest ih =>
    rw [List.foldl_cons, document.edit_front_of_settled edit (settled edit List.mem_cons_self)]
    exact ih fun other member => settled other (List.mem_cons_of_mem edit member)

/-- The two runs have different documents in between, but always with one front. -/
theorem front_run_of_thins (document : Document) (edits kept : List Edit)
    (thins : document.Thins edits kept) :
    (document.run edits).front = (document.run kept).front := by
  rw [front_run, front_run]
  induction thins with
  | done document => rfl
  | @leaveOut document edit rest kept settled later ih =>
    rw [front_edit, document.edit_front_of_settled edit settled] at ih
    rw [List.foldl_cons, document.edit_front_of_settled edit settled, ih]
  | @keep document edit rest kept later ih =>
    rw [List.foldl_cons, List.foldl_cons, ← front_edit, ih]

/--
Without rows in between, what is added of one kind is not touched by what is added of another.
-/
theorem run_eq_of_rowless (document : Document) (edits : List Edit)
    (rowless : ∀ edit ∈ edits, edit.isRow = false) :
    document.run edits =
      { sections := document.sections ++ edits.filterMap Edit.section?
        sheet := (edits.filterMap Edit.style?).foldl Sheet.add document.sheet
        tables := document.tables ++ edits.filterMap Edit.table? } := by
  induction edits generalizing document with
  | nil => simp [run]
  | cons edit rest ih =>
    have plain := rowless edit List.mem_cons_self
    rw [run_cons, ih _ fun other member => rowless other (List.mem_cons_of_mem edit member)]
    cases edit with
    | addSection added | addStyle added | addTable added =>
      simp [Document.edit, addSection, addStyle, addTable, List.filterMap_cons, Edit.section?,
        Edit.style?, Edit.table?]
    | addRow place row => contradiction

/--
The profile of a document that grows. Additions that are settled leave it as it is, in any number
and order: further sections once there is one, further tables once there is one, and further rows of
any table once the first one has a row. Out of a whole run each addition can be left out that was
settled when its turn came. And in whichever order sections, styles and tables alternate, the
profile is the same if those of each kind come in one order.
-/
theorem profile_of_run (document : Document) (options : ProfileOptions) :
    (∀ edits, (∀ edit ∈ edits, document.Settled edit) →
      (document.run edits).profile options = document.profile options) ∧
    (∀ edits kept, document.Thins edits kept →
      (document.run edits).profile options = (document.run kept).profile options) ∧
    ∀ edits others : List Edit, (∀ edit ∈ edits ++ others, edit.isRow = false) →
      edits.filterMap Edit.section? = others.filterMap Edit.section? →
      edits.filterMap Edit.style? = others.filterMap Edit.style? →
      edits.filterMap Edit.table? = others.filterMap Edit.table? →
      (document.run edits).profile options = (document.run others).profile options := by
  refine ⟨?_, ?_, ?_⟩
  · intro edits settled
    exact profile_of_front _ _ (document.front_run_of_settled edits settled) options
  · intro edits kept thins
    exact profile_of_front _ _ (document.front_run_of_thins edits kept thins) options
  · intro edits others rowless sections styles tables
    rw [List.forall_mem_append] at rowless
    rw [run_eq_of_rowless document edits rowless.1, run_eq_of_rowless document others rowless.2,
      sections, styles, tables]

def wide : Section := ⟨.uniform ⟨360000⟩⟩

def bare : Section := ⟨.unset⟩

def hollowRow : Row := ⟨[]⟩

def boldRow : Row := ⟨[⟨[Paragraph.ofRuns [.strong "a"]]⟩]⟩

def begun : Document := ⟨[bare], .ofList [Style.plain "Normal"], [⟨.none, [hollowRow]⟩]⟩

def lateEdits : List Edit :=
  [.addRow 0 boldRow, .addTable ⟨.none, [boldRow]⟩, .addSection wide, .addRow 1 boldRow]

def mingledEdits : List Edit :=
  [.addTable ⟨.none, []⟩, .addTable ⟨.none, [boldRow]⟩, .addSection bare, .addRow 1 boldRow,
    .addRow 0 hollowRow, .addStyle (Style.plain "Normal"), .addRow 0 boldRow]

def neededEdits : List Edit :=
  [.addTable ⟨.none, []⟩, .addSection bare, .addRow 0 hollowRow, .addStyle (Style.plain "Normal")]

/-- What says nothing still stands in front, and keeps the margins and the bold header out. -/
theorem hollow_front_stays :
    ((∀ edit ∈ lateEdits, begun.Settled edit) ∧
      (begun.run lateEdits).profile .standard = begun.profile .standard) ∧
    (empty.Thins mingledEdits neededEdits ∧
      (empty.run mingledEdits).profile .standard = (empty.run neededEdits).profile .standard) ∧
    (begun.run [.addSection wide, .addStyle (Style.plain "a"), .addStyle mixed]).profile .standard =
      (begun.run [.addStyle (Style.plain "a"), .addStyle mixed, .addSection wide]).profile
        .standard := by
  have settled : ∀ edit ∈ lateEdits, begun.Settled edit := by
    simp [lateEdits, Settled, begun]
  have thins : empty.Thins mingledEdits neededEdits := by
    refine .keep (.leaveOut (List.cons_ne_nil _ _) (.keep (.leaveOut ?_ (.keep (.keep
      (.leaveOut ?_ (.done _)))))))
    · intro first
      contradiction
    · exact fun _ => ⟨⟨.none, [hollowRow]⟩, rfl, List.cons_ne_nil _ _⟩
  refine ⟨⟨settled, (profile_of_run begun .standard).1 lateEdits settled⟩,
    ⟨thins, (profile_of_run empty .standard).2.1 mingledEdits neededEdits thins⟩, ?_⟩
  refine (profile_of_run begun .standard).2.2 _ _ ?_ rfl rfl rfl
  simp [Edit.isRow]

end Document

end HouseStyle
