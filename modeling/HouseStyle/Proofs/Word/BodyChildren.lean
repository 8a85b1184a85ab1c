import HouseStyle.Package.Basic
import HouseStyle.Proofs.Word.Writing

/-!
The children of a body. Each of them adds what it is by itself, a section or a table or nothing, and
what stands deeper inside it adds nothing of its own. So the document of a body cut in two is that
of the front followed by that of the back.
-/

namespace HouseStyle

open Xml (Element Node wordName)

namespace Xml

theorem asElement?_eq_some_iff (node : Node) (element : Element) :
    node.asElement? = some element ↔ node = element.node := by
  cases node with
  | element tag children =>
    rw [Node.asElement?, Element.node, Option.some.injEq, Node.element.injEq]
    constructor
    · rintro rfl
      exact ⟨rfl, rfl⟩
    · rintro ⟨rfl, rfl⟩
      rfl
  | text content | comment content | instruction target content =>
    simp [Node.asElement?, Element.node]

theorem asWord?_eq_some_iff (node : Node) (label : String) (element : Element) :
    node.asWord? label = some element ↔
      node = element.node ∧ element.tag.name = wordName label := by
  rw [Node.asWord?, Option.filter_eq_some_iff, asElement?_eq_some_iff, decide_eq_true_eq]

theorem asWord?_eq_none_iff (node : Node) (label : String) :
    node.asWord? label = none ↔
      ∀ element : Element, node = element.node → element.tag.name ≠ wordName label := by
  simp only [Option.eq_none_iff_forall_ne_some, ne_eq, asWord?_eq_some_iff, not_and]

-- A text that is given by its characters need not be taken apart.
theorem parse_ofList (text : List Char) (root : Element)
    (read : (do
      let body ← Lexer.body text
      let reading ← Reading.takeAll body.length .empty body
      reading.finish) = Except.ok root) : parse (String.ofList text) = .ok root := by
  simp only [parse, String.toList_ofList]
  rw [read]

/-- A text of one element, made of short pieces, which are quickly taken apart. -/
def rooted (pieces : List String) : String :=
  String.ofList
    ((["<w:d xmlns:w='", wordSpace, "'>"] ++ pieces ++ ["</w:d>"]).flatMap String.toList)

namespace Element

def rooted (children : List Node) : Element := ⟨⟨wordName "d", []⟩, children⟩

def FirstWord (element : Element) (label : String) (child : Element) : Prop :=
  child.tag.name = wordName label ∧ ∃ before behind,
    element.children = before ++ child.node :: behind ∧
      ∀ node ∈ before, ∀ other : Element, node = other.node → other.tag.name ≠ wordName label

theorem word?_eq_some_iff (element : Element) (label : String) (child : Element) :
    element.word? label = some child ↔ element.FirstWord label child := by
  simp only [word?, List.findSome?_eq_some_iff, FirstWord, asWord?_eq_some_iff,
    asWord?_eq_none_iff]
  constructor
  · rintro ⟨before, node, behind, parts, ⟨rfl, named⟩, passed⟩
    exact ⟨named, before, behind, parts, passed⟩
  · rintro ⟨named, before, behind, parts, passed⟩
    exact ⟨before, child.node, behind, parts, ⟨rfl, named⟩, passed⟩

def withBody (root : Element) (children : List Node) : Element where
  tag := root.tag
  children := root.children.replaceF fun node =>
    (node.asWord? "body").map fun body => .element body.tag children

theorem word?_withBody (root : Element) (children : List Node) :
    (root.withBody children).word? "body" =
      (root.word? "body").map fun body => ⟨body.tag, children⟩ := by
  rw [word?, word?, withBody]
  simp only
  induction root.children with
  | nil => rfl
  | cons node rest ih =>
    cases found : node.asWord? "body" with
    | none =>
      rw [List.replaceF_cons_of_none _ (by rw [found]; rfl), List.findSome?_cons, found,
        List.findSome?_cons, found]
      exact ih
    | some body =>
      have named := ((asWord?_eq_some_iff node "body" body).mp found).2
      have replaced := (asWord?_eq_some_iff (.element body.tag children) "body"
        ⟨body.tag, children⟩).mpr ⟨rfl, named⟩
      rw [List.replaceF_cons_of_some _ (by rw [found]; rfl), List.findSome?_cons, replaced,
        List.findSome?_cons, found]
      rfl

end Element

end Xml

def Document.followedBy (first second : Document) : Document where
  sections := first.sections ++ second.sections
  sheet := first.sheet
  tables := first.tables ++ second.tables

namespace Word

inductive Adds (withTables : Bool) : Node → List Section → List Table → Prop
  | lastParagraph (paragraph properties part : Element)
      (named : paragraph.tag.name = wordName "p") (held : paragraph.FirstWord "pPr" properties)
      (described : properties.FirstWord "sectPr" part) :
      Adds withTables paragraph.node [pageSection part] []
  | paragraph (paragraph : Element) (named : paragraph.tag.name = wordName "p")
      (silent : ∀ properties part, paragraph.FirstWord "pPr" properties →
        ¬properties.FirstWord "sectPr" part) :
      Adds withTables paragraph.node [] []
  | properties (part : Element) (named : part.tag.name = wordName "sectPr") :
      Adds withTables part.node [pageSection part] []
  | table (element : Element) (named : element.tag.name = wordName "tbl")
      (asked : withTables = true) : Adds withTables element.node [] [table element]
  | unread (element : Element) (named : element.tag.name = wordName "tbl")
      (unasked : withTables = false) : Adds withTables element.node [] []
  | other (child : Node) (foreign : ∀ element : Element, child = element.node →
      element.tag.name ≠ wordName "p" ∧ element.tag.name ≠ wordName "sectPr" ∧
        element.tag.name ≠ wordName "tbl") :
      Adds withTables child [] []

inductive AddInTurn (withTables : Bool) : List Node → List Section → List Table → Prop
  | none : AddInTurn withTables [] [] []
  | next {child : Node} {rest : List Node} {sections laterSections : List Section}
      {tables laterTables : List Table} (step : Adds withTables child sections tables)
      (later : AddInTurn withTables rest laterSections laterTables) :
      AddInTurn withTables (child :: rest) (sections ++ laterSections) (tables ++ laterTables)

section Children

variable (withTables : Bool)

def asked (tables : List Table) : List Table := if withTables then tables else []

theorem asked_append (left right : List Table) :
    asked withTables (left ++ right) = asked withTables left ++ asked withTables right := by
  cases withTables with
  | false => rfl
  | true => rfl

-- Every child is of one of the kinds: the names are tried in the order in which they are read.
theorem adds_something (child : Node) :
    ∃ sections tables, Adds withTables child sections tables := by
  cases paragraph : child.asWord? "p" with
  | some element =>
    obtain ⟨rfl, named⟩ := (Xml.asWord?_eq_some_iff _ _ _).mp paragraph
    by_cases described : ∃ properties part,
        element.FirstWord "pPr" properties ∧ properties.FirstWord "sectPr" part
    · obtain ⟨properties, part, held, first⟩ := described
      exact ⟨_, _, .lastParagraph element properties part named held first⟩
    · refine ⟨_, _, .paragraph element named fun properties part held first => ?_⟩
      exact described ⟨properties, part, held, first⟩
  | none =>
    cases properties : child.asWord? "sectPr" with
    | some part =>
      obtain ⟨rfl, named⟩ := (Xml.asWord?_eq_some_iff _ _ _).mp properties
      exact ⟨_, _, .properties part named⟩
    | none =>
      cases table : child.asWord? "tbl" with
      | some element =>
        obtain ⟨rfl, named⟩ := (Xml.asWord?_eq_some_iff _ _ _).mp table
        cases wanted : withTables with
        | true => exact ⟨_, _, .table element named rfl⟩
        | false => exact ⟨_, _, .unread element named rfl⟩
      | none =>
        rw [Xml.asWord?_eq_none_iff] at paragraph properties table
        exact ⟨_, _, .other child fun element same =>
          ⟨paragraph element same, properties element same, table element same⟩⟩

theorem adds_only (child : Node) (sections : List Section) (tables : List Table)
    (adds : Adds withTables child sections tables) :
    sections = (section? child).toList ∧ tables = asked withTables (table? child).toList := by
  cases adds with
  | lastParagraph paragraph properties part named held described =>
    have inner := (paragraph.word?_eq_some_iff _ _).mpr held
    have innermost := (properties.word?_eq_some_iff _ _).mpr described
    simp [section?, table?, asked, Xml.asWord?_node, named, Xml.wordName_inj, inner, innermost]
  | paragraph paragraph named silent =>
    have nothing : (paragraph.word? "pPr").bind (·.word? "sectPr") = none := by
      rw [Option.bind_eq_none_iff]
      intro properties held
      rw [Option.eq_none_iff_forall_ne_some]
      intro part described
      exact silent properties part ((paragraph.word?_eq_some_iff _ _).mp held)
        ((properties.word?_eq_some_iff _ _).mp described)
    simp [section?, table?, asked, Xml.asWord?_node, named, Xml.wordName_inj, nothing]
  | properties part named =>
    simp [section?, table?, asked, Xml.asWord?_node, named, Xml.wordName_inj]
  | table element named present =>
    simp [section?, table?, asked, Xml.asWord?_node, named, Xml.wordName_inj, present]
  | unread element named absent =>
    simp [section?, asked, Xml.asWord?_node, named, Xml.wordName_inj, absent]
  | other child foreign =>
    have paragraph := (Xml.asWord?_eq_none_iff child "p").mpr fun element same =>
      (foreign element same).1
    have properties := (Xml.asWord?_eq_none_iff child "sectPr").mpr fun element same =>
      (foreign element same).2.1
    have table := (Xml.asWord?_eq_none_iff child "tbl").mpr fun element same =>
      (foreign element same).2.2
    simp [section?, table?, asked, paragraph, properties, table]

theorem adds_iff (child : Node) (sections : List Section) (tables : List Table) :
    Adds withTables child sections tables ↔
      sections = (section? child).toList ∧ tables = asked withTables (table? child).toList := by
  refine ⟨adds_only withTables child sections tables, ?_⟩
  rintro ⟨rfl, rfl⟩
  obtain ⟨sections, tables, adds⟩ := adds_something withTables child
  obtain ⟨same, sameTables⟩ := adds_only withTables child sections tables adds
  rw [← same, ← sameTables]
  exact adds

theorem addInTurn_iff (children : List Node) (sections : List Section) (tables : List Table) :
    AddInTurn withTables children sections tables ↔
      sections = children.filterMap section? ∧
        tables = asked withTables (children.filterMap table?) := by
  induction children generalizing sections tables with
  | nil =>
    constructor
    · rintro ⟨⟩
      exact ⟨rfl, by cases withTables <;> rfl⟩
    · rintro ⟨rfl, rfl⟩
      cases withTables with
      | false => exact .none
      | true => exact .none
  | cons child rest ih =>
    have sectionsAhead : (child :: rest).filterMap section? =
        (section? child).toList ++ rest.filterMap section? := by
      rw [List.filterMap_cons]
      cases section? child <;> rfl
    have tablesAhead : (child :: rest).filterMap table? =
        (table? child).toList ++ rest.filterMap table? := by
      rw [List.filterMap_cons]
      cases table? child <;> rfl
    rw [sectionsAhead, tablesAhead, asked_append]
    constructor
    · intro added
      cases added with
      | next step later =>
        obtain ⟨rfl, rfl⟩ := (adds_iff withTables child _ _).mp step
        obtain ⟨rfl, rfl⟩ := (ih _ _).mp later
        exact ⟨rfl, rfl⟩
    · rintro ⟨rfl, rfl⟩
      exact .next ((adds_iff withTables child _ _).mpr ⟨rfl, rfl⟩) ((ih _ _).mpr ⟨rfl, rfl⟩)

variable {withTables}

theorem AddInTurn.append {before behind : List Node} {sections laterSections : List Section}
    {tables laterTables : List Table} (first : AddInTurn withTables before sections tables)
    (second : AddInTurn withTables behind laterSections laterTables) :
    AddInTurn withTables (before ++ behind) (sections ++ laterSections)
      (tables ++ laterTables) := by
  induction first with
  | none => exact second
  | next step later ih =>
    simpa only [List.cons_append, List.append_assoc] using AddInTurn.next step ih

end Children

end Word

namespace Package

open Word (AddInTurn)

/-- The styles are read before the text, so a fault of theirs is the one that is reported. -/
theorem parse_of_body (package : Package) (options : ParseOptions) (root body : Element)
    (text : Xml.parse package.text = .ok root) (found : root.word? "body" = some body)
    (sections : List Section) (tables : List Table)
    (added : AddInTurn options.tables body.children sections tables) :
    package.parse options =
      (package.sheet options.lenient).map fun sheet => ⟨sections, sheet, tables⟩ := by
  obtain ⟨rfl, rfl⟩ := (Word.addInTurn_iff _ _ _ _).mp added
  rw [parse, text]
  cases package.sheet options.lenient with
  | error fault => rfl
  | ok sheet =>
    show Except.ok (Word.document sheet options.tables root) = _
    rw [Word.document, found]
    rfl

theorem parse_of_roots (package : Package) (options : ParseOptions) (text styles : Element)
    (textRead : Xml.parse package.text = .ok text)
    (stylesRead : package.styles.map Xml.parse = some (.ok styles)) :
    package.parse options = .ok (Word.document (Word.sheet styles) options.tables text) := by
  obtain ⟨part, held, read⟩ := Option.map_eq_some_iff.mp stylesRead
  have sheet : package.sheet options.lenient = .ok (Word.sheet styles) := by
    rw [Package.sheet, held]
    simp only [read]
  rw [parse, textRead, sheet]
  rfl

theorem sheet_of_styles (package other : Package) (lenient : Bool)
    (same : other.styles = package.styles) : other.sheet lenient = package.sheet lenient := by
  rw [sheet, sheet, same]

/--
A package with a body in its text: its sections and tables are what the children of the body add,
one after the other, and there is one answer to what they add. When the children are cut in two, the
document is that of the front followed by that of the back, with the same styles.
-/
theorem parsed_in_turn (package : Package) (options : ParseOptions) (root body : Element)
    (text : Xml.parse package.text = .ok root) (found : root.FirstWord "body" body) :
    (∃ sections tables,
      (∀ someSections someTables,
        AddInTurn options.tables body.children someSections someTables ↔
          someSections = sections ∧ someTables = tables) ∧
      package.parse options =
        (package.sheet options.lenient).map fun sheet => ⟨sections, sheet, tables⟩) ∧
    ∀ front back, body.children = front ++ back →
      ∀ first second : Package, first.styles = package.styles → second.styles = package.styles →
        Xml.parse first.text = .ok (root.withBody front) →
        Xml.parse second.text = .ok (root.withBody back) →
        package.parse options = (do
          let earlier ← first.parse options
          let later ← second.parse options
          .ok (earlier.followedBy later)) := by
  have bodied := (root.word?_eq_some_iff "body" body).mpr found
  constructor
  · refine ⟨_, _, Word.addInTurn_iff options.tables body.children, ?_⟩
    exact parse_of_body package options root body text bodied _ _
      ((Word.addInTurn_iff _ _ _ _).mpr ⟨rfl, rfl⟩)
  · intro front back cut first second firstStyles secondStyles firstText secondText
    have added := fun children =>
      (Word.addInTurn_iff options.tables children _ _).mpr ⟨rfl, rfl⟩
    have body_of : ∀ children, (root.withBody children).word? "body" =
        some ⟨body.tag, children⟩ := by
      intro children
      rw [Element.word?_withBody, bodied]
      rfl
    have whole := parse_of_body package options root body text bodied _ _
      (cut ▸ (added front).append (added back))
    rw [whole, parse_of_body first options _ _ firstText (body_of front) _ _ (added front),
      parse_of_body second options _ _ secondText (body_of back) _ _ (added back),
      sheet_of_styles package first _ firstStyles, sheet_of_styles package second _ secondStyles]
    cases package.sheet options.lenient with
    | error fault => rfl
    | ok sheet => rfl

def plain (label : String) (children : List Node) : Node := .element ⟨wordName label, []⟩ children

def memoRoot (children : List Node) : Element := ⟨⟨wordName "d", []⟩, [plain "body" children]⟩

/-- A section is described twice in one paragraph. -/
def memoFront : List Node :=
  [plain "p" [plain "pPr" [plain "sectPr" [], plain "sectPr" []]]]

/-- A table and a section in a cell, and a section in a paragraph but not in its properties. -/
def memoBack : List Node :=
  [plain "tbl" [plain "tr" [plain "tc" [plain "tbl" [], plain "sectPr" []]]],
   plain "p" [plain "sectPr" []]]

def memo (pieces : List String) : Package where
  text := String.ofList
    ((["<d xmlns='", Xml.wordSpace, "'><body>"] ++ pieces ++ ["</body></d>"]).flatMap String.toList)
  styles := none

def memoFrontPieces : List String := ["<p><pPr><sectPr/><sectPr/>", "</pPr></p>"]

def memoBackPieces : List String :=
  ["<tbl><tr><tc><tbl/><sectPr/>", "</tc></tr></tbl><p><sectPr/></p>"]

set_option maxRecDepth 20000 in
theorem memo_parsed :
    (memo (memoFrontPieces ++ memoBackPieces)).parse .standard =
        (do
          let earlier ← (memo memoFrontPieces).parse .standard
          let later ← (memo memoBackPieces).parse .standard
          .ok (earlier.followedBy later)) ∧
      (memo (memoFrontPieces ++ memoBackPieces)).parse .standard =
        .ok ⟨[⟨Margins.unset⟩], .empty, [⟨TableBorders.none, [⟨[⟨[]⟩]⟩]⟩]⟩ := by
  have wholeText : Xml.parse (memo (memoFrontPieces ++ memoBackPieces)).text =
      .ok (memoRoot (memoFront ++ memoBack)) := Xml.parse_ofList _ _ rfl
  have frontText : Xml.parse (memo memoFrontPieces).text = .ok (memoRoot memoFront) :=
    Xml.parse_ofList _ _ rfl
  have backText : Xml.parse (memo memoBackPieces).text = .ok (memoRoot memoBack) :=
    Xml.parse_ofList _ _ rfl
  have found : (memoRoot (memoFront ++ memoBack)).FirstWord "body"
      ⟨⟨wordName "body", []⟩, memoFront ++ memoBack⟩ :=
    (Element.word?_eq_some_iff _ _ _).mp rfl
  obtain ⟨⟨sections, tables, exactly, parsed⟩, cut⟩ :=
    parsed_in_turn _ .standard _ _ wholeText found
  refine ⟨cut memoFront memoBack rfl _ _ rfl rfl frontText backText, ?_⟩
  obtain ⟨rfl, rfl⟩ := (exactly [⟨Margins.unset⟩] [⟨TableBorders.none, [⟨[⟨[]⟩]⟩]⟩]).mp
    ((Word.addInTurn_iff _ _ _ _).mpr ⟨rfl, rfl⟩)
  exact parsed

end Package

end HouseStyle
