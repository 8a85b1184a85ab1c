import HouseStyle.Proofs.Word.BodyChildren
import Mathlib.Logic.Relation

/-!
Markup that is not of the word processing namespace. What is seen of a tree is a smaller tree: the
elements and attributes of the namespace, and the text that an element of text begins with. Every
question asked of an element has the same answer when it is asked of what is seen of it, so every
reader gives the same for both. Foreign markup that is put in or taken out leaves what is seen.
-/

namespace HouseStyle

open Xml (Attribute Element Name Node Tag wordName wordSpace)

namespace Xml

/-! What is seen. -/

def Name.isWord (name : Name) : Bool := name.space = some wordSpace

def Tag.seen (tag : Tag) : Tag where
  name := tag.name
  attributes := tag.attributes.filter fun held => held.name.isWord

/-- The text that is read from an element itself: an element of text has one, if it begins with it. -/
def Element.ownText (element : Element) : List Node :=
  if element.tag.name = wordName "t" then element.leadingText?.toList.map .text else []

mutual

def Node.seen? : Node → Option Node
  | .element tag children =>
    if tag.name.isWord then
      some (.element tag.seen (Element.ownText ⟨tag, children⟩ ++ seenOf children))
    else none
  | .text _ => none
  | .comment _ => none
  | .instruction _ _ => none

def Node.seenOf : List Node → List Node
  | [] => []
  | node :: rest => node.seen?.toList ++ seenOf rest

end

def Element.seen (element : Element) : Element :=
  ⟨element.tag.seen, element.ownText ++ Node.seenOf element.children⟩

theorem isWord_wordName (label : String) : (wordName label).isWord = true := by
  simp [Name.isWord, wordName]

theorem seenOf_eq_filterMap (nodes : List Node) : Node.seenOf nodes = nodes.filterMap Node.seen? := by
  induction nodes with
  | nil => rfl
  | cons node rest ih =>
    rw [Node.seenOf, List.filterMap_cons, ih]
    cases node.seen? <;> rfl

theorem seen?_node (element : Element) :
    element.node.seen? = if element.tag.name.isWord then some element.seen.node else none := by
  rw [Element.node, Node.seen?]
  rfl

theorem exists_of_seen? (node found : Node) (seen : node.seen? = some found) :
    ∃ element : Element, node = element.node ∧ found = element.seen.node := by
  cases node with
  | element tag children =>
    have whole := seen?_node ⟨tag, children⟩
    rw [Element.node, seen] at whole
    split at whole
    · exact ⟨⟨tag, children⟩, rfl, Option.some.inj whole⟩
    · contradiction
  | text content | comment content | instruction target content => simp [Node.seen?] at seen

theorem asWord?_of_unseen (node : Node) (label : String) (unseen : node.seen? = none) :
    node.asWord? label = none := by
  rw [asWord?_eq_none_iff]
  rintro element rfl named
  rw [seen?_node, named, isWord_wordName] at unseen
  contradiction

theorem asWord?_seen (node found : Node) (label : String) (seen : node.seen? = some found) :
    found.asWord? label = (node.asWord? label).map Element.seen := by
  obtain ⟨element, rfl, rfl⟩ := exists_of_seen? node found seen
  rw [asWord?_node, asWord?_node]
  by_cases named : element.tag.name = wordName label
  · rw [if_pos named]
    exact if_pos named
  · rw [if_neg named]
    exact if_neg named

end Xml

/-! Every question is answered from what is seen. -/

namespace Xml.Element

variable (element : Element) (label : String)

@[simp] theorem value?_seen : element.seen.value? label = element.value? label := by
  rw [value?, value?, seen, Tag.seen, List.find?_filter]
  congr 2
  funext held
  by_cases named : held.name = wordName label
  · simp [named, isWord_wordName]
  · simp [named]

theorem filterMap_children_seen {Value : Type} (read : Node → Option Value)
    (unread : ∀ content, read (.text content) = none) :
    element.seen.children.filterMap read =
      element.children.filterMap fun node => node.seen?.bind read := by
  have nothing : element.ownText.filterMap read = [] := by
    rw [ownText]
    split
    · cases element.leadingText? <;> simp [unread]
    · rfl
  rw [seen, List.filterMap_append, nothing, List.nil_append, seenOf_eq_filterMap,
    List.filterMap_filterMap]

@[simp] theorem words_seen : element.seen.words label = (element.words label).map seen := by
  rw [words, words, filterMap_children_seen element _ fun _ => rfl, List.map_filterMap]
  congr 1
  funext node
  cases found : node.seen? with
  | none => rw [asWord?_of_unseen node label found]; rfl
  | some shown => exact asWord?_seen node shown label found

@[simp] theorem word?_seen : element.seen.word? label = (element.word? label).map seen := by
  rw [word?_eq_head?, word?_eq_head?, words_seen, List.head?_map]

@[simp] theorem bind_map_seen {Value : Type} (held : Option Element)
    (read : Element → Option Value) :
    (held.map seen).bind read = held.bind fun inner => read inner.seen := Option.bind_map

@[simp] theorem childValue?_seen : element.seen.childValue? label = element.childValue? label := by
  simp [childValue?]

@[simp] theorem switch?_seen : element.seen.switch? label = element.switch? label := by
  simp [switch?, Function.comp_def]

/-- Behind the text of its own an element is seen to hold elements only. -/
theorem leadingText?_seen (named : element.tag.name = wordName "t") :
    element.seen.leadingText? = element.leadingText? := by
  have elements : ∀ shown rest, element.children.filterMap Node.seen? = shown :: rest →
      ∃ inner : Element, shown = inner.node := by
    intro shown rest whole
    have member : shown ∈ element.children.filterMap Node.seen? := whole ▸ List.mem_cons_self
    obtain ⟨node, _, seen⟩ := List.mem_filterMap.mp member
    obtain ⟨inner, _, rfl⟩ := exists_of_seen? node shown seen
    exact ⟨inner.seen, rfl⟩
  rw [leadingText?, seen, ownText, if_pos named, seenOf_eq_filterMap]
  cases begins : element.leadingText? with
  | some content => rfl
  | none =>
    cases shown : element.children.filterMap Node.seen? with
    | nil => rfl
    | cons first rest =>
      obtain ⟨inner, rfl⟩ := elements first rest shown
      rfl

end Xml.Element

/-!
Every reader gives the same for what is seen. It asks the questions above and those readers that come
before it here, so each lemma opens one reader and leaves the rest to the lemmas before it.
-/

namespace Word

variable (element : Element)

@[simp] theorem side?_seen (label : String) : side? element.seen label = side? element label := by
  simp [side?]

@[simp] theorem margins_seen : margins element.seen = margins element := by
  simp [margins]

@[simp] theorem pageSection_seen : pageSection element.seen = pageSection element := by
  simp [pageSection, Function.comp_def]

@[simp] theorem runFonts_seen : runFonts element.seen = runFonts element := by
  simp [runFonts]

@[simp] theorem fontName?_seen : fontName? element.seen = fontName? element := by
  simp [fontName?]

@[simp] theorem font_seen : font element.seen = font element := by
  simp [font]

@[simp] theorem lineSpacing?_seen : lineSpacing? element.seen = lineSpacing? element := by
  simp [lineSpacing?]

@[simp] theorem firstLineIndent?_seen :
    firstLineIndent? element.seen = firstLineIndent? element := by
  simp [firstLineIndent?]

@[simp] theorem paragraphFormat_seen : paragraphFormat element.seen = paragraphFormat element := by
  simp [paragraphFormat]

@[simp] theorem style?_seen : style? element.seen = style? element := by
  simp [style?, Function.comp_def]

theorem sheet_seen : sheet element.seen = sheet element := by
  simp [sheet, List.filterMap_map]

@[simp] theorem border_seen : border element.seen = border element := by
  simp [border]

@[simp] theorem borders_seen : borders element.seen = borders element := by
  simp [borders, ← Option.map_or, Function.comp_def]

@[simp] theorem run_seen : run element.seen = run element := by
  have texts : (element.words "t").filterMap (fun inner => inner.seen.leadingText?) =
      (element.words "t").filterMap Element.leadingText? := by
    apply List.filterMap_congr
    intro inner held
    obtain ⟨node, _, found⟩ := List.mem_filterMap.mp held
    exact inner.leadingText?_seen ((Xml.asWord?_eq_some_iff node "t" inner).mp found).2
  simp [run, List.filterMap_map, texts]

@[simp] theorem paragraph_seen : paragraph element.seen = paragraph element := by
  simp [paragraph]

@[simp] theorem cell_seen : cell element.seen = cell element := by
  simp [cell, Function.comp_def]

@[simp] theorem row_seen : row element.seen = row element := by
  simp [row, Function.comp_def]

@[simp] theorem table_seen : table element.seen = table element := by
  simp [table, Option.map_bind, Function.comp_def]

theorem section?_seen (child : Node) : child.seen?.bind section? = section? child := by
  cases found : child.seen? with
  | none =>
    rw [section?, Xml.asWord?_of_unseen child "p" found, Xml.asWord?_of_unseen child "sectPr" found]
    rfl
  | some shown =>
    rw [Option.bind_some, section?, section?, Xml.asWord?_seen child shown "p" found,
      Xml.asWord?_seen child shown "sectPr" found]
    cases child.asWord? "p" <;> simp [Option.map_bind, Function.comp_def]

theorem table?_seen (child : Node) : child.seen?.bind table? = table? child := by
  cases found : child.seen? with
  | none => rw [table?, Xml.asWord?_of_unseen child "tbl" found]; rfl
  | some shown =>
    rw [Option.bind_some, table?, table?, Xml.asWord?_seen child shown "tbl" found]
    simp [Function.comp_def]

theorem document_seen (sheet : Sheet) (withTables : Bool) :
    document sheet withTables element.seen = document sheet withTables element := by
  rw [document, document, Element.word?_seen]
  cases element.word? "body" with
  | none => rfl
  | some body =>
    have sections : body.seen.children.filterMap section? = body.children.filterMap section? := by
      rw [Element.filterMap_children_seen body section? fun _ => rfl]
      simp only [section?_seen]
    have tables : body.seen.children.filterMap table? = body.children.filterMap table? := by
      rw [Element.filterMap_children_seen body table? fun _ => rfl]
      simp only [table?_seen]
    rw [Option.map_some]
    simp only [sections, tables]

end Word

/-! Markup that is put in and taken out. -/

namespace Xml

/-- No element of the namespace: one of another or of none, whatever it holds, or no element. -/
def Node.IsForeign (node : Node) : Prop :=
  ∀ element : Element, node = element.node → element.tag.name.space ≠ some wordSpace

namespace Element

/-- The second tree is the first with one foreign node or attribute put in at some place, which is
not among the children of an element of text. -/
inductive Gains : Element → Element → Prop
  | node (tag : Tag) (before behind : List Node) (node : Node) (foreign : node.IsForeign)
      (outside : tag.name ≠ wordName "t") :
      Gains ⟨tag, before ++ behind⟩ ⟨tag, before ++ node :: behind⟩
  | attributed (name : Name) (before behind : List Attribute) (held : Attribute)
      (foreign : held.name.space ≠ some wordSpace) (children : List Node) :
      Gains ⟨⟨name, before ++ behind⟩, children⟩ ⟨⟨name, before ++ held :: behind⟩, children⟩
  | inside (tag : Tag) (before behind : List Node) (child changed : Element)
      (gains : Gains child changed) :
      Gains ⟨tag, before ++ child.node :: behind⟩ ⟨tag, before ++ changed.node :: behind⟩

/-- Foreign markup is put in and taken out, any number of times and in any order. -/
def Edited : Element → Element → Prop := Relation.EqvGen Gains

theorem seen?_of_isForeign (node : Node) (foreign : node.IsForeign) : node.seen? = none := by
  cases found : node.seen? with
  | none => rfl
  | some shown =>
    obtain ⟨element, rfl, rfl⟩ := exists_of_seen? node shown found
    rw [seen?_node, if_neg (by simpa [Name.isWord] using foreign element rfl)] at found
    contradiction

theorem name_of_gains {element other : Element} (gains : element.Gains other) :
    other.tag.name = element.tag.name := by
  cases gains <;> rfl

-- The changed child is an element before and after, so it never is the text at the beginning.
theorem ownText_of_inside (tag : Tag) (before behind : List Node) (child changed : Element) :
    ownText ⟨tag, before ++ changed.node :: behind⟩ =
      ownText ⟨tag, before ++ child.node :: behind⟩ := by
  cases before with
  | nil => rfl
  | cons first rest => cases first <;> rfl

theorem seen_of_gains {element other : Element} (gains : element.Gains other) :
    other.seen = element.seen := by
  induction gains with
  | node tag before behind node foreign outside =>
    have silent : ∀ children, ownText ⟨tag, children⟩ = [] := fun children => if_neg outside
    simp only [seen, silent, seenOf_eq_filterMap, List.filterMap_append, List.filterMap_cons,
      seen?_of_isForeign node foreign]
  | attributed name before behind held foreign children =>
    have dropped : held.name.isWord = false := by simpa [Name.isWord] using foreign
    have tags : Tag.seen ⟨name, before ++ held :: behind⟩ = Tag.seen ⟨name, before ++ behind⟩ := by
      simp [Tag.seen, List.filter_append, dropped]
    rw [seen, seen, tags]
    rfl
  | inside tag before behind child changed gains ih =>
    have shown : changed.node.seen? = child.node.seen? := by
      rw [seen?_node, seen?_node, name_of_gains gains, ih]
    rw [seen, seen, ownText_of_inside tag before behind child changed]
    simp only [seenOf_eq_filterMap, List.filterMap_append, List.filterMap_cons, shown]

theorem seen_of_edited {element other : Element} (edited : element.Edited other) :
    other.seen = element.seen := by
  induction edited with
  | rel first second gains => exact seen_of_gains gains
  | refl element => rfl
  | symm first second _ ih => exact ih.symm
  | trans first second third _ _ ih later => exact later.trans ih

end Element

end Xml

namespace Package

/--
Trees for the text and for the styles, and trees that they become when foreign markup is put in and
taken out: the documents read from them are the same, and so is what comes of packages in whose
parts they stand.
-/
theorem foreign_markup_unseen (text otherText styles otherStyles : Element)
    (textEdited : text.Edited otherText) (stylesEdited : styles.Edited otherStyles) :
    (Word.sheet otherStyles = Word.sheet styles ∧
      ∀ sheet withTables,
        Word.document sheet withTables otherText = Word.document sheet withTables text) ∧
    ∀ (package other : Package) (options : ParseOptions),
      Xml.parse package.text = .ok text → Xml.parse other.text = .ok otherText →
      package.styles.map Xml.parse = some (.ok styles) →
      other.styles.map Xml.parse = some (.ok otherStyles) →
      other.parse options = package.parse options := by
  have sheets : Word.sheet otherStyles = Word.sheet styles := by
    rw [← Word.sheet_seen otherStyles, Element.seen_of_edited stylesEdited, Word.sheet_seen]
  have documents : ∀ sheet withTables,
      Word.document sheet withTables otherText = Word.document sheet withTables text := by
    intro sheet withTables
    rw [← Word.document_seen otherText, Element.seen_of_edited textEdited, Word.document_seen]
  refine ⟨⟨sheets, documents⟩, ?_⟩
  intro package other options textRead otherRead stylesRead otherStylesRead
  rw [parse_of_roots package options text styles textRead stylesRead,
    parse_of_roots other options otherText otherStyles otherRead otherStylesRead, sheets,
    documents]

def alike (label : String) : Name := ⟨none, label⟩

def bothParts (body : List Node) (attributes : List Attribute) : Element :=
  .rooted [plain "body" body, .element ⟨wordName "style", attributes⟩ []]

def bare : Element := bothParts [plain "sectPr" []] [⟨wordName "styleId", "n"⟩]

def strewn : Element :=
  bothParts [.element ⟨alike "sectPr", []⟩ [], plain "sectPr" []]
    [⟨alike "styleId", "m"⟩, ⟨wordName "styleId", "n"⟩]

theorem bare_edited : bare.Edited strewn := by
  have foreign : (Node.element ⟨alike "sectPr", []⟩ []).IsForeign := by
    rintro ⟨tag, children⟩ same
    obtain ⟨rfl, rfl⟩ := Node.element.inj same
    decide
  have node : bare.Gains (bothParts [.element ⟨alike "sectPr", []⟩ [], plain "sectPr" []]
      [⟨wordName "styleId", "n"⟩]) :=
    .inside _ [] _ ⟨⟨wordName "body", []⟩, _⟩ ⟨⟨wordName "body", []⟩, _⟩
      (.node _ [] _ _ foreign (by decide))
  have id : (bothParts [.element ⟨alike "sectPr", []⟩ [], plain "sectPr" []]
      [⟨wordName "styleId", "n"⟩]).Gains strewn :=
    .inside _ [plain "body" _] [] ⟨⟨wordName "style", _⟩, []⟩ ⟨⟨wordName "style", _⟩, []⟩
      (.attributed _ [] _ _ (by decide) [])
  exact .trans _ _ _ (.rel _ _ node) (.rel _ _ id)

def bareMarkup : String := Xml.rooted ["<w:body><w:sectPr/></w:body>", "<w:style w:styleId='n'/>"]

def strewnMarkup : String :=
  Xml.rooted ["<w:body><sectPr/><w:sectPr/>", "</w:body><w:style", " styleId='m' w:styleId='n'/>"]

set_option maxRecDepth 20000 in
theorem strewn_parsed :
    bare.Edited strewn ∧
    (Xml.parse bareMarkup = .ok bare ∧ Xml.parse strewnMarkup = .ok strewn) ∧
    (⟨strewnMarkup, some strewnMarkup⟩ : Package).parse .standard =
      (⟨bareMarkup, some bareMarkup⟩ : Package).parse .standard := by
  have bareRead : Xml.parse bareMarkup = .ok bare := Xml.parse_ofList _ _ rfl
  have strewnRead : Xml.parse strewnMarkup = .ok strewn := Xml.parse_ofList _ _ rfl
  obtain ⟨_, parsed⟩ := foreign_markup_unseen bare strewn bare strewn bare_edited bare_edited
  exact ⟨bare_edited, ⟨bareRead, strewnRead⟩,
    parsed _ _ .standard bareRead strewnRead (congrArg some bareRead) (congrArg some strewnRead)⟩

end Package

end HouseStyle
