import HouseStyle.Package.Basic

/-!
Which fault of a package is the one reported. Getting a document from bytes goes through seven
stages. What is wrong at a stage is told here from the bytes alone and for each stage by itself,
since both parts can be at fault at once and in several ways; the fault reported is that of the
first stage that has one. Lenient parsing passes over one stage, and the document it then comes to
is the one that the package without its styles would give.
-/

namespace HouseStyle

def refusal? {Reason Value : Type} : Except Reason Value → Option Reason
  | .error reason => some reason
  | .ok _ => none

theorem refusal?_eq_some_iff {Reason Value : Type} (result : Except Reason Value)
    (reason : Reason) : refusal? result = some reason ↔ result = .error reason := by
  cases result with
  | error other => simp [refusal?]
  | ok value => simp [refusal?]

theorem refusal?_eq_none_iff {Reason Value : Type} (result : Except Reason Value) :
    refusal? result = none ↔ ∃ value, result = .ok value := by
  cases result with
  | error reason => simp [refusal?]
  | ok value => simp [refusal?]

namespace Archive

-- An entry gives no text if the archive refuses it, if it is damaged or if it is not in UTF-8.
def text (archive : Archive) (entry : Entry) : Except PackageError String :=
  match archive.contents entry with
  | .error fault => .error (.archive fault)
  | .ok (.error damage) => .error (.input (.damaged damage))
  | .ok (.ok contents) =>
    match Utf8.decode (Package.withoutMark contents.toList) with
    | .error fault => .error (.encoding fault)
    | .ok text => .ok text

def part? (archive : Archive) (name : String) : Option (Except PackageError String) :=
  (archive.find? name).map archive.text

def without (archive : Archive) (name : String) : Archive :=
  { archive with entries := archive.entries.filter fun entry => entry.name ≠ name }

end Archive

namespace Package

theorem decodePart_eq (contents : ByteArray) :
    decodePart contents =
      match Utf8.decode (withoutMark contents.toList) with
      | .error fault => .error (.encoding fault)
      | .ok text => .ok text := by
  rw [decodePart]
  cases Utf8.decode (withoutMark contents.toList) with
  | error fault => rfl
  | ok text => rfl

theorem readPart_of_part?_none (archive : Archive) (name : String)
    (absent : archive.part? name = none) : readPart archive name = .ok none := by
  have unlisted : archive.find? name = none := Option.map_eq_none_iff.mp absent
  rw [readPart, unlisted]

theorem readPart_of_part?_some (archive : Archive) (name : String)
    (result : Except PackageError String) (present : archive.part? name = some result) :
    readPart archive name = result.map some := by
  obtain ⟨entry, listed, rfl⟩ := Option.map_eq_some_iff.mp present
  simp only [readPart, listed, Archive.text]
  cases archive.contents entry with
  | error fault => rfl
  | ok unpacked =>
    cases unpacked with
    | error damage => rfl
    | ok contents =>
      change (decodePart contents).map some = _
      rw [decodePart_eq]

inductive Stage where
  | magic
  | opening
  | presence
  | text
  | styles
  | stylesMarkup
  | textMarkup

def Stage.order : List Stage :=
  [.magic, .opening, .presence, .text, .styles, .stylesMarkup, .textMarkup]

-- Bytes that are no archive have no parts.
def partOf? (bytes : ByteArray) (name : String) : Option (Except PackageError String) :=
  (Archive.ofBytes bytes).toOption.bind (·.part? name)

def markupFault? (text : String) : Option PackageError :=
  (refusal? (Xml.parse text)).map .markup

/-- What is wrong with some bytes at a stage, whatever is wrong with them at other stages. -/
def Stage.fault? (lenient : Bool) (bytes : ByteArray) : Stage → Option PackageError
  | magic => if Archive.hasMagic bytes then none else some .unknownFormat
  | opening => (refusal? (Archive.ofBytes bytes)).map .archive
  | presence => if (partOf? bytes textPart).isSome then none else some (.missingPart textPart)
  | text => (partOf? bytes textPart).bind refusal?
  | styles => (partOf? bytes stylesPart).bind refusal?
  | stylesMarkup =>
    if lenient then none
    else ((partOf? bytes stylesPart).bind Except.toOption).bind markupFault?
  | textMarkup => ((partOf? bytes textPart).bind Except.toOption).bind markupFault?

def document (options : ParseOptions) (archive : Archive) : Except PackageError Document := do
  let package ← ofArchive archive
  package.parse options

def documentOf (options : ParseOptions) (bytes : ByteArray) : Except PackageError Document := do
  let package ← ofBytes bytes
  package.parse options

theorem ofBytes_of_archive (bytes : ByteArray) (archive : Archive)
    (magic : Archive.hasMagic bytes = true) (opened : Archive.ofBytes bytes = .ok archive) :
    ofBytes bytes = ofArchive archive := by
  rw [ofBytes, magic, opened]
  rfl

theorem partOf?_of_archive (bytes : ByteArray) (archive : Archive) (name : String)
    (opened : Archive.ofBytes bytes = .ok archive) :
    partOf? bytes name = archive.part? name := by
  rw [partOf?, opened]
  rfl

/-- The package that two parts make: styles may be absent, but not at fault. -/
def assemble (text styles : Option (Except PackageError String)) : Except PackageError Package :=
  match text, styles with
  | none, _ => .error (.missingPart textPart)
  | some (.error fault), _ => .error fault
  | some (.ok content), none => .ok ⟨content, none⟩
  | some (.ok _), some (.error fault) => .error fault
  | some (.ok content), some (.ok declared) => .ok ⟨content, some declared⟩

-- After this nothing looks into an archive but for the two parts.
theorem ofArchive_eq_assemble (archive : Archive) :
    ofArchive archive = assemble (archive.part? textPart) (archive.part? stylesPart) := by
  rw [ofArchive]
  rcases text : archive.part? textPart with _ | fault | content
  · rw [readPart_of_part?_none archive textPart text]; rfl
  · rw [readPart_of_part?_some archive textPart _ text]; rfl
  · rw [readPart_of_part?_some archive textPart _ text]
    rcases styles : archive.part? stylesPart with _ | fault | declared
    · rw [readPart_of_part?_none archive stylesPart styles]; rfl
    · rw [readPart_of_part?_some archive stylesPart _ styles]; rfl
    · rw [readPart_of_part?_some archive stylesPart _ styles]; rfl

theorem sheet_refusal (package : Package) (lenient : Bool) :
    refusal? (package.sheet lenient) =
      if lenient then none else package.styles.bind markupFault? := by
  unfold sheet
  cases package.styles with
  | none => cases lenient <;> rfl
  | some styles =>
    simp only [Option.bind_some, markupFault?]
    cases Xml.parse styles with
    | ok root => cases lenient <;> rfl
    | error fault => cases lenient <;> rfl

theorem parse_refusal (package : Package) (options : ParseOptions) :
    refusal? (package.parse options) =
      (if options.lenient then none else package.styles.bind markupFault?).or
        (markupFault? package.text) := by
  rw [← sheet_refusal, parse]
  cases package.sheet options.lenient with
  | error fault => rfl
  | ok sheet =>
    rw [markupFault?, refusal?, Option.none_or]
    cases Xml.parse package.text with
    | error fault => rfl
    | ok root => rfl

theorem findSome?_cons_or {Item Value : Type} (find? : Item → Option Value) (first : Item)
    (rest : List Item) :
    (first :: rest).findSome? find? = (find? first).or (rest.findSome? find?) := by
  rw [List.findSome?_cons]
  cases find? first with
  | none => rfl
  | some value => rfl

/--
What is left to go wrong once the archive is open: both parts are read before either is parsed.
-/
theorem document_refusal (options : ParseOptions) (bytes : ByteArray) (archive : Archive)
    (opened : Archive.ofBytes bytes = .ok archive) :
    refusal? (document options archive) =
      [Stage.presence, .text, .styles, .stylesMarkup, .textMarkup].findSome?
        (Stage.fault? options.lenient bytes) := by
  simp only [findSome?_cons_or, List.findSome?_nil, Stage.fault?,
    partOf?_of_archive bytes archive _ opened, document, ofArchive_eq_assemble]
  rcases archive.part? textPart with _ | fault | content
  · rfl
  · rfl
  · rcases archive.part? stylesPart with _ | fault | declared
    · change refusal? (parse ⟨content, none⟩ options) = _
      rw [parse_refusal]
      simp [refusal?, Except.toOption]
    · rfl
    · change refusal? (parse ⟨content, some declared⟩ options) = _
      rw [parse_refusal]
      simp [refusal?, Except.toOption]

theorem documentOf_refusal (options : ParseOptions) (bytes : ByteArray) :
    refusal? (documentOf options bytes) =
      Stage.order.findSome? (Stage.fault? options.lenient bytes) := by
  rw [Stage.order, findSome?_cons_or, findSome?_cons_or, Stage.fault?, Stage.fault?]
  cases magic : Archive.hasMagic bytes with
  | false =>
    rw [documentOf, ofBytes, magic]
    rfl
  | true =>
    cases opened : Archive.ofBytes bytes with
    | error fault =>
      rw [documentOf, ofBytes, magic, opened]
      rfl
    | ok archive =>
      rw [← document_refusal options bytes archive opened, documentOf,
        ofBytes_of_archive bytes archive magic opened, document]
      rfl

/-! Lenient parsing. -/

def wellFormed (text : String) : Bool := (Xml.parse text).isOk

def withoutStyles (package : Package) : Package := { package with styles := none }

-- Styles that cannot be read as text at all are not malformed, and nothing forgives them.
def malformed (part : Option (Except PackageError String)) : Bool :=
  (part.bind Except.toOption).any fun text => !wellFormed text

theorem parse_lenient (package : Package) (tables : Bool) :
    package.parse ⟨true, tables⟩ =
      (if package.styles.all wellFormed then package else package.withoutStyles).parse
        ⟨false, tables⟩ := by
  obtain ⟨text, styles⟩ := package
  cases styles with
  | none => rfl
  | some styles =>
    cases parsed : Xml.parse styles with
    | ok root => simp [parse, sheet, wellFormed, parsed, Except.isOk, Except.toBool]
    | error fault =>
      simp [parse, sheet, wellFormed, withoutStyles, parsed, Except.isOk, Except.toBool]

theorem find?_without (archive : Archive) (name other : String) :
    (archive.without name).find? other = if other = name then none else archive.find? other := by
  unfold Archive.find? Archive.without
  rw [List.findRev?_eq_find?_reverse, List.findRev?_eq_find?_reverse, ← List.filter_reverse,
    List.find?_filter]
  by_cases same : other = name
  · rw [if_pos same, List.find?_eq_none]
    simp [same]
  · rw [if_neg same]
    congr 1
    funext entry
    by_cases named : entry.name = other
    · simp [named, same]
    · simp [named]

-- How an entry is unpacked depends on the bytes of the archive and not on its other entries.
theorem part?_without (archive : Archive) (name other : String) :
    (archive.without name).part? other = if other = name then none else archive.part? other := by
  rw [Archive.part?, find?_without]
  split
  · rfl
  · rfl

/--
Malformed styles can be left out of the parts or dropped from the package that the parts make.
-/
theorem assemble_without_malformed (text styles : Option (Except PackageError String)) :
    assemble text (if malformed styles then none else styles) =
      (assemble text styles).map fun package =>
        if package.styles.all wellFormed then package else package.withoutStyles := by
  rcases text with _ | fault | content
  · rfl
  · rfl
  · rcases styles with _ | fault | declared
    · rfl
    · rfl
    · have judged : malformed (some (.ok declared)) = !wellFormed declared := rfl
      rw [judged, assemble]
      cases good : wellFormed declared with
      | true => simp [assemble, Except.map, good]
      | false => simp [assemble, Except.map, good, withoutStyles]

theorem document_lenient (archive : Archive) (tables : Bool) :
    document ⟨true, tables⟩ archive =
      document ⟨false, tables⟩
        (if malformed (archive.part? stylesPart) then archive.without stylesPart else archive) := by
  have text : (archive.without stylesPart).part? textPart = archive.part? textPart := by
    rw [part?_without, if_neg (by decide)]
  have styles : (archive.without stylesPart).part? stylesPart = none := by
    rw [part?_without, if_pos rfl]
  have opened : ofArchive
      (if malformed (archive.part? stylesPart) then archive.without stylesPart else archive) =
      (ofArchive archive).map fun package =>
        if package.styles.all wellFormed then package else package.withoutStyles := by
    rw [ofArchive_eq_assemble archive, ← assemble_without_malformed, ofArchive_eq_assemble]
    split
    · rw [text, styles]
    · rfl
  rw [document, document, opened]
  cases ofArchive archive with
  | error fault => rfl
  | ok package => exact parse_lenient package tables

/--
Which outcome some bytes have: the fault of the first stage that has one, and a document exactly
when no stage has any. Lenient parsing of an opened package is strict parsing, of that package when
its styles are absent or XML and of the package without its styles otherwise, and it is the same
with the part for styles taken out of the archive.
-/
theorem outcome_by_stages :
    (∀ options bytes error, documentOf options bytes = .error error ↔
      Stage.order.findSome? (Stage.fault? options.lenient bytes) = some error) ∧
    (∀ options bytes, (∃ document, documentOf options bytes = .ok document) ↔
      ∀ stage, Stage.fault? options.lenient bytes stage = none) ∧
    (∀ (package : Package) tables, package.parse ⟨true, tables⟩ =
      (if package.styles.all wellFormed then package else package.withoutStyles).parse
        ⟨false, tables⟩) ∧
    (∀ archive tables, document ⟨true, tables⟩ archive =
      document ⟨false, tables⟩
        (if malformed (archive.part? stylesPart) then archive.without stylesPart
          else archive)) := by
  refine ⟨?_, ?_, parse_lenient, document_lenient⟩
  · intro options bytes error
    rw [← refusal?_eq_some_iff, documentOf_refusal]
  · intro options bytes
    rw [← refusal?_eq_none_iff, documentOf_refusal, List.findSome?_eq_none_iff]
    constructor
    · intro sound stage
      exact sound stage (by cases stage <;> simp [Stage.order])
    · intro sound stage _
      exact sound stage

end Package

end HouseStyle
