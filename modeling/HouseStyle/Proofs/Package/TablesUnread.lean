import HouseStyle.Proofs.Profile.Reports
import HouseStyle.Proofs.Word.BodyChildren

/-!
Tables that are not asked for. They are passed over in two places, where a body is read and where a
profile is made, and in both nothing else changes: each child of a body adds the sections that it
adds anyway, a package that cannot be read fails in the same way, and a profile lacks one field, so
that the text of a report lacks one key.
-/

namespace HouseStyle

open Xml (Node)

def Document.withoutTables (document : Document) : Document := { document with tables := [] }

def Profile.withoutTable (profile : Profile) : Profile := { profile with table := none }

namespace Word

variable {sections : List Section} {tables : List Table}

-- What adds a table adds no section, so nothing is lost when a table is passed over.
theorem Adds.withoutTables {child : Node} (adds : Adds true child sections tables) :
    Adds false child sections [] := by
  cases adds with
  | lastParagraph paragraph properties part named held described =>
    exact .lastParagraph paragraph properties part named held described
  | paragraph paragraph named silent => exact .paragraph paragraph named silent
  | properties part named => exact .properties part named
  | table element named asked => exact .unread element named rfl
  | unread element named unasked => contradiction
  | other child foreign => exact .other child foreign

theorem AddInTurn.withoutTables {children : List Node}
    (added : AddInTurn true children sections tables) : AddInTurn false children sections [] := by
  induction added with
  | none => exact .none
  | next step later ih => exact .next step.withoutTables ih

end Word

namespace Package

theorem parse_of_no_body (package : Package) (options : ParseOptions) (root : Xml.Element)
    (text : Xml.parse package.text = .ok root) (bodiless : root.word? "body" = none) :
    package.parse options =
      (package.sheet options.lenient).map fun sheet => ⟨[], sheet, []⟩ := by
  rw [parse, text]
  cases package.sheet options.lenient with
  | error fault => rfl
  | ok sheet =>
    show Except.ok (Word.document sheet options.tables root) = _
    rw [Word.document, bodiless]
    rfl

theorem parse_withoutTables (package : Package) (lenient : Bool) :
    package.parse ⟨lenient, false⟩ =
      (package.parse ⟨lenient, true⟩).map Document.withoutTables := by
  cases text : Xml.parse package.text with
  | error fault =>
    rw [parse, parse, text]
    cases package.sheet lenient <;> rfl
  | ok root =>
    cases found : root.word? "body" with
    | none =>
      rw [parse_of_no_body package _ root text found, parse_of_no_body package _ root text found]
      cases package.sheet lenient <;> rfl
    | some body =>
      have added := (Word.addInTurn_iff true body.children _ _).mpr ⟨rfl, rfl⟩
      rw [parse_of_body package ⟨lenient, true⟩ root body text found _ _ added,
        parse_of_body package ⟨lenient, false⟩ root body text found _ _ added.withoutTables]
      cases package.sheet lenient <;> rfl

end Package

theorem Document.profile_withoutTables (document : Document) (options : ProfileOptions) :
    document.withoutTables.profile { options with tables := false } =
      (document.profile { options with tables := true }).withoutTable := rfl

theorem Extraction.profile_of_opened (extraction : Extraction) (source : Source)
    (package : Package) (opened : Package.ofSource source = .ok package) :
    extraction.profile source =
      (package.parse extraction.parsing).map fun document =>
        document.profile extraction.profiling := by
  rw [profile, opened]
  show (package.parse extraction.parsing).bind _ = _
  cases package.parse extraction.parsing <;> rfl

theorem Extraction.profile_withoutTables (extraction : Extraction) (source : Source) :
    (extraction.withTables false).profile source =
      ((extraction.withTables true).profile source).map Profile.withoutTable := by
  cases opened : Package.ofSource source with
  | error fault =>
    rw [profile, profile, opened]
    rfl
  | ok package =>
    have parsed : package.parse (extraction.withTables false).parsing =
        (package.parse (extraction.withTables true).parsing).map Document.withoutTables :=
      package.parse_withoutTables extraction.parsing.lenient
    rw [profile_of_opened _ source package opened, profile_of_opened _ source package opened, parsed]
    cases package.parse (extraction.withTables true).parsing with
    | error fault => rfl
    | ok document => exact congrArg Except.ok (document.profile_withoutTables _)

/-! The key of the table among those of a profile. -/

theorem Json.filter_written (keep : String → Bool) (fields : List (String × Option Json)) :
    (written fields).filter (fun entry => keep entry.1) =
      written (fields.filter fun field => keep field.1) := by
  induction fields with
  | nil => rfl
  | cons field rest ih =>
    obtain ⟨key, value⟩ := field
    have first : (member key value).filter (fun entry => keep entry.1) =
        if keep key then member key value else [] := by
      cases value <;> cases kept : keep key <;> simp [member, kept]
    have whole : written ((key, value) :: rest) = member key value ++ written rest := rfl
    rw [whole, List.filter_append, first, ih, List.filter_cons]
    cases keep key <;> rfl

theorem Profile.members_withoutTable (profile : Profile) :
    profile.withoutTable.members = profile.members.filter fun entry => entry.1 != "table" := by
  have fonts : profile.fonts.members.filter (fun entry => entry.1 != "table") =
      profile.fonts.members := by
    rw [List.filter_eq_self]
    intro entry font
    have apart := profile.font_key_apart entry font
    rw [bne_iff_ne]
    rintro same
    rw [same] at apart
    exact apart (by decide)
  rw [members_eq, members_eq, List.filter_append, List.filter_append, fonts,
    Json.filter_written (· != "table"), Json.filter_written (· != "table")]
  rfl

theorem Extraction.report_withoutTables (extraction : Extraction) (source : Source) :
    ((extraction.withTables false).report source).members =
      ((extraction.withTables true).report source).members.filter
        fun entry => entry.1 != "table" := by
  rw [report, report, profile_withoutTables]
  cases (extraction.withTables true).profile source with
  | error fault => rfl
  | ok profile => exact profile.members_withoutTable

/--
Reading and surveying without tables, whatever else is asked for. A package gives the same fault or
the same document without its tables, in either way of reading. A source gives the same fault or the
same profile without its table. The members of a report are the same, in the same order, but for the
one under the key of the table.
-/
theorem tables_passed_over :
    (∀ (package : Package) lenient, package.parse ⟨lenient, false⟩ =
      (package.parse ⟨lenient, true⟩).map fun document => { document with tables := [] }) ∧
    (∀ (extraction : Extraction) source, (extraction.withTables false).profile source =
      ((extraction.withTables true).profile source).map fun profile =>
        { profile with table := none }) ∧
    ∀ (extraction : Extraction) source, ((extraction.withTables false).report source).members =
      ((extraction.withTables true).report source).members.filter
        fun entry => entry.1 != "table" :=
  ⟨Package.parse_withoutTables, Extraction.profile_withoutTables, Extraction.report_withoutTables⟩

end HouseStyle
